import IgnoreRules.Text.Basic

/-!
# Needless escapes

A backslash matters to a glob only in front of one of its special characters.  `unescape` drops every
other backslash, so that `\#`, `\!` and an escaped blank become plain characters while an escaped
star stays a literal star.
-/

namespace IgnoreRules

namespace Rule

/-- The characters whose escape a glob needs. -/
def isSpecial (c : Char) : Bool :=
  c == '*' || c == '?' || c == '[' || c == ']' || c == '{' || c == '}' || c == '\\'

/-- A text being unescaped: what was kept, latest first, and whether a backslash waits. -/
structure Unescaping where
  kept : Text := []
  escaped : Bool := false

namespace Unescaping

/-- Takes in the next character; a waiting backslash is kept only in front of a special one. -/
def push (u : Unescaping) (c : Char) : Unescaping :=
  if u.escaped then
    if isSpecial c then ⟨c :: '\\' :: u.kept, false⟩ else ⟨c :: u.kept, false⟩
  else if c = '\\' then
    ⟨u.kept, true⟩
  else
    ⟨c :: u.kept, false⟩

end Unescaping

/-- The pattern without its needless escapes. -/
def unescape (pattern : Text) : Text :=
  (pattern.foldl Unescaping.push {}).kept.reverse

end Rule

end IgnoreRules
