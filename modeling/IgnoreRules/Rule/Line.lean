import IgnoreRules.Glob.Basic
import IgnoreRules.Rule.Unescape
import IgnoreRules.Text.Blank

/-!
# Rules and the lines that state them

A line of an ignore file is blank, a comment, or states one rule.  Reading a line never fails: whether
the pattern of a rule is a well-formed glob is found out when rules are compiled.

A rule applies at every depth unless its pattern starts with a separator, which is why most patterns
come out with a recursive component in front.

## Main definitions

* `Rule` : a normalised pattern with its three marks.
* `Line`, `Line.parse` : what a line says.
* `Rule.ofLines` : the rules of several lines.
-/

namespace IgnoreRules

/-- One ignore rule. -/
structure Rule where
  /-- The glob that paths are matched against. -/
  pattern : Text
  /-- Whether wildcards stay within one path component. -/
  anchored : Bool
  /-- Whether the rule applies to directories only. -/
  dirOnly : Bool
  /-- Whether a match keeps the path instead of ignoring it. -/
  negation : Bool
  deriving DecidableEq, Repr

/-- What one line of an ignore file says. -/
inductive Line
  | blank
  | comment
  | rule (r : Rule)
  deriving DecidableEq, Repr

namespace Rule

/-- What the wildcards of the rule may stand for. -/
def scope (r : Rule) : WildcardScope :=
  if r.anchored then .component else .wholePath

/-- The beginning of a pattern that applies at every depth. -/
def everyDepth : Text := ['*', '*', '/']

/-- The end of a pattern for everything inside a directory. -/
def everythingInside : Text := ['/', '*', '*']

/-! ## From a body to a pattern

The body of a line is what is left of it without its marks; `rooted` says whether a separator stood
in front of the body. -/

/-- The pattern of a body: needless escapes dropped, every depth unless rooted, and at its end nothing
that would match a directory along with what is inside it. -/
def normalize (rooted : Bool) (body : Text) : Text :=
  let plain := unescape body
  let deep := if !rooted && !everyDepth.isPrefixOf plain then everyDepth ++ plain else plain
  if everythingInside.isSuffixOf deep then deep ++ ['/', '*'] else deep

/-- The rule of a line that is neither blank nor a comment.  The marks are taken off one after the
other, trimming again in between. -/
def ofTrimmed (line : Text) : Rule :=
  let negation := ['!'].isPrefixOf line
  let unmarked := if negation then Text.trim (line.dropWhile (· == '!')) else line
  let dirOnly := ['/'].isSuffixOf unmarked
  let named := if dirOnly then Text.trim (Text.dropEndWhile (· == '/') unmarked) else unmarked
  let rooted := ['/'].isPrefixOf named
  let body := if rooted then named.dropWhile (· == '/') else named
  { pattern := normalize rooted body
    anchored := rooted || body.contains '/'
    dirOnly := dirOnly
    negation := negation }

end Rule

namespace Line

/-- Reads a line, with or without its ending. -/
def parse (raw : Text) : Line :=
  match Text.trim raw with
  | [] => blank
  | '#' :: _ => comment
  | c :: rest => rule (Rule.ofTrimmed (c :: rest))

/-- The rule a line states, if it states one. -/
def rule? : Line → Option Rule
  | rule r => some r
  | _ => none

end Line

/-- The rules of some lines, in order. -/
def Rule.ofLines (lines : List Text) : List Rule :=
  lines.filterMap fun line => (Line.parse line).rule?

end IgnoreRules
