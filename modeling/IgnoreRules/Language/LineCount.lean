import IgnoreRules.Language.Syntax
import IgnoreRules.Text.Blank
import IgnoreRules.Text.Lines

/-!
# Counting lines

Every line of a source text is code, comment or blank.  A line that starts inside a block comment, or
opens one at its beginning, is comment; code followed by a comment is code.  All that one line leaves
to the next is whether a block comment is open.  Strings of the language are not recognised, so a
marker inside one counts.

## Main definitions

* `LineCount` : how many lines there are of each kind.
* `BlockMarkers.endsInside` : whether a block comment is open at the end of a line.
* `LanguageSyntax.classify` : one line.
* `LanguageSyntax.count` : a text.
-/

namespace IgnoreRules

/-! ## Counts -/

/-- How many lines there are of each kind, and altogether.  A count that stands for a difference may be
negative. -/
structure LineCount where
  code : Int := 0
  comment : Int := 0
  blank : Int := 0
  lines : Int := 0
  deriving DecidableEq, Repr

/-- The kinds of lines. -/
inductive LineKind
  | code
  | comment
  | blank
  deriving DecidableEq, Repr

namespace LineCount

/-- Sums field by field. -/
def add (a b : LineCount) : LineCount :=
  ⟨a.code + b.code, a.comment + b.comment, a.blank + b.blank, a.lines + b.lines⟩

instance : Add LineCount := ⟨add⟩

/-- Counts one more line. -/
def addLine (n : LineCount) : LineKind → LineCount
  | .code => { n with code := n.code + 1, lines := n.lines + 1 }
  | .comment => { n with comment := n.comment + 1, lines := n.lines + 1 }
  | .blank => { n with blank := n.blank + 1, lines := n.lines + 1 }

end LineCount

/-! ## Block comments -/

namespace BlockMarkers

/-- The marker that is looked for next. -/
def marker (m : BlockMarkers) (inside : Bool) : Text :=
  if inside then m.closing else m.opening

/-- Whether a block comment is open at the end of a text that starts inside one or not.  Markers are
looked for alternately, each behind the one before. -/
def endsInside (m : BlockMarkers) (inside : Bool) (t : Text) : Bool :=
  match _h : Text.afterFirst? (m.marker inside) t with
  | none => inside
  | some rest => endsInside m (!inside) rest
termination_by 2 * t.length + inside.toNat
decreasing_by
  have hle := Text.length_le_of_afterFirst? _h
  cases inside with
  | true => simp only [Bool.not_true, Bool.toNat_true, Bool.toNat_false]; omega
  | false =>
      have hpos : 0 < m.opening.length := List.length_pos_iff.2 m.opening_ne_nil
      have hmarker : (m.marker false).length = m.opening.length := rfl
      simp only [Bool.not_false, Bool.toNat_true, Bool.toNat_false]
      omega

end BlockMarkers

/-! ## Lines and texts -/

namespace LanguageSyntax

/-- Whether a block comment is open after a text. -/
def endsInside (s : LanguageSyntax) (inside : Bool) (t : Text) : Bool :=
  match s.block with
  | none => inside
  | some m => m.endsInside inside t

/-- Whether a line begins with the opening marker of a block comment. -/
def opensBlock (s : LanguageSyntax) (line : Text) : Bool :=
  match s.block with
  | none => false
  | some m => m.opening.isPrefixOf line

/-- The kind of a line, and whether a block comment is open after it. -/
def classify (s : LanguageSyntax) (inside : Bool) (line : Text) : LineKind × Bool :=
  let stripped := Text.trim line
  if inside then (.comment, s.endsInside true stripped)
  else if stripped = [] then (.blank, false)
  else if s.opensBlock stripped then (.comment, s.endsInside false stripped)
  else if s.lineMarkers.any (·.isPrefixOf stripped) then (.comment, false)
  else (.code, s.endsInside false stripped)

/-- A count in progress: the lines so far, and whether a block comment is open. -/
def countLine (s : LanguageSyntax) (progress : LineCount × Bool) (line : Text) : LineCount × Bool :=
  let (kind, inside) := s.classify progress.2 line
  (progress.1.addLine kind, inside)

/-- Counts the lines of a text. -/
def count (s : LanguageSyntax) (t : Text) : LineCount :=
  ((Text.splitLines t).foldl s.countLine ({}, false)).1

end LanguageSyntax

end IgnoreRules
