import IgnoreRules.Text.Basic

/-!
# Globs

The parsed form of a glob.  A glob is a sequence of pieces; a piece is a token or a group of
alternatives, and groups do not nest.  Whether a wildcard may stand for a path separator is not part
of the glob: it is chosen when a path is matched (`WildcardScope`).

## Main definitions

* `CharClass` : a bracket expression, as a list of inclusive ranges.
* `Token` : what stands for one stretch of the path.
* `Piece`, `Glob` : tokens and groups in sequence.
-/

namespace IgnoreRules

/-! ## Bracket expressions -/

/-- A bracket expression: the listed ranges, or everything outside them. -/
structure CharClass where
  /-- Whether the expression opened with a negation mark. -/
  negated : Bool
  /-- The members, a single character `c` being the range from `c` to `c`. -/
  ranges : List (Char × Char)
  deriving DecidableEq, Repr

namespace CharClass

/-- Whether some range of the class holds the character. -/
def lists (cls : CharClass) (c : Char) : Bool :=
  cls.ranges.any fun r => decide (r.1 ≤ c ∧ c ≤ r.2)

end CharClass

/-! ## Tokens and pieces -/

namespace Glob

/-- What stands for one stretch of a path. -/
inductive Token
  /-- Exactly this character. -/
  | char (c : Char)
  /-- One character. -/
  | anyChar
  /-- Any run of characters. -/
  | anyRun
  /-- One character of a class. -/
  | oneOf (cls : CharClass)
  /-- A recursive component at the end of the glob: anything at all, separators included. -/
  | anyTail
  /-- A recursive component with its separator: nothing, or anything that ends in a separator. -/
  | anyDirs
  deriving DecidableEq, Repr

/-- A token, or alternatives of which one is taken. -/
inductive Piece
  | token (t : Token)
  | group (branches : List (List Token))
  deriving DecidableEq, Repr

end Glob

/-- A glob: its pieces from left to right. -/
abbrev Glob := List Glob.Piece

/-- What the wildcards of a glob may stand for. -/
inductive WildcardScope
  /-- Anything, path separators included. -/
  | wholePath
  /-- Anything within one component: no separator. -/
  | component
  deriving DecidableEq, Repr

namespace WildcardScope

/-- Whether a wildcard may stand for this character. -/
def admits : WildcardScope → Char → Bool
  | wholePath, _ => true
  | component, c => c != '/'

end WildcardScope

/-- Whether a class stands for this character; a negated class is a wildcard, a plain one is not. -/
def CharClass.admits (cls : CharClass) (scope : WildcardScope) (c : Char) : Bool :=
  if cls.negated then !cls.lists c && scope.admits c else cls.lists c

end IgnoreRules
