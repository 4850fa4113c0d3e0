import IgnoreRules.Text.Basic

/-!
# Ranges of characters

Sets of characters as they stand in tables: code points in steps of one or two.
-/

namespace IgnoreRules

/-- A first and a last code point, and the distance between neighbours. -/
abbrev CharRange := Nat × Nat × Nat

namespace CharRange

/-- Whether a code point is in the range. -/
def has (r : CharRange) (n : Nat) : Bool :=
  decide (r.1 ≤ n ∧ n ≤ r.2.1 ∧ (n - r.1) % r.2.2 = 0)

end CharRange

namespace Text

/-- Whether a character is in one of some ranges. -/
def isIn (ranges : List CharRange) (c : Char) : Bool :=
  ranges.any fun r => CharRange.has r c.toNat

end Text

end IgnoreRules
