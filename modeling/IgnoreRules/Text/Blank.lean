import IgnoreRules.Text.Basic

/-!
# White space

The characters that trimming removes: the separators of Unicode, the tabulation and line controls,
and the four information separators `U+001C` to `U+001F`.
-/

namespace IgnoreRules

namespace Text

/-- The ranges of white space, in ascending order. -/
def blankRanges : List (Nat × Nat) :=
  [(0x09, 0x0D), (0x1C, 0x20), (0x85, 0x85), (0xA0, 0xA0), (0x1680, 0x1680), (0x2000, 0x200A),
    (0x2028, 0x2029), (0x202F, 0x202F), (0x205F, 0x205F), (0x3000, 0x3000)]

/-- Whether a character is white space. -/
def isBlank (c : Char) : Bool :=
  blankRanges.any fun r => decide (r.1 ≤ c.toNat ∧ c.toNat ≤ r.2)

/-- The text without the white space at its two ends. -/
def trim (t : Text) : Text :=
  trimWhile isBlank t

end Text

end IgnoreRules
