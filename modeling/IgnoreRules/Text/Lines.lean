import IgnoreRules.Text.Basic

/-!
# Lines

How a text falls into lines.  A line ends at any of ten characters; a carriage return followed by a
line feed is one ending.  Reading a file replaces both spellings of a carriage return by a line feed
first, so `splitLines` of what was read gives the lines of what was written.
-/

namespace IgnoreRules

namespace Text

/-- The characters that end a line. -/
def isLineEnd (c : Char) : Bool :=
  decide (0x0A ≤ c.toNat ∧ c.toNat ≤ 0x0D) || decide (0x1C ≤ c.toNat ∧ c.toNat ≤ 0x1E) ||
    c.toNat == 0x85 || c.toNat == 0x2028 || c.toNat == 0x2029

/-- Drops each carriage return that a line feed follows. -/
def joinReturnFeed : Text → Text
  | [] => []
  | c :: t => if c = '\r' ∧ t.head? = some '\n' then joinReturnFeed t else c :: joinReturnFeed t

/-- Puts a character in front of the first of some lines. -/
def consLine (c : Char) : List Text → List Text
  | [] => [[c]]
  | line :: lines => (c :: line) :: lines

/-- The lines of a text, without their endings.  An ending at the very end opens no further line. -/
def splitLines (t : Text) : List Text :=
  (joinReturnFeed t).foldr (fun c lines => if isLineEnd c then [] :: lines else consLine c lines) []

/-- Every line ending made of a carriage return becomes a line feed. -/
def unifyReturns (t : Text) : Text :=
  (joinReturnFeed t).map fun c => if c = '\r' then '\n' else c

/-- The lines with a line feed between neighbours. -/
def joinLines (lines : List Text) : Text :=
  List.intercalate ['\n'] lines

end Text

end IgnoreRules
