import IgnoreRules.Text.Blank
import IgnoreRules.Text.Digit
import IgnoreRules.Text.Letter

/-!
# Reading decimal numbers

A number is written in decimal, with an optional fraction and exponent, or as one of the words for
infinity and for what is no number.  Digits of any script count, single underscores may stand between
digits, and white space may surround the whole; the information separators are no white space here.

## Main definitions

* `Decimal` : what a text of a number says.
* `Decimal.parse?` : reading.
* `Decimal.whole?` : reading a whole number.
* `Decimal.toFloat` : the nearest double-precision value.
-/

namespace IgnoreRules

/-- What a text of a number says. -/
inductive Decimal
  /-- `digits` times ten to the power `exponent`. -/
  | finite (negative : Bool) (digits : Nat) (exponent : Int)
  | infinite (negative : Bool)
  | notANumber
  deriving DecidableEq, Repr

namespace Decimal

/-! ## Plain characters -/

/-- White space around a number. -/
def isPadding (c : Char) : Bool :=
  Text.isBlank c && !decide (0x1C ≤ c.toNat ∧ c.toNat ≤ 0x1F)

/-- A digit of any script as the ASCII digit of its value; any other character as it is. -/
def plainChar (c : Char) : Char :=
  match Text.digitValue? c with
  | some v => Char.ofNat ('0'.toNat + v)
  | none => c

/-- Whether a character is an ASCII digit. -/
def isDigit (c : Char) : Bool :=
  decide ('0' ≤ c ∧ c ≤ '9')

/-- Drops underscores, each of which needs a digit on both sides. `afterDigit` says whether one stands
in front. -/
def dropUnderscores (afterDigit : Bool) : Text → Option Text
  | [] => some []
  | '_' :: rest =>
      if afterDigit && (rest.head?.map isDigit).getD false then dropUnderscores false rest else none
  | c :: rest => (dropUnderscores (isDigit c) rest).map (c :: ·)

/-! ## Parts of a number -/

/-- The number that some digits denote. -/
def ofDigits (ds : Text) : Nat :=
  ds.foldl (fun n d => 10 * n + (d.toNat - '0'.toNat)) 0

/-- A sign and what follows it. -/
def splitSign : Text → Bool × Text
  | '-' :: rest => (true, rest)
  | '+' :: rest => (false, rest)
  | t => (false, t)

/-- The exponent that a text is; an empty text is the exponent zero. -/
def readExponent : Text → Option Int
  | [] => some 0
  | c :: rest =>
      let (negative, digits) := splitSign rest
      if (c == 'e' || c == 'E') && !digits.isEmpty && digits.all isDigit then
        some (if negative then -(ofDigits digits : Int) else ofDigits digits)
      else
        none

/-- The finite number that a text without sign is. -/
def readFinite (negative : Bool) (t : Text) : Option Decimal :=
  let whole := t.takeWhile isDigit
  let rest := t.dropWhile isDigit
  let fraction := if rest.head? == some '.' then rest.tail.takeWhile isDigit else []
  let rest := if rest.head? == some '.' then rest.tail.dropWhile isDigit else rest
  if whole.isEmpty && fraction.isEmpty then
    none
  else
    (readExponent rest).map fun exponent =>
      .finite negative (ofDigits (whole ++ fraction)) (exponent - fraction.length)

/-- Reads a number. -/
def parse? (t : Text) : Option Decimal :=
  match dropUnderscores false ((Text.trimWhile isPadding t).map plainChar) with
  | none => none
  | some plain =>
      let (negative, magnitude) := splitSign plain
      let word := magnitude.map Char.toLower
      if word = "inf".toList || word = "infinity".toList then some (.infinite negative)
      else if word = "nan".toList then some .notANumber
      else readFinite negative magnitude

/-- The most digits that a whole number may be written with. -/
def maxWholeDigits : Nat := 4300

/-- Reads a whole number. -/
def whole? (t : Text) : Option Int :=
  match dropUnderscores false ((Text.trimWhile isPadding t).map plainChar) with
  | none => none
  | some plain =>
      let (negative, digits) := splitSign plain
      if digits.isEmpty || !digits.all isDigit || maxWholeDigits < digits.length then none
      else some (if negative then -(ofDigits digits : Int) else ofDigits digits)

/-! ## Double precision -/

/-- The number of decimal digits of a value. -/
def digitCount (n : Nat) : Nat :=
  if n = 0 then 0 else (Nat.toDigits 10 n).length

/-- The double-precision value next to a number, infinite when it is too large for one. -/
def toFloat : Decimal → Float
  | notANumber => 0.0 / 0.0
  | infinite negative => if negative then -(1.0 / 0.0) else 1.0 / 0.0
  | finite negative digits exponent =>
      let size := exponent + digitCount digits
      let magnitude : Float :=
        if digits = 0 || size < -330 then 0.0
        else if 310 < size then 1.0 / 0.0
        else Float.ofScientific digits (exponent < 0) exponent.natAbs
      if negative then -magnitude else magnitude

end Decimal

end IgnoreRules
