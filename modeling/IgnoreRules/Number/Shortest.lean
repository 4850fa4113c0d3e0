import IgnoreRules.Text.Basic

/-!
# Shortest decimal text

A double-precision value is written with the fewest digits that read back as the same value, the
nearest such number if there are several.  From `10⁻⁴` up to below `10¹⁶` the text is positional with
at least one decimal place, otherwise it has an exponent of at least two digits.

## Main definitions

* `Binary` : a positive value as `significand · 2 ^ exponent`, with the interval that reads back as it.
* `Binary.shortest` : the digits and the decimal exponent of the last one.
* `Shortest.text` : the text of any value.
-/

namespace IgnoreRules

/-- A power of two. -/
def twoPow (n : Nat) : Nat :=
  Nat.pow 2 n

/-- A power of ten. -/
def tenPow (n : Nat) : Nat :=
  Nat.pow 10 n

/-- A positive double-precision value. -/
structure Binary where
  significand : Nat
  exponent : Int
  /-- Whether the next value below is only half as far away as the next one above. -/
  narrowBelow : Bool
  deriving DecidableEq, Repr

namespace Binary

/-- The value with the given bits, which hold no sign and neither infinity nor zero. -/
def ofBits (bits : Nat) : Binary :=
  let field : Nat := bits / twoPow 52
  let fraction : Nat := bits % twoPow 52
  if field = 0 then ⟨fraction, -1074, false⟩
  else ⟨twoPow 52 + fraction, (field : Int) - 1075, fraction == 0 && 1 < field⟩

/-! ## Quarters

All comparisons are made in whole numbers: the value and the ends of its interval are counted in
quarters of the unit `2 ^ exponent`, and both sides are scaled so that no fraction is left. -/

/-- What a count of quarters is multiplied by. -/
def scale (b : Binary) : Nat :=
  twoPow b.exponent.toNat

/-- What all scaled counts are divided by. -/
def divisor (b : Binary) : Nat :=
  4 * twoPow (-b.exponent).toNat

/-- The value in scaled quarters. -/
def value (b : Binary) : Nat :=
  4 * b.significand * b.scale

/-- The lower end of the interval in scaled quarters. -/
def low (b : Binary) : Nat :=
  (4 * b.significand - if b.narrowBelow then 1 else 2) * b.scale

/-- The upper end of the interval in scaled quarters. -/
def high (b : Binary) : Nat :=
  (4 * b.significand + 2) * b.scale

/-- Whether `n · 10 ^ k` reads back as the value; the ends do when the significand is even. -/
def readsBack (b : Binary) (n : Nat) (k : Int) : Bool :=
  let point := n * tenPow k.toNat * b.divisor
  let lift := tenPow (-k).toNat
  if b.significand % 2 = 0 then
    decide (b.low * lift ≤ point) && decide (point ≤ b.high * lift)
  else
    decide (b.low * lift < point) && decide (point < b.high * lift)

/-- The distance of `n · 10 ^ k` from the value, on a scale that depends on `k` alone. -/
def distance (b : Binary) (n : Nat) (k : Int) : Nat :=
  let point := n * tenPow k.toNat * b.divisor
  let target := b.value * tenPow (-k).toNat
  (point - target) + (target - point)

/-- The power of ten of the first digit. -/
def magnitude (b : Binary) : Int :=
  let whole := b.value / b.divisor
  let inverse := (b.divisor + b.value - 1) / b.value
  if whole = 0 then
    0 - ((Nat.toDigits 10 (inverse - 1)).length : Int)
  else
    ((Nat.toDigits 10 whole).length : Int) - 1

/-- The number on the grid of `10 ^ k` that reads back and is nearest, an even one in a tie. -/
def onGrid? (b : Binary) (k : Int) : Option Nat :=
  let below := b.value * tenPow (-k).toNat / (b.divisor * tenPow k.toNat)
  match b.readsBack below k, b.readsBack (below + 1) k with
  | true, true =>
      let toBelow := b.distance below k
      let toAbove := b.distance (below + 1) k
      if toBelow < toAbove || toBelow = toAbove && below % 2 = 0 then some below
      else some (below + 1)
  | true, false => some below
  | false, true => some (below + 1)
  | false, false => none

/-- Tries ever finer grids, from `10 ^ k` on; `fuel` bounds the number of further grids. -/
def search (b : Binary) (k : Int) : Nat → Nat × Int
  | 0 => ((b.onGrid? k).getD 0, k)
  | fuel + 1 =>
      match b.onGrid? k with
      | some n => (n, k)
      | none => search b (k - 1) fuel

/-- The fewest digits that read back, as a number and the power of ten of its last digit.  Seventeen
digits always suffice. -/
def shortest (b : Binary) : Nat × Int :=
  search b b.magnitude 17

end Binary

namespace Shortest

/-! ## Layout -/

/-- An exponent with its sign and at least two digits. -/
def exponentText (e : Int) : Text :=
  let digits := Nat.toDigits 10 e.natAbs
  (if e < 0 then '-' else '+') :: List.replicate (2 - digits.length) '0' ++ digits

/-- The digits `ds`, the last of which stands at `10 ^ k`, as a positional or exponential text. -/
def layout (ds : Text) (k : Int) : Text :=
  let point : Int := ds.length + k
  if -4 < point ∧ point ≤ 16 then
    if point ≤ 0 then
      '0' :: '.' :: List.replicate point.natAbs '0' ++ ds
    else if k < 0 then
      ds.take point.toNat ++ '.' :: ds.drop point.toNat
    else
      ds ++ List.replicate k.toNat '0' ++ ['.', '0']
  else
    let places := ds.drop 1
    ds.take 1 ++ (if places.isEmpty then [] else '.' :: places) ++ 'e' :: exponentText (point - 1)

/-- Drops the zeros at the end of some digits, the last of which stands at `10 ^ k`. -/
def dropZeros (ds : Text) (k : Int) : Text × Int :=
  let zeros := (ds.reverse.takeWhile (· == '0')).length
  (ds.take (ds.length - zeros), k + zeros)

/-- The shortest text of a value. -/
def text (x : Float) : Text :=
  let bits := x.toBits.toNat
  let sign : Text := if twoPow 63 ≤ bits then ['-'] else []
  let magnitude := bits % twoPow 63
  if x.isNaN then "nan".toList
  else if x.isInf then sign ++ "inf".toList
  else if magnitude = 0 then sign ++ "0.0".toList
  else
    let (n, k) := (Binary.ofBits magnitude).shortest
    let (digits, k) := dropZeros (Nat.toDigits 10 n) k
    sign ++ layout digits k

end Shortest

end IgnoreRules
