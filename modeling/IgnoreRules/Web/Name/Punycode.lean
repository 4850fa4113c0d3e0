import IgnoreRules.Text.Basic

/-!
# Labels in ASCII

A way to write any label of a host name in ASCII: first its ASCII characters as they are, then, behind a
hyphen, numbers that say which other characters are to be put in and where.  The others are put in by
ascending code point, and each number counts the places passed since the one before.  Numbers are written
in base 36 with a threshold for each digit that moves with the size of the numbers.

## Main definitions

* `Punycode.encode` : the ASCII form of a label.
* `Punycode.decode?` : the label of an ASCII form.
-/

namespace IgnoreRules

namespace Punycode

/-! ## Digits -/

/-- The digit of a value below 36. -/
def digit (v : Nat) : Char :=
  if v < 26 then Char.ofNat ('a'.toNat + v) else Char.ofNat ('0'.toNat + (v - 26))

/-- The value of a digit, in either letter case. -/
def digitValue? (c : Char) : Option Nat :=
  if 'a' ≤ c ∧ c ≤ 'z' then some (c.toNat - 'a'.toNat)
  else if 'A' ≤ c ∧ c ≤ 'Z' then some (c.toNat - 'A'.toNat)
  else if '0' ≤ c ∧ c ≤ '9' then some (c.toNat - '0'.toNat + 26)
  else none

/-- The threshold of the digit at a place: one below it is the last of its number. -/
def threshold (bias place : Nat) : Nat :=
  max 1 (min 26 (36 * (place + 1) - bias))

/-- Every threshold is at least one. -/
theorem one_le_threshold (bias place : Nat) : 1 ≤ threshold bias place :=
  Nat.le_max_left ..

/-! ## The moving bias -/

/-- Divides by 35 while the number is large; gives what is left, and 36 for each division. -/
def shrink (n moved : Nat) : Nat × Nat :=
  if 455 < n then shrink (n / 35) (moved + 36) else (n, moved)
termination_by n
decreasing_by exact Nat.div_lt_self (by omega) (by omega)

/-- The bias after a number that put in the last of `count` characters. -/
def adapt (number count : Nat) (isFirst : Bool) : Nat :=
  let damped := if isFirst then number / 700 else number / 2
  let (left, moved) := shrink (damped + damped / count) 0
  moved + 36 * left / (left + 38)

/-! ## Writing -/

/-- The digits of a number, from a place on. -/
def writeNumber (bias place n : Nat) : Text :=
  let t := threshold bias place
  if n < t then [digit n]
  else digit (t + (n - t) % (36 - t)) :: writeNumber bias (place + 1) ((n - t) / (36 - t))
termination_by n
decreasing_by
  have := one_le_threshold bias place
  exact Nat.lt_of_le_of_lt (Nat.div_le_self _ _) (by omega)

/-- Whether a character is in ASCII. -/
def isBasic (c : Char) : Bool :=
  decide (c.toNat < 128)

/-- Puts a code point into an ascending list, once. -/
def insertCode (n : Nat) : List Nat → List Nat
  | [] => [n]
  | m :: rest => if n < m then n :: m :: rest else if n = m then m :: rest else m :: insertCode n rest

/-- The code points outside ASCII, ascending, each once. -/
def codesOf (t : Text) : List Nat :=
  (t.filter fun c => !isBasic c).foldr (fun c codes => insertCode c.toNat codes) []

/-- The numbers while one code point is put in: those complete so far, latest first, and the places
passed since. -/
def scanChar (code : Nat) (state : List Nat × Nat) (c : Char) : List Nat × Nat :=
  if c.toNat < code then (state.1, state.2 + 1)
  else if c.toNat = code then (state.2 :: state.1, 0)
  else state

/-- The numbers for a text of which `count` characters are already put in, all of them below `next`. -/
def numbersFrom (t : Text) (passed next count : Nat) : List Nat → List Nat
  | [] => []
  | code :: codes =>
      let (numbers, passed) := t.foldl (scanChar code) ([], passed + (code - next) * (count + 1))
      numbers.reverse ++ numbersFrom t (passed + 1) (code + 1) (count + numbers.length) codes

/-- The digits of the numbers that put in characters behind `count` others. -/
def writeNumbers (bias count : Nat) (isFirst : Bool) : List Nat → Text
  | [] => []
  | n :: rest =>
      writeNumber bias 0 n ++ writeNumbers (adapt n (count + 1) isFirst) (count + 1) false rest

/-- The ASCII form of a label. -/
def encode (t : Text) : Text :=
  let basic := t.filter isBasic
  let mark := if basic.isEmpty then [] else ['-']
  basic ++ mark ++ writeNumbers 72 basic.length true (numbersFrom t 0 128 basic.length (codesOf t))

/-! ## Reading -/

/-- Reads a number from a place on: what its digits add to `sum`, each with its weight, and what
follows. -/
def readNumber? (bias place weight sum : Nat) : Text → Option (Nat × Text)
  | [] => none
  | c :: rest =>
      match digitValue? c with
      | none => none
      | some v =>
          let t := threshold bias place
          if v < t then some (sum + v * weight, rest)
          else readNumber? bias (place + 1) (weight * (36 - t)) (sum + v * weight) rest

/-- Reading a number uses up characters. -/
theorem length_lt_of_readNumber? {bias place weight sum n : Nat} {t rest : Text}
    (h : readNumber? bias place weight sum t = some (n, rest)) : rest.length < t.length := by
  induction t generalizing place weight sum with
  | nil => simp [readNumber?] at h
  | cons c cs ih =>
      simp only [readNumber?] at h
      split at h
      · cases h
      · split at h
        · cases h
          simp
        · have := ih h
          simp only [List.length_cons]
          omega

/-- Puts characters into a text as the numbers say; the last was put in as `code`, in front of `place`. -/
def putIn (done : Text) (code place bias : Nat) (isFirst : Bool) (t : Text) : Option Text :=
  match _h : t with
  | [] => some done
  | _ :: _ =>
      match _hr : readNumber? bias 0 1 0 t with
      | none => none
      | some (n, rest) =>
          let size := done.length + 1
          let code := code + (place + n) / size
          let place := (place + n) % size
          if Nat.isValidChar code then
            putIn (done.take place ++ Char.ofNat code :: done.drop place) code (place + 1)
              (adapt n size isFirst) false rest
          else none
termination_by t.length
decreasing_by
  have := length_lt_of_readNumber? _hr
  simpa [_h] using this

/-- The label of an ASCII form. -/
def decode? (t : Text) : Option Text :=
  let numbers := (t.reverse.takeWhile (· != '-')).reverse
  let basic := t.take (t.length - numbers.length - 1)
  putIn basic 128 0 72 true numbers

end Punycode

end IgnoreRules
