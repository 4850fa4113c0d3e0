import IgnoreRules.Text.Digit

/-!
# Numeric addresses

The two kinds of numeric host addresses as they are written: four numbers between points, and eight
groups of hexadecimal digits between colons, of which one run may be left out and the last two may be
written as four numbers.

## Main definitions

* `IpAddress.looksNumeric` : whether a host is meant as four numbers.
* `IpAddress.isFour`, `IpAddress.isSix` : whether a text is an address.
-/

namespace IgnoreRules

namespace IpAddress

/-- Whether a character is an ASCII digit. -/
def isDigit (c : Char) : Bool :=
  decide ('0' ≤ c ∧ c ≤ '9')

/-! ## What is meant as four numbers -/

/-- How far the characters seen can be read as numbers with any one character between neighbours: an
odd stage is inside a number, an even one in front of the next. -/
def advance (stages : List Nat) (c : Char) : List Nat :=
  (List.range 8).filter fun s =>
    if s % 2 = 1 then isDigit c && (stages.contains s || stages.contains (s - 1))
    else 0 < s && stages.contains (s - 1)

/-- Whether a host is meant as four numbers: digits, any character, and so on. -/
def looksNumeric (host : Text) : Bool :=
  (host.foldl advance [0]).contains 7

/-! ## Four numbers -/

/-- Whether a text is a number of an address, without a zero in front. -/
def isOctet (t : Text) : Bool :=
  !t.isEmpty && t.all isDigit && t.length ≤ 3 && (t == ['0'] || t.head? != some '0') &&
    t.foldl (fun n c => 10 * n + (c.toNat - '0'.toNat)) 0 ≤ 255

/-- Whether a text is an address of four numbers. -/
def isFour (t : Text) : Bool :=
  let octets := t.splitOn '.'
  octets.length = 4 && octets.all isOctet

/-! ## Eight groups -/

/-- Whether a text is a group. -/
def isGroup (t : Text) : Bool :=
  !t.isEmpty && t.length ≤ 4 && t.all fun c => (Text.hexValue? c).isSome

/-- The parts of an address, two groups in place of four numbers at the end. -/
def expandEnd (parts : List Text) : Option (List Text) :=
  match parts.getLast? with
  | some last =>
      if last.contains '.' then
        if isFour last then some (parts.dropLast ++ [['0'], ['0']]) else none
      else some parts
  | none => some parts

/-- Whether all eight groups are there. -/
def isComplete (parts : List Text) : Bool :=
  parts.length = 8 && parts.all isGroup

/-- Whether the parts around one that is left out are groups.  An end may be empty only right beside what
is left out. -/
def isShortened (front back : List Text) : Bool :=
  let front := if front == [[]] then [] else front
  let back := if back == [[]] then [] else back
  front.length + back.length ≤ 7 && front.all isGroup && back.all isGroup

/-- Whether parts make an address: at most one part between the ends is empty. -/
def areParts (parts : List Text) : Bool :=
  let inner := parts.tail.dropLast
  if parts.length < 3 || 9 < parts.length then false
  else
    match inner.count [] with
    | 0 => isComplete parts
    | 1 =>
        let front := (inner.takeWhile (· != [])).length + 1
        isShortened (parts.take front) (parts.drop (front + 1))
    | _ => false

/-- Whether a text is an address of eight groups, behind which a zone may be named. -/
def isSix (t : Text) : Bool :=
  let address := t.takeWhile (· != '%')
  let zone := (t.dropWhile (· != '%')).drop 1
  let isZoned := t.contains '%'
  !t.contains '/' && !(isZoned && (zone.isEmpty || zone.contains '%')) &&
    3 ≤ (address.splitOn ':').length &&
    match expandEnd (address.splitOn ':') with
    | none => false
    | some parts => areParts parts

end IpAddress

end IgnoreRules
