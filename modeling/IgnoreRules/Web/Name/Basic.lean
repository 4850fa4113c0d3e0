import IgnoreRules.Web.Name.Character
import IgnoreRules.Web.Name.Composition
import IgnoreRules.Web.Name.Punycode

/-!
# International host names

A host name is a sequence of labels.  A label outside ASCII is written in ASCII behind a mark of its own.
Only labels that read the same everywhere are accepted: composed texts of permitted characters, whose
marks have something to stand on, whose joiners and punctuation are in a place made for them, and whose
characters agree on a direction.

## Main definitions

* `HostName.isLabel` : whether a text is a label.
* `HostName.toAscii?` : the ASCII form of a name.
-/

namespace IgnoreRules

namespace HostName

open NameChar

/-! ## Single characters and their places -/

/-- Whether a character is a digit of the first row of Arabic digits. -/
def isArabicDigit (c : Char) : Bool :=
  decide (0x660 ≤ c.toNat ∧ c.toNat ≤ 0x669)

/-- Whether a character is a digit of the second row of Arabic digits. -/
def isEasternDigit (c : Char) : Bool :=
  decide (0x6F0 ≤ c.toNat ∧ c.toNat ≤ 0x6F9)

/-- Whether the last of the characters before, latest first, suppresses a vowel. -/
def endsSuppressed (before : Text) : Bool :=
  match before with
  | [] => false
  | c :: _ => Composition.classOf c = 9

/-- How the first character that is not transparent joins. -/
def firstJoining (t : Text) : Joining :=
  match t.dropWhile fun c => joining c = .transparent with
  | [] => .none
  | c :: _ => joining c

/-- Whether the first character of a text is in some ranges. -/
def startsIn (ranges : List CharRange) (t : Text) : Bool :=
  match t with
  | [] => false
  | c :: _ => Text.isIn ranges c

/-- Whether a character that needs the right neighbours has them.  The characters `before` it come latest
first. -/
def hasPlace (before : Text) (c : Char) (after : Text) : Bool :=
  let anywhere := fun (p : Char → Bool) => before.any p || after.any p
  match c.toNat with
  | 0x200C =>
      endsSuppressed before ||
        ([Joining.behind, .both].contains (firstJoining before) &&
          [Joining.front, .both].contains (firstJoining after))
  | 0x200D => endsSuppressed before
  | 0xB7 => before.head? = some 'l' && after.head? = some 'l'
  | 0x375 => startsIn greekRanges after
  | 0x5F3 | 0x5F4 => startsIn hebrewRanges before
  | 0x30FB => anywhere (Text.isIn japaneseRanges)
  | _ =>
      if isArabicDigit c then !anywhere isEasternDigit
      else if isEasternDigit c then !anywhere isArabicDigit
      else false

/-- Whether every character behind `before` is permitted where it stands. -/
def arePermitted (before : Text) : Text → Bool
  | [] => true
  | c :: rest =>
      ((direction? c).isSome || hasPlace before c rest) && arePermitted (c :: before) rest

/-! ## Direction -/

/-- The direction of a permitted character. -/
def directionOf (c : Char) : Direction :=
  match direction? c with
  | some d => d
  | none =>
      if c.toNat = 0x5F3 ∨ c.toNat = 0x5F4 then .rightToLeft
      else if isArabicDigit c then .arabicNumber
      else if isEasternDigit c then .europeanNumber
      else .neutral

/-- Whether something is written from right to left. -/
def isRightToLeft : Direction → Bool
  | .rightToLeft | .arabicLetter | .arabicNumber => true
  | _ => false

/-- The direction of the last character other than a mark. -/
def lastDirection (ds : List Direction) : Direction :=
  ((ds.filter (· != .mark)).getLast?).getD .mark

/-- Whether the characters of a label agree on a direction.  Where something is written from right to
left, the label begins and ends so, has no letter of the other direction, and has numbers of one kind. -/
def agree (ds : List Direction) : Bool :=
  if ds.any isRightToLeft then
    [some .rightToLeft, some .arabicLetter].contains ds.head? &&
      !ds.contains .leftToRight &&
      !(ds.contains .arabicNumber && ds.contains .europeanNumber) &&
      (isRightToLeft (lastDirection ds) || lastDirection ds == .europeanNumber)
  else true

/-! ## Labels -/

/-- Whether the hyphens of a label stand where they may: not at an end, and not as third and fourth
character. -/
def hyphensFit (t : Text) : Bool :=
  t.head? != some '-' && t.getLast? != some '-' && (t.drop 2).take 2 != ['-', '-']

/-- Whether a text is a label. -/
def isLabel (t : Text) : Bool :=
  !t.isEmpty && hyphensFit t && !(t.head?.map isMark).getD false && arePermitted [] t &&
    agree (t.map directionOf) && Composition.isComposed t

/-- What stands in front of the ASCII form of a label that is not in ASCII. -/
def mark : Text := "xn--".toList

/-- The longest ASCII form of a label. -/
def maxLabelLength : Nat := 63

/-- Whether an ASCII text is a label or the ASCII form of one. -/
def isAsciiLabel (t : Text) : Bool :=
  let plain := t.map Char.toLower
  if mark.isPrefixOf plain then
    let numbers := plain.drop mark.length
    !numbers.isEmpty && numbers.getLast? != some '-' && ((Punycode.decode? numbers).map isLabel).getD false
  else isLabel plain

/-- The ASCII form of a label, which is never shorter than the label. -/
def labelToAscii? (t : Text) : Option Text :=
  if maxLabelLength < t.length then none
  else
    let (isValid, form) :=
      if t.all Punycode.isBasic then (isAsciiLabel t, t) else (isLabel t, mark ++ Punycode.encode t)
    if isValid && form.length ≤ maxLabelLength then some form else none

/-! ## Names -/

/-- The characters that separate labels. -/
def separators : Text :=
  ['.', '\u3002', '\uFF0E', '\uFF61']

/-- The labels of a name. -/
def labels (t : Text) : List Text :=
  (t.map fun c => if separators.contains c then '.' else c).splitOn '.'

/-- The longest name in ASCII. -/
def maxLength : Nat := 253

/-- The ASCII form of a name, which may end in a separator. -/
def toAscii? (t : Text) : Option Text :=
  let all := labels t
  let isOpen := all.getLast? == some []
  match (if isOpen then all.dropLast else all).mapM labelToAscii? with
  | none | some [] => none
  | some forms =>
      let name := List.intercalate ['.'] forms
      if name.length ≤ maxLength then some (if isOpen then name ++ ['.'] else name) else none

end HostName

end IgnoreRules
