import IgnoreRules.Text.Basic

/-!
# Letter case

Case mappings as far as they lead into ASCII, which is all that a comparison with an ASCII word can
see.  Besides the 26 letters a few others have an ASCII letter, or two or three, as their other case.
-/

namespace IgnoreRules

namespace Text

/-- The lower case of a character, if that is in ASCII; otherwise the character. -/
def lowerChar (c : Char) : Char :=
  if c.toNat = 0x212A then 'k' else c.toLower

/-- The upper case of a character, if that is in ASCII; otherwise the character. -/
def upperChar (c : Char) : Text :=
  match c.toNat with
  | 0xDF => ['S', 'S']
  | 0x131 => ['I']
  | 0x17F => ['S']
  | 0xFB00 => ['F', 'F']
  | 0xFB01 => ['F', 'I']
  | 0xFB02 => ['F', 'L']
  | 0xFB03 => ['F', 'F', 'I']
  | 0xFB04 => ['F', 'F', 'L']
  | 0xFB05 => ['S', 'T']
  | 0xFB06 => ['S', 'T']
  | _ => [c.toUpper]

/-- A text in lower case, as far as that is in ASCII. -/
def lower (t : Text) : Text :=
  t.map lowerChar

/-- A text in upper case, as far as that is in ASCII. -/
def upper (t : Text) : Text :=
  t.flatMap upperChar

end Text

end IgnoreRules
