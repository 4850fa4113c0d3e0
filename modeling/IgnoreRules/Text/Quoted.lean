import IgnoreRules.Text.Printable

/-!
# Quoted texts

A text as it is shown inside a message: between quotes, with escapes for the quote, the backslash and
everything that would not be visible.  Apostrophes are the quotes unless the text holds one and no
quotation mark.
-/

namespace IgnoreRules

namespace Text

/-- A value with at least `width` hexadecimal digits. -/
def hex (width n : Nat) : Text :=
  let digits := Nat.toDigits 16 n
  List.replicate (width - digits.length) '0' ++ digits

/-- A character as an escape with its code point. -/
def codeEscape (c : Char) : Text :=
  if c.toNat < 0x100 then '\\' :: 'x' :: hex 2 c.toNat
  else if c.toNat < 0x10000 then '\\' :: 'u' :: hex 4 c.toNat
  else '\\' :: 'U' :: hex 8 c.toNat

/-- How a character is shown between quotes of that kind. -/
def showChar (mark c : Char) : Text :=
  if c = mark || c = '\\' then ['\\', c]
  else if c = '\t' then ['\\', 't']
  else if c = '\n' then ['\\', 'n']
  else if c = '\r' then ['\\', 'r']
  else if isPrintable c then [c]
  else codeEscape c

/-- The quotes that a text is shown between. -/
def quoteMark (t : Text) : Char :=
  if t.contains '\'' && !t.contains '"' then '"' else '\''

/-- A text between quotes. -/
def quoted (t : Text) : String :=
  let mark := quoteMark t
  String.ofList (mark :: t.flatMap (showChar mark) ++ [mark])

/-- Several texts between quotes, in brackets. -/
def quotedList (ts : List Text) : String :=
  "[" ++ ", ".intercalate (ts.map quoted) ++ "]"

/-- A truth value as it is shown. -/
def shownBool (b : Bool) : String :=
  if b then "True" else "False"

end Text

end IgnoreRules
