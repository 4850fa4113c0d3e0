import IgnoreRules.Json.Basic

/-!
# Writing JSON

Values are written in ASCII, on one line or indented.  A character outside the printable ASCII range
is escaped, above `U+FFFF` as two halves.
-/

namespace IgnoreRules

namespace Json

/-! ## Strings -/

/-- The hexadecimal digit of a value below sixteen. -/
def hexDigit (n : Nat) : Char :=
  if n < 10 then Char.ofNat ('0'.toNat + n) else Char.ofNat ('a'.toNat + (n - 10))

/-- The escape of a code unit. -/
def unitEscape (unit : Nat) : Text :=
  ['\\', 'u', hexDigit (unit / 0x1000 % 16), hexDigit (unit / 0x100 % 16),
    hexDigit (unit / 0x10 % 16), hexDigit (unit % 16)]

/-- How a character is written inside a string. -/
def escapeChar (c : Char) : Text :=
  if c = '"' then ['\\', '"']
  else if c = '\\' then ['\\', '\\']
  else if c = '\n' then ['\\', 'n']
  else if c = '\r' then ['\\', 'r']
  else if c = '\t' then ['\\', 't']
  else if c = '\x0c' then ['\\', 'f']
  else if c = '\x08' then ['\\', 'b']
  else if 0x20 ≤ c.toNat ∧ c.toNat ≤ 0x7E then [c]
  else if c.toNat < 0x10000 then unitEscape c.toNat
  else
    let rest := c.toNat - 0x10000
    unitEscape (0xD800 + rest / 0x400) ++ unitEscape (0xDC00 + rest % 0x400)

/-- A string with its quotes. -/
def quote (t : Text) : Text :=
  '"' :: t.flatMap escapeChar ++ ['"']

/-! ## Values -/

/-- How arrays and objects are laid out. -/
inductive Layout
  /-- Everything on one line. -/
  | oneLine
  /-- One entry a line, each level two columns deeper than the one around it. -/
  | indented (level : Nat)

namespace Layout

/-- The layout inside an array or object. -/
def inner : Layout → Layout
  | oneLine => oneLine
  | indented level => indented (level + 1)

/-- What stands in front of an entry that opens a line, or of a closing mark. -/
def newline : Layout → Text
  | oneLine => []
  | indented level => '\n' :: List.replicate (2 * level) ' '

/-- What stands between two entries. -/
def between : Layout → Text
  | oneLine => [',', ' ']
  | indented level => ',' :: '\n' :: List.replicate (2 * level) ' '

/-- Entries between their marks; without entries the marks stand together. -/
def enclose (layout : Layout) (first last : Char) (entries : List Text) : Text :=
  if entries.isEmpty then [first, last]
  else
    first :: layout.inner.newline ++ List.intercalate layout.inner.between entries ++
      layout.newline ++ [last]

end Layout

mutual
/-- Writes a value. -/
def render (layout : Layout) : Json → Text
  | .null => "null".toList
  | .bool true => "true".toList
  | .bool false => "false".toList
  | .number literal => literal
  | .string t => quote t
  | .array items => layout.enclose '[' ']' (renderItems layout.inner items)
  | .object fields => layout.enclose '\x7b' '\x7d' (renderFields layout.inner fields)
/-- Writes the items of an array. -/
def renderItems (layout : Layout) : List Json → List Text
  | [] => []
  | item :: items => render layout item :: renderItems layout items
/-- Writes the fields of an object. -/
def renderFields (layout : Layout) : List (Text × Json) → List Text
  | [] => []
  | field :: fields => renderField layout field :: renderFields layout fields
/-- Writes a field. -/
def renderField (layout : Layout) : Text × Json → Text
  | (key, value) => quote key ++ ':' :: ' ' :: render layout value
end

/-- The value on one line. -/
def oneLine (v : Json) : Text :=
  render .oneLine v

/-- The value with one entry a line. -/
def pretty (v : Json) : Text :=
  render (.indented 0) v

end Json

end IgnoreRules
