import IgnoreRules.Text.Digit

/-!
# JSON tokens

The first stage of reading JSON: a text falls into punctuation, strings and words.  A word is a
stretch of other characters and is judged only later.  White space separates tokens and has no other
effect, so a line ending may be written in any way outside strings; inside a string no control
character may stand.

## Main definitions

* `Json.Token` : punctuation, a string, or a word.
* `Json.tokens?` : the tokens of a text, if its strings are well formed and closed.
-/

namespace IgnoreRules

namespace Json

/-- A unit of a JSON text. -/
inductive Token
  | openArray
  | closeArray
  | openObject
  | closeObject
  | colon
  | comma
  /-- A string, with its escapes resolved. -/
  | string (t : Text)
  /-- A number or a name. -/
  | word (w : Text)
  deriving DecidableEq, Repr

/-- Whether a character is white space between tokens. -/
def isSpace (c : Char) : Bool :=
  c == ' ' || c == '\t' || c == '\n' || c == '\r'

/-- The punctuation a character is. -/
def punctuation? : Char → Option Token
  | '[' => some .openArray
  | ']' => some .closeArray
  | '{' => some .openObject
  | '}' => some .closeObject
  | ':' => some .colon
  | ',' => some .comma
  | _ => none

/-! ## Escapes -/

/-- The character that a one-letter escape stands for. -/
def shortEscape? : Char → Option Char
  | '"' => some '"'
  | '\\' => some '\\'
  | '/' => some '/'
  | 'b' => some '\x08'
  | 'f' => some '\x0c'
  | 'n' => some '\n'
  | 'r' => some '\r'
  | 't' => some '\t'
  | _ => none

/-- Whether a code unit is the first half of a pair. -/
def isHighHalf (unit : Nat) : Bool :=
  0xD800 ≤ unit && unit ≤ 0xDBFF

/-- Whether a code unit is the second half of a pair. -/
def isLowHalf (unit : Nat) : Bool :=
  0xDC00 ≤ unit && unit ≤ 0xDFFF

/-- The character of a code unit.  A half without its partner is no character; each of the halves is kept
apart from all others as a character at the end of the last private plane. -/
def ofUnit (unit : Nat) : Char :=
  if isHighHalf unit || isLowHalf unit then Char.ofNat (0x10F800 + (unit - 0xD800))
  else Char.ofNat unit

/-- The character of two halves. -/
def ofHalves (high low : Nat) : Char :=
  Char.ofNat (0x10000 + (high - 0xD800) * 0x400 + (low - 0xDC00))

/-! ## The string being read -/

/-- A string under construction: its characters, latest first, and a first half that may still find
its partner. -/
structure Draft where
  chars : Text := []
  half : Option Nat := none

namespace Draft

/-- The characters so far, a half without partner included. -/
def settled (d : Draft) : Text :=
  match d.half with
  | none => d.chars
  | some unit => ofUnit unit :: d.chars

/-- Adds a character. -/
def char (d : Draft) (c : Char) : Draft :=
  ⟨c :: d.settled, none⟩

/-- Adds a code unit. -/
def unit (d : Draft) (u : Nat) : Draft :=
  match d.half with
  | some high =>
      if isLowHalf u then ⟨ofHalves high u :: d.chars, none⟩
      else if isHighHalf u then ⟨d.settled, some u⟩
      else ⟨ofUnit u :: d.settled, none⟩
  | none => if isHighHalf u then ⟨d.chars, some u⟩ else ⟨ofUnit u :: d.chars, none⟩

end Draft

/-! ## The scanner -/

/-- What a scanner is inside of. -/
inductive Mode
  | between
  | word (chars : Text)
  | string (d : Draft)
  | escape (d : Draft)
  /-- After the `u` of an escape: the value and the number of the digits read. -/
  | unit (d : Draft) (value digits : Nat)
  /-- Behind the place where the text is broken. -/
  | broken

/-- A scanner: the tokens so far, latest first, and what it is inside of. -/
structure Scanner where
  tokens : List Token := []
  mode : Mode := .between

namespace Scanner

/-- Takes in a character between tokens. -/
def between (tokens : List Token) (c : Char) : Scanner :=
  if isSpace c then ⟨tokens, .between⟩
  else if c = '"' then ⟨tokens, .string {}⟩
  else
    match punctuation? c with
    | some token => ⟨token :: tokens, .between⟩
    | none => ⟨tokens, .word [c]⟩

/-- The text is broken here. -/
def halt (tokens : List Token) : Scanner :=
  ⟨tokens, .broken⟩

/-- Takes in a character. -/
def push (s : Scanner) (c : Char) : Scanner :=
  match s.mode with
  | .between => between s.tokens c
  | .word chars =>
      if isSpace c || c = '"' || (punctuation? c).isSome then
        between (.word chars.reverse :: s.tokens) c
      else
        ⟨s.tokens, .word (c :: chars)⟩
  | .string d =>
      if c = '"' then ⟨.string d.settled.reverse :: s.tokens, .between⟩
      else if c = '\\' then ⟨s.tokens, .escape d⟩
      else if c.toNat < 0x20 then halt s.tokens
      else ⟨s.tokens, .string (d.char c)⟩
  | .escape d =>
      if c = 'u' then ⟨s.tokens, .unit d 0 0⟩
      else
        match shortEscape? c with
        | none => halt s.tokens
        | some x => ⟨s.tokens, .string (d.char x)⟩
  | .unit d value digits =>
      match Text.hexValue? c with
      | none => halt s.tokens
      | some v =>
          let value := 16 * value + v
          if digits < 3 then ⟨s.tokens, .unit d value (digits + 1)⟩
          else ⟨s.tokens, .string (d.unit value)⟩
  | .broken => s

/-- The tokens once the text is at an end, and whether they are all of it. -/
def finish (s : Scanner) : List Token × Bool :=
  match s.mode with
  | .between => (s.tokens.reverse, true)
  | .word chars => ((.word chars.reverse :: s.tokens).reverse, true)
  | _ => (s.tokens.reverse, false)

/-- Takes in a whole text. -/
def run (s : Scanner) (t : Text) : Scanner :=
  t.foldl push s

end Scanner

/-- The tokens of a text up to a string that is malformed or left open, and whether there is no such
string. -/
def tokens (t : Text) : List Token × Bool :=
  (Scanner.run {} t).finish

end Json

end IgnoreRules
