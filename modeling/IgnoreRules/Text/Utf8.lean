import IgnoreRules.Text.Basic

/-!
# UTF-8

Texts as bytes and back.  `decode?` refuses bytes that are no text.  `decodeLossy` never fails: each
longest stretch of bytes that begins a character without completing it, and each byte that cannot
begin one, is replaced by `U+FFFD`.
-/

namespace IgnoreRules

namespace Text

/-- The bytes of a text. -/
def encode (t : Text) : ByteArray :=
  (String.ofList t).toUTF8

/-- The number of bytes of a text. -/
def byteLength (t : Text) : Nat :=
  (encode t).size

/-- The text whose bytes these are, if they are the bytes of a text. -/
def decode? (bytes : ByteArray) : Option Text :=
  (String.fromUTF8? bytes).map (·.toList)

/-- Where a decoder stands between two bytes. -/
inductive DecoderState
  /-- Between characters. -/
  | start
  /-- Inside a character: its bits so far, how many bytes it still needs, and the bounds of the next. -/
  | inside (value owed low high : Nat)
  deriving DecidableEq, Repr

/-- What a decoder has put out, latest first, and where it stands. -/
structure Decoder where
  output : Text := []
  state : DecoderState := .start

namespace Decoder

/-- The mark for bytes that are no character. -/
def replacement : Char := '\uFFFD'

/-- Takes in a byte between characters. -/
def begin (output : Text) (b : Nat) : Decoder :=
  if b ≤ 0x7F then ⟨Char.ofNat b :: output, .start⟩
  else if 0xC2 ≤ b && b ≤ 0xDF then ⟨output, .inside (b - 0xC0) 1 0x80 0xBF⟩
  else if b == 0xE0 then ⟨output, .inside 0 2 0xA0 0xBF⟩
  else if b == 0xED then ⟨output, .inside 0xD 2 0x80 0x9F⟩
  else if 0xE1 ≤ b && b ≤ 0xEF then ⟨output, .inside (b - 0xE0) 2 0x80 0xBF⟩
  else if b == 0xF0 then ⟨output, .inside 0 3 0x90 0xBF⟩
  else if 0xF1 ≤ b && b ≤ 0xF3 then ⟨output, .inside (b - 0xF0) 3 0x80 0xBF⟩
  else if b == 0xF4 then ⟨output, .inside 4 3 0x80 0x8F⟩
  else ⟨replacement :: output, .start⟩

/-- Takes in a byte.  One that does not continue the open character ends it and is read anew. -/
def push (d : Decoder) (byte : UInt8) : Decoder :=
  let b := byte.toNat
  match d.state with
  | .start => begin d.output b
  | .inside value owed low high =>
      if low ≤ b && b ≤ high then
        let value := 64 * value + (b - 0x80)
        if owed ≤ 1 then ⟨Char.ofNat value :: d.output, .start⟩
        else ⟨d.output, .inside value (owed - 1) 0x80 0xBF⟩
      else
        begin (replacement :: d.output) b

/-- The text, once the bytes are at an end. -/
def finish (d : Decoder) : Text :=
  match d.state with
  | .start => d.output.reverse
  | .inside .. => (replacement :: d.output).reverse

end Decoder

/-- The text of any bytes, with `U+FFFD` for what is no character. -/
def decodeLossy (bytes : ByteArray) : Text :=
  match decode? bytes with
  | some t => t
  | none => (bytes.toList.foldl Decoder.push {}).finish

end Text

end IgnoreRules
