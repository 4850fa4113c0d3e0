import IgnoreRules.Text.Digit
import IgnoreRules.Text.Utf8

/-!
# Quoting in addresses

A character that may not stand in a part of an address is written as the bytes of its UTF-8 form, each as
a percent sign and two hexadecimal digits.  The percent sign itself may stand everywhere, so what is
quoted already stays as it is.

## Main definitions

* `Quoting.quote` : a text for a part of an address.
* `Quoting.unquote` : what a quoted text means.
* `Quoting.inPath`, `Quoting.inQuery`, … : what is not allowed in which part.
-/

namespace IgnoreRules

namespace Quoting

/-! ## Characters -/

/-- What may not stand in a fragment. -/
def inFragment : Text := " \"<>`".toList

/-- What may not stand in a query. -/
def inQuery : Text := " \"#<>".toList

/-- What may not stand in a path. -/
def inPath : Text := inQuery ++ "?`\x7b\x7d".toList

/-- What may not stand in the part about the user. -/
def inUser : Text := inPath ++ "/;=@[\\]^|".toList

/-- What may not stand in a host name. -/
def inHost : Text := " #/:<>?@[]^".toList

/-- Whether a character is in ASCII and no control. -/
def isGraphic (c : Char) : Bool :=
  decide (0x20 ≤ c.toNat ∧ c.toNat < 0x7F)

/-! ## Writing -/

/-- A hexadecimal digit in upper case. -/
def hexDigit (v : Nat) : Char :=
  if v < 10 then Char.ofNat ('0'.toNat + v) else Char.ofNat ('A'.toNat + (v - 10))

/-- A byte, quoted. -/
def quoteByte (b : UInt8) : Text :=
  ['%', hexDigit (b.toNat / 16), hexDigit (b.toNat % 16)]

/-- A character, quoted if it may not stand where `forbidden` may not. -/
def quoteChar (forbidden : Text) (c : Char) : Text :=
  if isGraphic c && !forbidden.contains c then [c] else (Text.encode [c]).toList.flatMap quoteByte

/-- A text with everything quoted that may not stand where `forbidden` may not. -/
def quote (forbidden t : Text) : Text :=
  t.flatMap (quoteChar forbidden)

/-! ## Reading -/

/-- The byte that is quoted at the front of a text. -/
def quotedByte? : Text → Option UInt8
  | '%' :: a :: b :: _ =>
      match Text.hexValue? a, Text.hexValue? b with
      | some high, some low => some (UInt8.ofNat (16 * high + low))
      | _, _ => none
  | _ => none

/-- The bytes that a text means; `skipped` characters at the front belong to a byte already read. -/
def bytesOf (skipped : Nat) : Text → List UInt8
  | [] => []
  | c :: rest =>
      match skipped with
      | n + 1 => bytesOf n rest
      | 0 =>
          match quotedByte? (c :: rest) with
          | some b => b :: bytesOf 2 rest
          | none => (Text.encode [c]).toList ++ bytesOf 0 rest

/-- What a quoted text means; bytes that are no text are replaced. -/
def unquote (t : Text) : Text :=
  Text.decodeLossy ⟨(bytesOf 0 t).toArray⟩

end Quoting

end IgnoreRules
