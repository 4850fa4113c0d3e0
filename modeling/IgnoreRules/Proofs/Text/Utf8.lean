import IgnoreRules.Text.Utf8

/-!
# Texts as bytes and back

Reading the bytes of a text gives that text, and texts that are joined have their bytes joined.
-/

namespace IgnoreRules

namespace Text

/-- The bytes of a text are read as that text. -/
theorem decode?_encode (t : Text) : decode? (encode t) = some t := by
  have hvalid : (String.ofList t).toUTF8.IsValidUTF8 := (String.ofList t).isValidUTF8
  have hread : String.fromUTF8? (String.ofList t).toUTF8 = some (String.ofList t) := by
    unfold String.fromUTF8?
    rw [dif_pos hvalid]
    rfl
  unfold decode? encode
  rw [hread, Option.map_some, String.toList_ofList]

theorem byteLength_append (s t : Text) : byteLength (s ++ t) = byteLength s + byteLength t := by
  unfold byteLength encode
  rw [String.ofList_append, String.toUTF8_eq_toByteArray, String.toByteArray_append,
    ByteArray.size_append]
  rfl

end Text

end IgnoreRules
