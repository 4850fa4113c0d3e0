/-!
# Texts

A text is the list of its code points.  Everything in the library that inspects characters works on
this view, so that rules about texts are rules about lists.  `String` is used only for wording that
is shown and never inspected.
-/

namespace IgnoreRules

/-- A text, as the list of its code points. -/
abbrev Text := List Char

namespace Text

/-! ## Cutting at the ends -/

/-- Drops the longest end whose characters all satisfy `p`. -/
def dropEndWhile (p : Char → Bool) (t : Text) : Text :=
  (t.reverse.dropWhile p).reverse

/-- Drops the longest beginning and the longest end whose characters all satisfy `p`. -/
def trimWhile (p : Char → Bool) (t : Text) : Text :=
  dropEndWhile p (t.dropWhile p)

/-! ## Searching -/

/-- What follows the first occurrence of `marker`; an empty marker occurs before every character. -/
def afterFirst? (marker : Text) (t : Text) : Option Text :=
  if marker.isPrefixOf t then
    some (t.drop marker.length)
  else
    match t with
    | [] => none
    | _ :: rest => afterFirst? marker rest

/-- Whether `part` occurs in the text. -/
def hasPart (part t : Text) : Bool :=
  (afterFirst? part t).isSome

/-- What follows the first occurrence of a marker is never longer than the text. -/
theorem length_le_of_afterFirst? {marker t rest : Text} (h : afterFirst? marker t = some rest) :
    rest.length + marker.length ≤ t.length := by
  induction t with
  | nil =>
      unfold afterFirst? at h
      split at h
      · rename_i hp
        cases h
        cases marker with
        | nil => simp
        | cons c cs => simp at hp
      · cases h
  | cons c cs ih =>
      unfold afterFirst? at h
      split at h
      · rename_i hp
        cases h
        have hle := (List.isPrefixOf_iff_prefix.1 hp).length_le
        simp only [List.length_drop]
        omega
      · have := ih h
        simp only [List.length_cons]
        omega

/-! ## Order -/

/-- The order by code points, used wherever names or keys are listed. -/
def le (a b : Text) : Bool :=
  !decide (b < a)

end Text

end IgnoreRules
