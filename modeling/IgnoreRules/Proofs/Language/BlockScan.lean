import Mathlib.Logic.Function.Iterate
import IgnoreRules.Language.LineCount
import IgnoreRules.Proofs.Text.Search

/-!
# Searching for block markers

From one marker to the next the search changes between the two markers of a block comment, and each
time goes on right behind the marker that it found.  An opening marker is never empty, so a search that
finds one moves on; one that finds an empty closing marker does not, but looks for an opening marker
next.  The markers that are met are therefore finitely many, and as many as the search changes sides.

* `BlockMarkers.Meets` : the places of the markers that a search meets;
* `BlockMarkers.exists_meets`, `BlockMarkers.Meets.unique` : they are finitely many, and no others;
* `BlockMarkers.Meets.endsInside` : on which side the search ends;
* `BlockMarkers.Meets.length_eq_occurrences` : how many there are if the two markers are the same;
* `BlockMarkers.endsInside_alternates` : all of these.
-/

namespace IgnoreRules

namespace BlockMarkers

open Text (StandsAt FirstFrom)

/-- The places of the markers that are met from a place on, where a block comment is open or not.  Each
marker is the first one of its side from where the one before ends. -/
inductive Meets (m : BlockMarkers) (t : Text) : Nat → Bool → List Nat → Prop
  | done {start : Nat} {inside : Bool}
      (nowhere : ∀ place, start ≤ place → ¬StandsAt (m.marker inside) t place) :
      Meets m t start inside []
  | next {start place : Nat} {inside : Bool} {places : List Nat}
      (first : FirstFrom (m.marker inside) t start place)
      (rest : Meets m t (place + (m.marker inside).length) (!inside) places) :
      Meets m t start inside (place :: places)

variable {m : BlockMarkers} {t : Text} {start place : Nat} {inside : Bool} {places others : List Nat}

/-! ## One marker after the other -/

theorem endsInside_eq (m : BlockMarkers) (inside : Bool) (t : Text) :
    m.endsInside inside t = match Text.afterFirst? (m.marker inside) t with
      | none => inside
      | some rest => m.endsInside (!inside) rest := by
  rw [endsInside]
  split
  · next h => rw [h]
  · next rest h => rw [h]

theorem endsInside_of_nowhere (hstart : start ≤ t.length)
    (h : ∀ place, start ≤ place → ¬StandsAt (m.marker inside) t place) :
    m.endsInside inside (t.drop start) = inside := by
  rw [endsInside_eq, Text.afterFirst?_of_nowhere hstart h]

/-- Behind the first marker the search goes on with the other one. -/
theorem endsInside_of_first (h : FirstFrom (m.marker inside) t start place) :
    m.endsInside inside (t.drop start) =
      m.endsInside (!inside) (t.drop (place + (m.marker inside).length)) := by
  rw [endsInside_eq, Text.afterFirst?_of_first h]

/-- How far a search can still go: an opening marker takes a character, and a closing marker, be it
empty, changes the side. -/
def roomFrom (t : Text) (start : Nat) (inside : Bool) : Nat :=
  2 * (t.length - start) + inside.toNat

theorem roomFrom_of_first (h : FirstFrom (m.marker inside) t start place) :
    roomFrom t (place + (m.marker inside).length) (!inside) < roomFrom t start inside := by
  have hstart : start ≤ place := h.start_le
  have hend : place + (m.marker inside).length ≤ t.length := h.standsAt.add_length_le
  unfold roomFrom
  cases inside with
  | true =>
      simp only [Bool.not_true, Bool.toNat_false, Bool.toNat_true]
      omega
  | false =>
      have hopening : 0 < (m.marker false).length := List.length_pos_iff.2 m.opening_ne_nil
      simp only [Bool.not_false, Bool.toNat_false, Bool.toNat_true]
      omega

/-! ## Whole searches -/

/-- A search ends: with each marker that it meets there is less room. -/
theorem exists_meets (m : BlockMarkers) (t : Text) (start : Nat) (inside : Bool) :
    ∃ places, m.Meets t start inside places := by
  -- Neither the place nor the side will do alone: an empty closing marker leaves the place as it is.
  induction hroom : roomFrom t start inside using Nat.strong_induction_on generalizing start inside with
  | _ room ih =>
      rcases Text.exists_first_or_nowhere (m.marker inside) t start with ⟨place, hfirst⟩ | hnowhere
      · have hless : roomFrom t (place + (m.marker inside).length) (!inside) < room := by
          rw [← hroom]
          exact roomFrom_of_first hfirst
        obtain ⟨places, hplaces⟩ := ih _ hless _ _ rfl
        exact ⟨place :: places, .next hfirst hplaces⟩
      · exact ⟨[], .done hnowhere⟩

theorem Meets.length_le (h : m.Meets t start inside places) :
    places.length ≤ roomFrom t start inside := by
  induction h with
  | done _ => exact Nat.zero_le _
  | next hfirst _ ih =>
      have hless := roomFrom_of_first hfirst
      rw [List.length_cons]
      omega

theorem Meets.unique (h : m.Meets t start inside places) (hothers : m.Meets t start inside others) :
    places = others := by
  induction h generalizing others with
  | done hnowhere =>
      cases hothers with
      | done _ => rfl
      | next hfirst _ => exact absurd hfirst.standsAt (hnowhere _ hfirst.start_le)
  | next hfirst _ ih =>
      cases hothers with
      | done hnowhere => exact absurd hfirst.standsAt (hnowhere _ hfirst.start_le)
      | next hother hrest =>
          obtain rfl := hfirst.unique hother
          rw [ih hrest]

/-- The side changes with every marker that is met. -/
theorem Meets.endsInside (h : m.Meets t start inside places) (hstart : start ≤ t.length) :
    m.endsInside inside (t.drop start) = not^[places.length] inside := by
  induction h with
  | done hnowhere => exact endsInside_of_nowhere hstart hnowhere
  | next hfirst _ ih =>
      rw [endsInside_of_first hfirst, ih hfirst.standsAt.add_length_le]
      rfl

/-- Where both markers are the same, all its occurrences without overlap are met. -/
theorem Meets.length_eq_occurrences (hsame : m.opening = m.closing)
    (h : m.Meets t start inside places) (hstart : start ≤ t.length) :
    places.length = Text.occurrences m.opening (t.drop start) := by
  have hmarker : ∀ inside, m.marker inside = m.opening := by
    intro inside
    cases inside with
    | true => exact hsame.symm
    | false => rfl
  induction h with
  | done hnowhere =>
      rw [hmarker] at hnowhere
      rw [Text.occurrences_eq_zero (Text.afterFirst?_of_nowhere hstart hnowhere)]
      rfl
  | next hfirst _ ih =>
      have hrest := ih hfirst.standsAt.add_length_le
      rw [hmarker] at hfirst hrest
      rw [Text.occurrences_of_afterFirst? m.opening_ne_nil (Text.afterFirst?_of_first hfirst), ← hrest]
      rfl

/-- From either side a search through a text meets the markers at finitely many places, at most two for
each character and one more if it starts inside a block comment: in turn the first closing marker inside
and the first opening marker outside, each from right behind the one before, until there is none.  It
ends on the side where it started, changed once for each of them.  If both markers are the same these
are as many as its occurrences from the left without overlap. -/
theorem endsInside_alternates (m : BlockMarkers) (inside : Bool) (t : Text) :
    ∃ places, m.Meets t 0 inside places ∧
      (∀ others, m.Meets t 0 inside others → others = places) ∧
      places.length ≤ 2 * t.length + inside.toNat ∧
      m.endsInside inside t = not^[places.length] inside ∧
      (m.opening = m.closing → places.length = Text.occurrences m.opening t) := by
  obtain ⟨places, hmeets⟩ := exists_meets m t 0 inside
  refine ⟨places, hmeets, ?_, hmeets.length_le, ?_, ?_⟩
  · intro others hothers
    exact hothers.unique hmeets
  · exact hmeets.endsInside (Nat.zero_le _)
  · intro hsame
    exact hmeets.length_eq_occurrences hsame (Nat.zero_le _)

/-- Of seven quotation marks the first six are two markers of three. -/
theorem endsInside_alternates_quoted :
    let m : BlockMarkers := ⟨"\"\"\"".toList, "\"\"\"".toList, by decide⟩
    ∃ places, m.Meets "a\"\"\"\"\"\"\"".toList 0 true places ∧ places.length = 2 ∧
      m.endsInside true "a\"\"\"\"\"\"\"".toList = true := by
  intro m
  obtain ⟨places, hmeets, -, -, hends, hcount⟩ :=
    endsInside_alternates m true "a\"\"\"\"\"\"\"".toList
  have htwo : places.length = 2 := (hcount rfl).trans (by decide)
  refine ⟨places, hmeets, htwo, ?_⟩
  rw [hends, htwo]
  rfl

/-- A marker that overlaps the one in front does not count. -/
example : (⟨['/', '*'], ['*', '/'], by decide⟩ : BlockMarkers).endsInside false "/*/".toList = true := by
  decide +kernel

/-- An empty closing marker closes what was opened at once. -/
example : (⟨['#'], [], by decide⟩ : BlockMarkers).endsInside true "a#b#".toList = false := by
  decide +kernel

end BlockMarkers

end IgnoreRules
