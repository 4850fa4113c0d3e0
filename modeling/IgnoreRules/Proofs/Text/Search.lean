import Mathlib.Data.Nat.Find
import IgnoreRules.Text.Basic

/-!
# Occurrences of a marker

A search from the left finds the first occurrence of a marker, and finds one if there is any.  A
character that the marker does not have is a wall: no occurrence reaches over it, so what stands in
front of it and what stands behind it are searched on their own.

* `Text.hasPart_iff`, `Text.afterFirst?_eq_none_iff` : whether there is an occurrence;
* `Text.prefix_of_prefix_append_cons` : an occurrence in front of a wall;
* `Text.afterFirst?_append_cons`, `Text.afterFirst?_append` : the search over a wall, and in front of
  one;
* `Text.StandsAt`, `Text.FirstFrom` : the places of a marker, and the first of them from a place on;
* `Text.afterFirst?_of_first`, `Text.afterFirst?_of_nowhere` : the search from a place on;
* `Text.occurrences` : how often a marker occurs without overlap.
-/

namespace IgnoreRules

namespace Text

variable {marker t u v : Text} {c : Char}

/-- A search steps over a character at which the marker does not begin. -/
theorem afterFirst?_cons (h : ¬marker <+: c :: t) : afterFirst? marker (c :: t) = afterFirst? marker t := by
  rw [← List.isPrefixOf_iff_prefix] at h
  exact if_neg h

theorem afterFirst?_of_begins (h : marker <+: t) : afterFirst? marker t = some (t.drop marker.length) := by
  rw [← List.isPrefixOf_iff_prefix] at h
  unfold afterFirst?
  exact if_pos h

/-- A search fails where there is no occurrence, and only there. -/
theorem afterFirst?_eq_none_iff : afterFirst? marker t = none ↔ ¬marker <:+: t := by
  induction t with
  | nil =>
      unfold afterFirst?
      simp
  | cons c t ih =>
      by_cases h : marker <+: c :: t
      · have hoccurs : marker <:+: c :: t := h.isInfix
        simp [afterFirst?_of_begins h, hoccurs]
      · simp [afterFirst?_cons h, ih, List.infix_cons_iff, h]

theorem hasPart_iff : hasPart marker t = true ↔ marker <:+: t := by
  unfold hasPart
  rw [← Option.ne_none_iff_isSome, Ne, afterFirst?_eq_none_iff, Classical.not_not]

/-! ## Walls -/

/-- An occurrence at the beginning does not reach over a character that the marker does not have. -/
theorem prefix_of_prefix_append_cons (h : marker <+: u ++ c :: v) (hc : c ∉ marker) : marker <+: u := by
  have hwall : u ++ [c] <+: u ++ c :: v := ⟨v, by rw [List.append_assoc, List.singleton_append]⟩
  rcases List.prefix_or_prefix_of_prefix h hwall with hfront | hover
  · rcases List.prefix_concat_iff.1 hfront with rfl | hfront
    · simp at hc
    · exact hfront
  · have hmem : c ∈ u ++ [c] := List.mem_append_right u (List.mem_singleton_self c)
    exact absurd (hover.subset hmem) hc

/-- Where there is no occurrence in front of a wall, the search goes on behind it. -/
theorem afterFirst?_append_cons (hu : ¬marker <:+: u) (hc : c ∉ marker) :
    afterFirst? marker (u ++ c :: v) = afterFirst? marker v := by
  induction u with
  | nil =>
      rw [List.nil_append, afterFirst?_cons]
      intro h
      have hempty : marker <+: [] := prefix_of_prefix_append_cons h hc
      exact hu hempty.isInfix
  | cons d u ih =>
      rw [List.cons_append, afterFirst?_cons]
      · exact ih fun h => hu (List.infix_cons h)
      · intro h
        have hfront : marker <+: d :: u := prefix_of_prefix_append_cons h hc
        exact hu hfront.isInfix

/-- In front of a text, characters that the marker does not have are passed over. -/
theorem afterFirst?_append_of_notMem (hmarker : marker ≠ []) (hu : ∀ c ∈ u, c ∉ marker) :
    afterFirst? marker (u ++ t) = afterFirst? marker t := by
  have hnone : ¬marker <:+: [] := by simpa using hmarker
  induction u with
  | nil => rfl
  | cons c u ih =>
      calc afterFirst? marker (c :: u ++ t)
          = afterFirst? marker (u ++ t) := afterFirst?_append_cons hnone (hu c List.mem_cons_self)
        _ = afterFirst? marker t := ih fun d hd => hu d (List.mem_cons_of_mem c hd)

/-- Characters that the marker does not have change nothing behind a text but what is left of it. -/
theorem afterFirst?_append (hmarker : marker ≠ []) (hv : ∀ c ∈ v, c ∉ marker) :
    afterFirst? marker (t ++ v) = (afterFirst? marker t).map (· ++ v) := by
  have hfront : ∀ {u : Text}, marker <+: u ++ v → marker <+: u := by
    intro u h
    cases v with
    | nil => rwa [List.append_nil] at h
    | cons c v => exact prefix_of_prefix_append_cons h (hv c List.mem_cons_self)
  induction t with
  | nil =>
      have hnone : ∀ u : Text, ¬marker <:+: u → afterFirst? marker u = none :=
        fun _ => afterFirst?_eq_none_iff.2
      rw [hnone [] (by simpa using hmarker), hnone]
      · rfl
      · intro h
        obtain ⟨c, hc⟩ := List.exists_mem_of_ne_nil marker hmarker
        exact hv c (h.subset hc) hc
  | cons d t ih =>
      by_cases h : marker <+: d :: t
      · have hlong : marker <+: d :: t ++ v := h.trans (List.prefix_append _ _)
        rw [afterFirst?_of_begins h, afterFirst?_of_begins hlong, List.drop_append_of_le_length h.length_le]
        rfl
      · have hlong : ¬marker <+: d :: (t ++ v) := fun hlong => h (hfront hlong)
        rw [List.cons_append, afterFirst?_cons hlong, afterFirst?_cons h, ih]

/-! ## Places -/

/-- A marker stands in a text behind so many characters. -/
def StandsAt (marker t : Text) (place : Nat) : Prop :=
  place ≤ t.length ∧ marker <+: t.drop place

/-- A marker stands at a place, and at no other place between there and where the search starts. -/
structure FirstFrom (marker t : Text) (start place : Nat) : Prop where
  start_le : start ≤ place
  standsAt : StandsAt marker t place
  le_of_standsAt : ∀ other, start ≤ other → StandsAt marker t other → place ≤ other

variable {start place other : Nat} {rest : Text}

theorem StandsAt.add_length_le (h : StandsAt marker t place) : place + marker.length ≤ t.length := by
  have hfits : marker.length ≤ (t.drop place).length := h.2.length_le
  have hplace : place ≤ t.length := h.1
  rw [List.length_drop] at hfits
  omega

theorem FirstFrom.unique (h : FirstFrom marker t start place) (hother : FirstFrom marker t start other) :
    place = other :=
  Nat.le_antisymm (h.le_of_standsAt other hother.start_le hother.standsAt)
    (hother.le_of_standsAt place h.start_le h.standsAt)

/-- A search from a place on finds a first occurrence, or there is none. -/
theorem exists_first_or_nowhere (marker t : Text) (start : Nat) :
    (∃ place, FirstFrom marker t start place) ∨ ∀ place, start ≤ place → ¬StandsAt marker t place := by
  by_cases h : ∃ place, start ≤ place ∧ StandsAt marker t place
  · classical
    have hleast : ∀ other, start ≤ other → StandsAt marker t other → Nat.find h ≤ other :=
      fun _ hother hstands => Nat.find_min' h ⟨hother, hstands⟩
    exact Or.inl ⟨Nat.find h, (Nat.find_spec h).1, (Nat.find_spec h).2, hleast⟩
  · exact Or.inr fun place hplace hstands => h ⟨place, hplace, hstands⟩

theorem afterFirst?_of_nowhere (hstart : start ≤ t.length)
    (h : ∀ place, start ≤ place → ¬StandsAt marker t place) : afterFirst? marker (t.drop start) = none := by
  rw [afterFirst?_eq_none_iff]
  rintro ⟨u, v, hoccurs⟩
  have hdrop : t.drop (start + u.length) = marker ++ v := by
    rw [← List.drop_drop, ← hoccurs, List.append_assoc, List.drop_left]
  have hlength : u.length ≤ t.length - start := by
    rw [← List.length_drop, ← hoccurs, List.append_assoc, List.length_append]
    exact Nat.le_add_right _ _
  refine h (start + u.length) (Nat.le_add_right _ _) ⟨by omega, ?_⟩
  rw [hdrop]
  exact List.prefix_append marker v

/-- From a place on, a search finds what follows the first occurrence from there. -/
theorem afterFirst?_of_first (h : FirstFrom marker t start place) :
    afterFirst? marker (t.drop start) = some (t.drop (place + marker.length)) := by
  obtain ⟨distance, rfl⟩ := Nat.exists_eq_add_of_le h.start_le
  -- Each step takes the start nearer, over a character where no occurrence begins.
  induction distance generalizing start with
  | zero =>
      rw [Nat.add_zero] at h ⊢
      rw [afterFirst?_of_begins h.standsAt.2, List.drop_drop]
  | succ distance ih =>
      have hinside : start < t.length := by
        have hplace := h.standsAt.1
        omega
      have hnot : ¬marker <+: t[start] :: t.drop (start + 1) := by
        rw [← List.drop_eq_getElem_cons hinside]
        intro hbegins
        have hle := h.le_of_standsAt start (Nat.le_refl start) ⟨Nat.le_of_lt hinside, hbegins⟩
        omega
      have hplace : start + (distance + 1) = start + 1 + distance := by omega
      rw [List.drop_eq_getElem_cons hinside, afterFirst?_cons hnot]
      rw [hplace] at h ⊢
      apply ih
      exact ⟨Nat.le_add_right _ _, h.standsAt, fun other hother => h.le_of_standsAt other (by omega)⟩

/-! ## How often a marker occurs -/

/-- How often a marker occurs from the left without overlap, where so many characters at the beginning
belong to an occurrence in front. -/
def occurrencesBehind (marker : Text) : Nat → Text → Nat
  | _, [] => 0
  | covered + 1, _ :: t => occurrencesBehind marker covered t
  | 0, c :: t =>
      if marker.isPrefixOf (c :: t) then occurrencesBehind marker (marker.length - 1) t + 1
      else occurrencesBehind marker 0 t

/-- How often a marker occurs in a text, counted from the left without overlap. -/
def occurrences (marker t : Text) : Nat :=
  occurrencesBehind marker 0 t

theorem occurrencesBehind_eq (marker : Text) (covered : Nat) (t : Text) :
    occurrencesBehind marker covered t = occurrences marker (t.drop covered) := by
  induction t generalizing covered with
  | nil => cases covered <;> rfl
  | cons c t ih =>
      cases covered with
      | zero => rfl
      | succ covered => exact ih covered

theorem occurrences_cons (h : ¬marker <+: c :: t) :
    occurrences marker (c :: t) = occurrences marker t := by
  rw [← List.isPrefixOf_iff_prefix] at h
  exact if_neg h

theorem occurrences_of_begins (hmarker : marker ≠ []) (h : marker <+: t) :
    occurrences marker t = occurrences marker (t.drop marker.length) + 1 := by
  obtain ⟨d, rest, rfl⟩ := List.exists_cons_of_ne_nil hmarker
  cases t with
  | nil => simp at h
  | cons c t =>
      rw [← List.isPrefixOf_iff_prefix] at h
      have hfirst : occurrences (d :: rest) (c :: t) = occurrencesBehind (d :: rest) rest.length t + 1 :=
        if_pos h
      rw [hfirst, occurrencesBehind_eq]
      rfl

/-- Behind the first occurrence one less is left. -/
theorem occurrences_of_afterFirst? (hmarker : marker ≠ []) (h : afterFirst? marker t = some rest) :
    occurrences marker t = occurrences marker rest + 1 := by
  induction t with
  | nil =>
      have hnone : afterFirst? marker [] = none := afterFirst?_eq_none_iff.2 (by simpa using hmarker)
      rw [hnone] at h
      cases h
  | cons c t ih =>
      by_cases hbegins : marker <+: c :: t
      · rw [afterFirst?_of_begins hbegins] at h
        cases h
        exact occurrences_of_begins hmarker hbegins
      · rw [afterFirst?_cons hbegins] at h
        rw [occurrences_cons hbegins]
        exact ih h

theorem occurrences_eq_zero (h : afterFirst? marker t = none) : occurrences marker t = 0 := by
  rw [afterFirst?_eq_none_iff] at h
  induction t with
  | nil => rfl
  | cons c t ih =>
      rw [List.infix_cons_iff, not_or] at h
      rw [occurrences_cons h.1]
      exact ih h.2

end Text

end IgnoreRules
