import IgnoreRules.Text.Blank

/-!
# The ends of a text

What cutting at the ends leaves alone.  A text is cut at its beginning up to the first character that
stays, so a part in front of such a character is cut as if it stood alone.

* `Text.singleton_isPrefixOf`, `Text.singleton_isSuffixOf` : the first and the last character;
* `Text.dropWhile_append_of_head?` : cutting in front of a part that stays;
* `Text.trim_append`, `Text.trim_of_ends`, `Text.ends_trim`, `Text.trim_trim`, `Text.exists_trim` :
  trimming.
-/

namespace IgnoreRules

namespace Text

variable {p : Char → Bool} {t u : Text}

theorem singleton_isPrefixOf (c : Char) (t : Text) : [c].isPrefixOf t = (t.head? == some c) := by
  cases t with
  | nil => rfl
  | cons d t =>
      have hfirst : [c].isPrefixOf (d :: t) = (c == d) := by simp [List.isPrefixOf]
      rw [hfirst, List.head?_cons, Option.some_beq_some]
      exact BEq.comm

theorem singleton_isSuffixOf (c : Char) (t : Text) : [c].isSuffixOf t = (t.getLast? == some c) := by
  rw [← List.head?_reverse, ← singleton_isPrefixOf]
  rfl

/-- Nothing is cut from a text that begins with a character that stays. -/
theorem dropWhile_of_head? (h : ∀ c ∈ t.head?, p c = false) : t.dropWhile p = t := by
  cases t with
  | nil => rfl
  | cons c t =>
      rw [List.dropWhile_cons_of_neg]
      simp [h c rfl]

theorem dropWhile_of_head?_ne {c : Char} (h : t.head? ≠ some c) : t.dropWhile (· == c) = t := by
  apply dropWhile_of_head?
  rintro d hd
  rw [beq_eq_false_iff_ne]
  rintro rfl
  exact h hd

/-- What stands in front of a part that stays is cut as if it stood alone. -/
theorem dropWhile_append_of_head? (t : Text) (h : ∀ c ∈ u.head?, p c = false) :
    (t ++ u).dropWhile p = t.dropWhile p ++ u := by
  rw [List.dropWhile_append, dropWhile_of_head? h]
  split
  · next hempty => rw [List.isEmpty_iff.1 hempty, List.nil_append]
  · rfl

/-- Nothing is cut from a text that ends with a character that stays. -/
theorem dropEndWhile_of_getLast? (h : ∀ c ∈ t.getLast?, p c = false) : dropEndWhile p t = t := by
  unfold dropEndWhile
  rw [dropWhile_of_head?, List.reverse_reverse]
  rwa [List.head?_reverse]

theorem dropEndWhile_of_getLast?_ne {c : Char} (h : t.getLast? ≠ some c) :
    dropEndWhile (· == c) t = t := by
  unfold dropEndWhile
  rw [dropWhile_of_head?_ne, List.reverse_reverse]
  rwa [List.head?_reverse]

/-- White space in front of a part without white space at its ends is trimmed as if it stood alone. -/
theorem trim_append (t : Text) (hu : u ≠ []) (hhead : ∀ c ∈ u.head?, isBlank c = false)
    (hlast : ∀ c ∈ u.getLast?, isBlank c = false) : trim (t ++ u) = t.dropWhile isBlank ++ u := by
  unfold trim trimWhile
  rw [dropWhile_append_of_head? t hhead]
  apply dropEndWhile_of_getLast?
  rw [List.getLast?_append, List.getLast?_eq_some_getLast hu, Option.some_or,
    ← List.getLast?_eq_some_getLast hu]
  exact hlast

theorem trim_of_ends (hhead : ∀ c ∈ t.head?, isBlank c = false)
    (hlast : ∀ c ∈ t.getLast?, isBlank c = false) : trim t = t := by
  cases t with
  | nil => rfl
  | cons c t => exact trim_append [] (List.cons_ne_nil c t) hhead hlast

/-- What holds of the last character of a text holds of the last character of its ends. -/
theorem getLast?_of_suffix {P : Char → Prop} (h : u <:+ t) (ht : ∀ c ∈ t.getLast?, P c) :
    ∀ c ∈ u.getLast?, P c := by
  obtain ⟨v, rfl⟩ := h
  intro c hc
  apply ht
  rw [Option.mem_def] at hc ⊢
  rw [List.getLast?_append, hc, Option.some_or]

/-- What is left after cutting at the end begins as it did before. -/
theorem prefix_trim (t : Text) : trim t <+: t.dropWhile isBlank := by
  have hback := List.dropWhile_suffix (l := (t.dropWhile isBlank).reverse) isBlank
  rw [← List.reverse_prefix, List.reverse_reverse] at hback
  exact hback

/-- Trimming takes white space from the two ends, and nothing else. -/
theorem exists_trim (t : Text) :
    ∃ before after, t = before ++ (trim t ++ after) ∧ (∀ c ∈ before, isBlank c = true) ∧
      ∀ c ∈ after, isBlank c = true := by
  have hblank : ∀ u : Text, ∀ c ∈ u.takeWhile isBlank, isBlank c = true :=
    fun u => List.all_eq_true.1 List.all_takeWhile
  refine ⟨t.takeWhile isBlank, ((t.dropWhile isBlank).reverse.takeWhile isBlank).reverse, ?_, hblank t, ?_⟩
  · unfold trim trimWhile dropEndWhile
    rw [← List.reverse_append, List.takeWhile_append_dropWhile, List.reverse_reverse,
      List.takeWhile_append_dropWhile]
  · intro c hc
    exact hblank _ c (List.mem_reverse.1 hc)

/-- A text is trimmed to one that has no white space at its ends. -/
theorem ends_trim (t : Text) :
    (∀ c ∈ (trim t).head?, isBlank c = false) ∧ ∀ c ∈ (trim t).getLast?, isBlank c = false := by
  have hcut : ∀ u : Text, ∀ c ∈ (u.dropWhile isBlank).head?, isBlank c = false := by
    intro u c hc
    have hstop := List.head?_dropWhile_not isBlank u
    rw [Option.mem_def.1 hc] at hstop
    exact hstop
  constructor
  · obtain ⟨rest, hrest⟩ := prefix_trim t
    intro c hc
    apply hcut t
    rw [← hrest, List.head?_append, Option.mem_def.1 hc]
    rfl
  · intro c hc
    apply hcut (t.dropWhile isBlank).reverse
    rwa [← List.getLast?_reverse]

theorem trim_trim (t : Text) : trim (trim t) = trim t :=
  trim_of_ends (ends_trim t).1 (ends_trim t).2

/-- A text that ends with a character that stays is trimmed at its beginning only. -/
theorem trim_of_getLast? (h : ∀ c ∈ t.getLast?, isBlank c = false) :
    trim t = t.dropWhile isBlank :=
  dropEndWhile_of_getLast? (getLast?_of_suffix (List.dropWhile_suffix _) h)

/-- What is left at the end of a trimmed text is trimmed at its beginning only. -/
theorem trim_of_suffix (h : u <:+ t) (ht : trim t = t) : trim u = u.dropWhile isBlank := by
  have hlast : ∀ c ∈ t.getLast?, isBlank c = false := by
    rw [← ht]
    exact (ends_trim t).2
  exact trim_of_getLast? (getLast?_of_suffix h hlast)

end Text

end IgnoreRules
