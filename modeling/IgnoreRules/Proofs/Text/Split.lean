import IgnoreRules.Text.Basic

/-!
# Texts split at separators

A text is split at its separators from the left: it is a part without a separator, or such a part, a
separator, and a text that is split in turn.

* `Text.splitOn_cases` : the two forms;
* `Text.notMem_of_mem_splitOn` : no part has a separator in it;
* `Text.exists_of_splitOn_eq_append` : where the parts are cut in two, the text is cut at a separator;
* `Text.getLast?_splitOn_iff` : the last part;
* `Text.mem_splitOn_iff`, `Text.exists_part_around` : the places of parts.
-/

namespace IgnoreRules

namespace Text

variable {t part : Text} {front back : List Text}

theorem splitOn_cases (t : Text) :
    ('/' ∉ t ∧ t.splitOn '/' = [t]) ∨
      ∃ u v, t = u ++ '/' :: v ∧ '/' ∉ u ∧ t.splitOn '/' = u :: v.splitOn '/' := by
  by_cases h : '/' ∈ t
  · obtain ⟨u, v, rfl, hu⟩ := List.eq_append_cons_of_mem h
    exact Or.inr ⟨u, v, rfl, hu, List.splitOn_append_cons_self_of_not_mem hu v⟩
  · exact Or.inl ⟨h, List.splitOn_eq_singleton h⟩

theorem notMem_of_mem_splitOn (h : part ∈ t.splitOn '/') : '/' ∉ part := by
  generalize hparts : t.splitOn '/' = parts at h
  induction parts generalizing t with
  | nil => exact absurd h List.not_mem_nil
  | cons first parts ih =>
      obtain ⟨hplain, hsplit⟩ | ⟨u, v, rfl, hu, hsplit⟩ := splitOn_cases t
      · rw [← hparts, hsplit, List.mem_singleton] at h
        rwa [h]
      · rw [hsplit] at hparts
        obtain ⟨rfl, hrest⟩ := List.cons.inj hparts
        obtain rfl | h := List.mem_cons.1 h
        · exact hu
        · exact ih hrest h

/-- Parts in front and parts behind are the parts of two texts with a separator between them. -/
theorem exists_of_splitOn_eq_append (h : t.splitOn '/' = front ++ back) (hfront : front ≠ [])
    (hback : back ≠ []) :
    ∃ u v, t = u ++ '/' :: v ∧ u.splitOn '/' = front ∧ v.splitOn '/' = back := by
  induction front generalizing t with
  | nil => exact absurd rfl hfront
  | cons part front ih =>
      obtain ⟨-, hsplit⟩ | ⟨u, v, rfl, hu, hsplit⟩ := splitOn_cases t
      · rw [hsplit, List.cons_append, List.cons.injEq, eq_comm (a := []), List.append_eq_nil_iff] at h
        exact absurd h.2.2 hback
      · rw [hsplit] at h
        obtain ⟨rfl, hrest⟩ := List.cons.inj h
        cases front with
        | nil => exact ⟨u, v, rfl, List.splitOn_eq_singleton hu, hrest⟩
        | cons next front =>
            obtain ⟨u', v', rfl, hu', hv'⟩ := ih hrest (List.cons_ne_nil next front)
            refine ⟨u ++ '/' :: u', v', by rw [List.append_assoc, List.cons_append], ?_, hv'⟩
            rw [List.splitOn_append_cons_self_of_not_mem hu, hu']

/-- The last part of a text is the text itself, or what stands behind its last separator. -/
theorem getLast?_splitOn_iff (hpart : '/' ∉ part) :
    (t.splitOn '/').getLast? = some part ↔ t = part ∨ ∃ u, t = u ++ '/' :: part := by
  have hback : ∀ {v : Text}, v.splitOn '/' = [part] → v = part := by
    intro v hv
    have hjoined : List.intercalate ['/'] (v.splitOn '/') = v := List.intercalate_splitOn '/'
    rw [← hjoined, hv, List.intercalate_singleton]
  rw [List.getLast?_eq_some_iff]
  constructor
  · rintro ⟨front, hsplit⟩
    by_cases hfront : front = []
    · rw [hfront] at hsplit
      exact Or.inl (hback hsplit)
    · obtain ⟨u, v, rfl, -, hv⟩ :=
        exists_of_splitOn_eq_append hsplit hfront (List.cons_ne_nil part [])
      exact Or.inr ⟨u, by rw [hback hv]⟩
  · rintro (rfl | ⟨u, rfl⟩)
    · exact ⟨[], List.splitOn_eq_singleton hpart⟩
    · exact ⟨u.splitOn '/', by rw [List.splitOn_append_cons_self, List.splitOn_eq_singleton hpart]⟩

/-- A part of a text stands between two places, each a separator or an end of the text. -/
theorem mem_splitOn_iff : part ∈ t.splitOn '/' ↔ '/' ∉ part ∧ ∃ u v, t = u ++ (part ++ v) ∧
    (∀ c ∈ u.getLast?, c = '/') ∧ ∀ c ∈ v.head?, c = '/' := by
  constructor
  · intro hmem
    obtain ⟨front, back, hsplit⟩ := List.append_of_mem hmem
    have hpart : '/' ∉ part := notMem_of_mem_splitOn hmem
    -- The parts from this one on are those of a text that begins with it.
    obtain ⟨u, w, rfl, hu, hw⟩ : ∃ u w, t = u ++ w ∧ (∀ c ∈ u.getLast?, c = '/') ∧
        w.splitOn '/' = part :: back := by
      by_cases hfront : front = []
      · exact ⟨[], t, rfl, nofun, by rw [hsplit, hfront, List.nil_append]⟩
      · obtain ⟨u, w, rfl, -, hw⟩ :=
          exists_of_splitOn_eq_append hsplit hfront (List.cons_ne_nil part back)
        exact ⟨u ++ ['/'], w, by simp, by simp, hw⟩
    obtain ⟨-, halone⟩ | ⟨p, v, rfl, -, hcut⟩ := splitOn_cases w
    · obtain ⟨rfl, -⟩ := List.cons.inj (halone.symm.trans hw)
      exact ⟨hpart, u, [], by rw [List.append_nil], hu, nofun⟩
    · obtain ⟨rfl, -⟩ := List.cons.inj (hcut.symm.trans hw)
      exact ⟨hpart, u, '/' :: v, rfl, hu, by simp⟩
  · rintro ⟨hpart, u, v, rfl, hu, hv⟩
    have hbehind : part ∈ (part ++ v).splitOn '/' := by
      cases v with
      | nil => rw [List.append_nil, List.splitOn_eq_singleton hpart, List.mem_singleton]
      | cons c v =>
          obtain rfl : c = '/' := hv c rfl
          rw [List.splitOn_append_cons_self_of_not_mem hpart]
          exact List.mem_cons_self
    obtain rfl | ⟨init, c, rfl⟩ := List.eq_nil_or_concat u
    · exact hbehind
    · obtain rfl : c = '/' := hu c (by simp)
      rw [List.concat_eq_append, List.append_assoc, List.singleton_append, List.splitOn_append_cons_self]
      exact List.mem_append_right _ hbehind

/-- Every place in a text stands in a part. -/
theorem exists_part_around (u v : Text) : ∃ above left right below, u = above ++ left ∧ v = right ++ below ∧
    '/' ∉ left ∧ '/' ∉ right ∧ (∀ c ∈ above.getLast?, c = '/') ∧ ∀ c ∈ below.head?, c = '/' := by
  have hcut : ∀ w : Text, ∃ near far, w = near ++ far ∧ '/' ∉ near ∧ ∀ c ∈ far.head?, c = '/' := by
    intro w
    obtain ⟨hplain, -⟩ | ⟨near, far, rfl, hnear, -⟩ := splitOn_cases w
    · exact ⟨w, [], (List.append_nil w).symm, hplain, nofun⟩
    · exact ⟨near, '/' :: far, rfl, hnear, by simp⟩
  obtain ⟨left, above, hleft, hnotleft, habove⟩ := hcut u.reverse
  obtain ⟨right, below, hright, hnotright, hbelow⟩ := hcut v
  refine ⟨above.reverse, left.reverse, right, below, ?_, hright, ?_, hnotright, ?_, hbelow⟩
  · rw [← List.reverse_append, ← hleft, List.reverse_reverse]
  · rwa [List.mem_reverse]
  · rwa [List.getLast?_reverse]

/-- Between a separator and a place with none in front there is nothing. -/
theorem eq_nil_of_getLast? {u : Text} (hpart : '/' ∉ part) (h : ∀ c ∈ (u ++ part).getLast?, c = '/') :
    part = [] := by
  obtain rfl | ⟨init, c, rfl⟩ := List.eq_nil_or_concat part
  · rfl
  · have hsep : c = '/' := h c (by simp)
    exact absurd (by simp [hsep]) hpart

theorem eq_nil_of_head? {v : Text} (hpart : '/' ∉ part) (h : ∀ c ∈ (part ++ v).head?, c = '/') :
    part = [] := by
  cases part with
  | nil => rfl
  | cons c part =>
      have hsep : c = '/' := h c rfl
      exact absurd (by simp [hsep]) hpart

end Text

end IgnoreRules
