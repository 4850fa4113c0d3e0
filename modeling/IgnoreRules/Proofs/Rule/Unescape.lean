import IgnoreRules.Rule.Unescape

/-!
# Texts without needless escapes

What dropping needless escapes does to a text, as equations by the beginning of the text, and what is
left: texts in which every backslash, read from the left, escapes a special character.

* `Rule.unescape_cons`, `Rule.unescape_pair` : one character, and a backslash with a character;
* `Rule.escapes_induction` : reading a text by its escapes;
* `Rule.unescape_append_separator` : the parts on the two sides of a separator;
* `Rule.WellEscaped` : the texts without needless escapes;
* `Rule.wellEscaped_unescape` : unescaping gives such a text;
* `Rule.WellEscaped.unescape_eq` : unescaping leaves such a text as it is;
* `Rule.WellEscaped.of_append` : such a text can be cut behind any character but a backslash.
-/

namespace IgnoreRules

namespace Rule

variable {c : Char} {t u : Text}

/-! ## Unescaping from the left -/

/-- What is kept of a text goes in front of what was kept before. -/
theorem kept_foldl_push (t : Text) (u : Unescaping) :
    (t.foldl Unescaping.push u).kept =
      (t.foldl Unescaping.push ⟨[], u.escaped⟩).kept ++ u.kept := by
  induction t generalizing u with
  | nil => rfl
  | cons c t ih =>
      rw [List.foldl_cons, List.foldl_cons, ih (u.push c), ih (Unescaping.push ⟨[], u.escaped⟩ c)]
      -- What a step keeps does not depend on what was kept before.
      have hstep : (Unescaping.push ⟨[], u.escaped⟩ c).escaped = (u.push c).escaped ∧
          (u.push c).kept = (Unescaping.push ⟨[], u.escaped⟩ c).kept ++ u.kept := by
        unfold Unescaping.push
        cases u.escaped with
        | true => by_cases hc : isSpecial c = true <;> simp [hc]
        | false => by_cases hc : c = '\\' <;> simp [hc]
      rw [hstep.1, hstep.2, List.append_assoc]

/-- A character other than a backslash is kept. -/
theorem unescape_cons (hc : c ≠ '\\') (t : Text) : unescape (c :: t) = c :: unescape t := by
  have hpush : Unescaping.push {} c = ⟨[c], false⟩ := if_neg hc
  unfold unescape
  rw [List.foldl_cons, hpush, kept_foldl_push, List.reverse_append]
  rfl

/-- A backslash is kept in front of a special character, and the character is kept in any case. -/
theorem unescape_pair (c : Char) (t : Text) :
    unescape ('\\' :: c :: t) = (if isSpecial c then ['\\', c] else [c]) ++ unescape t := by
  have hpush : Unescaping.push (Unescaping.push {} '\\') c =
      ⟨(if isSpecial c then ['\\', c] else [c]).reverse, false⟩ := by
    by_cases hc : isSpecial c = true <;> simp [Unescaping.push, hc]
  unfold unescape
  rw [List.foldl_cons, List.foldl_cons, hpush, kept_foldl_push, List.reverse_append,
    List.reverse_reverse]

/-- A backslash at the end is dropped. -/
theorem unescape_backslash : unescape ['\\'] = [] :=
  rfl

/-- A text is empty, a backslash at the end, or begins with a character that is no backslash or with a
backslash and the character it escapes; the rest is read on its own. -/
theorem escapes_induction {P : Text → Prop} (nil : P []) (lone : P ['\\'])
    (plain : ∀ c t, c ≠ '\\' → P t → P (c :: t)) (escape : ∀ c t, P t → P ('\\' :: c :: t)) :
    ∀ t, P t
  | [] => nil
  | [c] => by
      by_cases hc : c = '\\'
      · rw [hc]
        exact lone
      · exact plain c [] hc nil
  | c :: d :: t => by
      by_cases hc : c = '\\'
      · rw [hc]
        exact escape d t (escapes_induction nil lone plain escape t)
      · exact plain c (d :: t) hc (escapes_induction nil lone plain escape (d :: t))

/-- Escapes do not reach beyond a separator, which needs none. -/
theorem unescape_append_separator (t u : Text) :
    unescape (t ++ '/' :: u) = unescape t ++ '/' :: unescape u := by
  induction t using escapes_induction with
  | nil => exact unescape_cons (by decide) u
  | lone => exact unescape_pair '/' u
  | plain c t hc ih => rw [List.cons_append, unescape_cons hc, unescape_cons hc, ih, List.cons_append]
  | escape c t ih =>
      rw [List.cons_append, List.cons_append, unescape_pair, unescape_pair, ih, List.append_assoc]

/-! ## What is left -/

/-- Every backslash of the text, read from the left, escapes a special character. -/
inductive WellEscaped : Text → Prop
  | nil : WellEscaped []
  | plain {c : Char} {t : Text} : c ≠ '\\' → WellEscaped t → WellEscaped (c :: t)
  | pair {c : Char} {t : Text} : isSpecial c = true → WellEscaped t → WellEscaped ('\\' :: c :: t)

theorem ne_backslash_of_not_special (hc : ¬ isSpecial c = true) : c ≠ '\\' := by
  rintro rfl
  exact hc rfl

/-- Unescaping leaves no needless escape. -/
theorem wellEscaped_unescape (t : Text) : WellEscaped (unescape t) := by
  induction t using escapes_induction with
  | nil => exact .nil
  | lone => exact .nil
  | plain c t hc ih =>
      rw [unescape_cons hc]
      exact .plain hc ih
  | escape c t ih =>
      rw [unescape_pair]
      by_cases hc : isSpecial c = true
      · rw [if_pos hc]
        exact .pair hc ih
      · rw [if_neg hc]
        exact .plain (ne_backslash_of_not_special hc) ih

theorem WellEscaped.append (ht : WellEscaped t) (hu : WellEscaped u) : WellEscaped (t ++ u) := by
  induction ht with
  | nil => exact hu
  | plain hc _ ih => exact .plain hc ih
  | pair hc _ ih => exact .pair hc ih

theorem wellEscaped_of_notMem (h : '\\' ∉ t) : WellEscaped t := by
  induction t with
  | nil => exact .nil
  | cons c t ih =>
      rw [List.mem_cons, not_or] at h
      exact .plain (Ne.symm h.1) (ih h.2)

/-- In front of any text, what has no needless escapes stays as it is. -/
theorem WellEscaped.unescape_append (h : WellEscaped t) (u : Text) :
    unescape (t ++ u) = t ++ unescape u := by
  induction h with
  | nil => rfl
  | plain hc _ ih => simp [unescape_cons hc, ih]
  | pair hc _ ih => simp [unescape_pair, hc, ih]

theorem WellEscaped.unescape_eq (h : WellEscaped t) : unescape t = t := by
  have hempty : unescape [] = [] := rfl
  simpa [hempty] using h.unescape_append []

/-- Behind a character that is no backslash the escapes are those of the rest alone. -/
theorem WellEscaped.of_append (h : WellEscaped (t ++ c :: u)) (hc : c ≠ '\\') : WellEscaped u := by
  generalize hwhole : t ++ c :: u = whole at h
  induction h generalizing t with
  | nil => exact absurd hwhole (List.append_ne_nil_of_right_ne_nil t (List.cons_ne_nil c u))
  | @plain d rest _ hrest ih =>
      cases t with
      | nil =>
          cases hwhole
          exact hrest
      | cons e t =>
          cases hwhole
          exact ih rfl
  | @pair d rest _ hrest ih =>
      -- The cut is not inside the pair, for its first character is a backslash.
      match t with
      | [] =>
          cases hwhole
          exact absurd rfl hc
      | [e] =>
          cases hwhole
          exact hrest
      | e :: f :: t =>
          cases hwhole
          exact ih rfl

end Rule

end IgnoreRules
