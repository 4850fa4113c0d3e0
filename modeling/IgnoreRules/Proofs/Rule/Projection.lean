import IgnoreRules.Proofs.Rule.Unescape

/-!
# Unescaping as a projection

Unescaping leaves the texts without needless escapes, and no others, as they are, so doing it twice is
doing it once.  All that it takes from a text are backslashes, and it takes no more of them than it must:
whatever is left of the text without some of its backslashes, if it has no needless escape, is left of
the unescaped text too.

* `Rule.unescape_eq_self_iff`, `Rule.unescape_unescape` : what unescaping leaves alone;
* `Rule.Thins` : a text without some of its backslashes;
* `Rule.thins_unescape`, `Rule.Thins.of_unescape` : what unescaping takes from a text;
* `Rule.unescape_projects` : all of these.
-/

namespace IgnoreRules

namespace Rule

variable {t u : Text}

/-! ## What is left alone -/

theorem unescape_eq_self_iff : unescape t = t ↔ WellEscaped t := by
  constructor
  · intro h
    rw [← h]
    exact wellEscaped_unescape t
  · exact WellEscaped.unescape_eq

instance : DecidablePred WellEscaped := fun _ =>
  decidable_of_iff _ unescape_eq_self_iff

theorem unescape_unescape (t : Text) : unescape (unescape t) = unescape t :=
  (wellEscaped_unescape t).unescape_eq

/-- A backslash escapes the character behind it, and from there on the escapes are those of the rest. -/
theorem WellEscaped.behind_backslash (h : WellEscaped ('\\' :: t)) :
    ∃ c rest, t = c :: rest ∧ isSpecial c = true ∧ WellEscaped rest := by
  cases h with
  | plain hc _ => exact absurd rfl hc
  | pair hc hrest => exact ⟨_, _, rfl, hc, hrest⟩

/-! ## What is taken away -/

/-- The second text is the first without some of its backslashes. -/
inductive Thins : Text → Text → Prop
  | nil : Thins [] []
  | keep (c : Char) {t u : Text} : Thins t u → Thins (c :: t) (c :: u)
  | drop {t u : Text} : Thins t u → Thins ('\\' :: t) u

theorem Thins.sublist (h : Thins t u) : u.Sublist t := by
  induction h with
  | nil => exact List.Sublist.refl []
  | keep c _ ih => exact ih.cons_cons c
  | drop _ ih => exact ih.cons '\\'

/-- All other characters stay, in the same order. -/
theorem Thins.filter_eq (h : Thins t u) : u.filter (· != '\\') = t.filter (· != '\\') := by
  induction h with
  | nil => rfl
  | keep c _ ih => rw [List.filter_cons, List.filter_cons, ih]
  | drop _ ih => exact ih

/-- One more backslash can be taken from where a text begins. -/
theorem Thins.of_backslash (h : Thins t ('\\' :: u)) : Thins t u := by
  generalize hkept : '\\' :: u = kept at h
  induction h with
  | nil => cases hkept
  | keep c h _ =>
      cases hkept
      exact .drop h
  | drop _ ih => exact .drop (ih hkept)

theorem thins_unescape (t : Text) : Thins t (unescape t) := by
  induction t using escapes_induction with
  | nil => exact .nil
  | lone => exact .drop .nil
  | plain c t hc ih =>
      rw [unescape_cons hc]
      exact .keep c ih
  | escape c t ih =>
      rw [unescape_pair]
      split
      · exact .keep '\\' (.keep c ih)
      · exact .drop (.keep c ih)

theorem notMem_unescape {c : Char} (h : c ∉ t) : c ∉ unescape t := by
  intro hmem
  exact h ((thins_unescape t).sublist.subset hmem)

/-- What has no needless escape is left of the unescaped text if it is left of the text. -/
theorem Thins.of_unescape (h : Thins t u) (hu : WellEscaped u) : Thins (unescape t) u := by
  induction t using escapes_induction generalizing u with
  | nil => exact h
  | lone =>
      cases h with
      | keep _ h =>
          cases h
          obtain ⟨c, rest, hnil, -⟩ := hu.behind_backslash
          cases hnil
      | drop h => exact h
  | plain c t hc ih =>
      rw [unescape_cons hc]
      cases h with
      | keep _ h => exact .keep c (ih h (hu.of_append (t := []) hc))
      | drop h => exact absurd rfl hc
  | escape c t ih =>
      -- Where one of two backslashes is left, it escapes a character of the rest: a third backslash,
      -- which stands for the second then, or another one.
      have hone : ∀ v, Thins t v → WellEscaped ('\\' :: v) →
          Thins ('\\' :: '\\' :: unescape t) ('\\' :: v) := by
        intro v hv hescape
        obtain ⟨d, rest, rfl, hd, hrest⟩ := hescape.behind_backslash
        by_cases hbackslash : d = '\\'
        · subst hbackslash
          exact .keep '\\' (.keep '\\' (ih hv.of_backslash hrest))
        · exact .keep '\\' (.drop (ih hv (.plain hbackslash hrest)))
      rw [unescape_pair]
      cases h with
      | keep _ h =>
          obtain ⟨d, rest, rfl, hd, hrest⟩ := hu.behind_backslash
          cases h with
          | keep _ h =>
              rw [if_pos hd]
              exact .keep '\\' (.keep c (ih h hrest))
          | drop h => exact hone _ h hu
      | drop h =>
          cases h with
          | keep _ h =>
              by_cases hc : c = '\\'
              · subst hc
                exact hone _ h hu
              · have hrest : Thins (unescape t) _ := ih h (hu.of_append (t := []) hc)
                split
                · exact .drop (.keep c hrest)
                · exact .keep c hrest
          | drop h => exact .drop (.drop (ih h hu))

/-- Unescaping gives a text without needless escapes and leaves exactly these texts as they are, also
when it is done again.  It keeps every character but backslashes, in order, and of the texts without
needless escapes that are left when backslashes are taken away, all others are left of the one it gives. -/
theorem unescape_projects (t : Text) :
    WellEscaped (unescape t) ∧ (unescape t = t ↔ WellEscaped t) ∧
      unescape (unescape t) = unescape t ∧
      (unescape t).filter (· != '\\') = t.filter (· != '\\') ∧
      Thins t (unescape t) ∧ ∀ u, Thins t u → WellEscaped u → Thins (unescape t) u := by
  refine ⟨wellEscaped_unescape t, unescape_eq_self_iff, unescape_unescape t, ?_, thins_unescape t, ?_⟩
  · exact (thins_unescape t).filter_eq
  · intro u hthins hu
    exact hthins.of_unescape hu

/-- Of three backslashes in front of a letter the last is dropped; no backslash at all would do as well. -/
theorem unescape_projects_odd :
    unescape "\\\\\\a".toList = "\\\\a".toList ∧ Thins "\\\\a".toList "a".toList := by
  have hkept : unescape "\\\\\\a".toList = "\\\\a".toList := by decide
  obtain ⟨-, -, -, -, -, hlargest⟩ := unescape_projects "\\\\\\a".toList
  refine ⟨hkept, ?_⟩
  rw [← hkept]
  exact hlargest "a".toList (.drop (.drop (.drop (.keep 'a' .nil)))) (by decide)

end Rule

end IgnoreRules
