import IgnoreRules.Proofs.Glob.Places

/-!
# Runs of wildcard stars

A star between two constructs is a wildcard, one behind a backslash or inside brackets is not.  Wildcard
stars that stand together are read as one token, and two or more of them that fill a component are
recursive.  Two stars that stand together in a text without filling a component are therefore one of
three things: stars of a run that is not recursive, stars of a recursive run of three or more, or
stars of which the first is no wildcard.

* `Glob.WildcardRun`, `Glob.runToken` : runs and their tokens;
* `Glob.WildcardRun.parse_eq` : reading takes the run as that token;
* `Glob.exists_partialPair_iff` : the three ways for two stars not to fill a component.
-/

namespace IgnoreRules

namespace Glob

variable {t front back w : Text} {n : Nat}

/-! ## Runs and their tokens -/

/-- The stars between `front` and `back` are a whole run of wildcards: there are whole constructs in
front, the last of which is no star, and no star behind. -/
structure WildcardRun (front back : Text) : Prop where
  between : ∃ inGroup, front ∈ constructs inGroup
  first : ∀ w inGroup, front = w ++ ['*'] → w ∉ constructs inGroup
  last : back.head? ≠ some '*'

/-- A text that is read to its end, or up to a group that is left open, is one of whole constructs. -/
theorem exists_mem_constructs_iff :
    (∃ inGroup, w ∈ constructs inGroup) ↔
      (parse w).isOk = true ∨ faultOf? (parse w) = some .unclosedAlternates := by
  rw [Bool.exists_bool]
  refine or_congr ?_ ?_
  · refine Iff.trans parse_ok_iff_mem_grammar.symm ?_
    cases parse w with
    | ok g => simp [Except.isOk, Except.toBool]
    | error fault => simp [Except.isOk, Except.toBool]
  · refine Iff.trans parse_unclosed_iff.symm ?_
    cases parse w with
    | ok g => simp [faultOf?]
    | error fault => simp [faultOf?]

instance (w : Text) : Decidable (∃ inGroup, w ∈ constructs inGroup) :=
  decidable_of_iff _ exists_mem_constructs_iff.symm

theorem wildcardRun_iff : WildcardRun front back ↔ (∃ inGroup, front ∈ constructs inGroup) ∧
    ¬(front.getLast? = some '*' ∧ ∃ inGroup, front.dropLast ∈ constructs inGroup) ∧
      back.head? ≠ some '*' := by
  constructor
  · rintro ⟨hbetween, hfirst, hlast⟩
    refine ⟨hbetween, ?_, hlast⟩
    rintro ⟨hstar, inGroup, hmem⟩
    obtain ⟨v, rfl⟩ := List.getLast?_eq_some_iff.1 hstar
    rw [List.dropLast_concat] at hmem
    exact hfirst v inGroup rfl hmem
  · rintro ⟨hbetween, hfirst, hlast⟩
    refine ⟨hbetween, ?_, hlast⟩
    rintro v inGroup rfl hmem
    exact hfirst ⟨by simp, inGroup, by rwa [List.dropLast_concat]⟩

instance (front back : Text) : Decidable (WildcardRun front back) :=
  decidable_of_iff _ wildcardRun_iff.symm

/-- The token that stands for `n` stars between `front` and `back`. -/
def runToken (front : Text) (n : Nat) (back : Text) : Token :=
  (starToken n front.getLast? back.head?).1

/-- A run is recursive if it has two or more stars and fills a component. -/
theorem runToken_ne_anyRun_iff :
    runToken front n back ≠ .anyRun ↔ 2 ≤ n ∧ Bounds front.getLast? ∧ Bounds back.head? := by
  by_cases h : 2 ≤ n ∧ Bounds front.getLast? ∧ Bounds back.head?
  · refine iff_of_true ?_ h
    have htest := starTest_iff.2 h
    unfold runToken starToken
    rw [if_pos htest]
    cases back.head? with
    | none => exact Token.noConfusion
    | some c => exact Token.noConfusion
  · refine iff_of_false (fun hne => hne ?_) h
    rw [runToken, starToken_plain h]

/-- Only one token stands for a separator as well. -/
theorem separator_iff_of_starToken {before after : Option Char} {token : Token} {separator : Bool}
    (h : starToken n before after = (token, separator)) : separator = true ↔ token = .anyDirs := by
  unfold starToken at h
  split at h
  · cases after with
    | none => cases h; simp
    | some c => cases h; simp
  · cases h
    simp

/-- Reading a text comes to each of its runs and takes it as its token, a recursive run together with
the separator behind it. -/
theorem WildcardRun.parse_eq (h : WildcardRun front back) (hn : 1 ≤ n) :
    ∃ d : Draft, parse (front ++ (List.replicate n '*' ++ back)) =
      if runToken front n back = .anyDirs then
        readFrom (d.add (runToken front n back)) (some '/') back.tail
      else readFrom (d.add (runToken front n back)) (some '*') back := by
  obtain ⟨inGroup, hfront⟩ := h.between
  obtain ⟨d, -, hcomes⟩ := exists_draft_of_constructs hfront (h.first · ·)
  refine ⟨d, ?_⟩
  unfold runToken
  rw [hcomes, readFrom_stars hn h.last]
  rcases hstar : starToken n front.getLast? back.head? with ⟨token, separator⟩
  have hdirs := separator_iff_of_starToken hstar
  cases separator with
  | false =>
      have hother : token ≠ .anyDirs := fun h => Bool.false_ne_true (hdirs.2 h)
      exact (if_neg hother).symm
  | true => exact (if_pos (hdirs.1 rfl)).symm

/-! ## Two stars together -/

/-- A run of two or more wildcards that are read as a single one. -/
def HasPlainRun (t : Text) : Prop :=
  ∃ front n back, t = front ++ (List.replicate n '*' ++ back) ∧ WildcardRun front back ∧ 2 ≤ n ∧
    runToken front n back = .anyRun

/-- A run is given by the place where it begins. -/
theorem hasPlainRun_iff : HasPlainRun t ↔ ∃ k ∈ List.range t.length,
    WildcardRun (t.take k) ((t.drop k).dropWhile (· == '*')) ∧
      2 ≤ ((t.drop k).takeWhile (· == '*')).length ∧
        runToken (t.take k) ((t.drop k).takeWhile (· == '*')).length
          ((t.drop k).dropWhile (· == '*')) = .anyRun := by
  constructor
  · rintro ⟨front, n, back, rfl, hrun, hn, htoken⟩
    have hlast : back.head? ≠ some '*' := hrun.last
    refine ⟨front.length, ?_, ?_⟩
    · simp only [List.mem_range, List.length_append, List.length_replicate]
      omega
    · rw [List.take_left, List.drop_left, dropWhile_stars hlast, takeWhile_stars hlast,
        List.length_replicate]
      exact ⟨hrun, hn, htoken⟩
  · rintro ⟨k, -, hrun, hn, htoken⟩
    refine ⟨t.take k, _, _, ?_, hrun, hn, htoken⟩
    rw [← takeWhile_stars_eq, List.takeWhile_append_dropWhile, List.take_append_drop]

instance (t : Text) : Decidable (HasPlainRun t) :=
  decidable_of_iff _ hasPlainRun_iff.symm

example : HasPlainRun "**/a**".toList ∧ ¬HasPlainRun "**/\\**/[**]".toList := by
  decide +kernel

/-- A recursive run of more than two stars. -/
def HasLongRun (t : Text) : Prop :=
  ∃ front n back, t = front ++ (List.replicate n '*' ++ back) ∧ WildcardRun front back ∧ 3 ≤ n ∧
    runToken front n back ≠ .anyRun

/-- Two stars together that do not fill a component. -/
def PartialPair (t front back : Text) : Prop :=
  t = front ++ '*' :: '*' :: back ∧ ¬(Bounds front.getLast? ∧ Bounds back.head?)

/-- Two stars together that do not fill a component, the first of which is no wildcard. -/
def HasLiteralPair (t : Text) : Prop :=
  ∃ front back, PartialPair t front back ∧ ∀ inGroup, front ∉ constructs inGroup

/-- Wildcard stars at the end of whole constructs are the last of them. -/
theorem exists_first_star (hw : ∃ inGroup, w ∈ constructs inGroup) :
    ∃ front n, w = front ++ List.replicate n '*' ∧ (∃ inGroup, front ∈ constructs inGroup) ∧
      ∀ v inGroup, front = v ++ ['*'] → v ∉ constructs inGroup := by
  induction w using List.reverseRecOn with
  | nil => exact ⟨[], 0, rfl, hw, by simp⟩
  | append_singleton v c ih =>
      by_cases hstar : c = '*' ∧ ∃ inGroup, v ∈ constructs inGroup
      · obtain ⟨rfl, hv⟩ := hstar
        obtain ⟨front, n, rfl, hfront, hfirst⟩ := ih hv
        refine ⟨front, n + 1, ?_, hfront, hfirst⟩
        rw [List.replicate_succ', List.append_assoc]
      · refine ⟨v ++ [c], 0, (List.append_nil _).symm, hw, ?_⟩
        intro v' inGroup hsplit hv'
        obtain ⟨rfl, hc⟩ := List.append_inj' hsplit rfl
        exact hstar ⟨List.head_eq_of_cons_eq hc, inGroup, hv'⟩

theorem exists_last_star (t : Text) :
    ∃ n back, t = List.replicate n '*' ++ back ∧ back.head? ≠ some '*' := by
  refine ⟨(t.takeWhile (· == '*')).length, t.dropWhile (· == '*'), ?_, head?_dropWhile_stars t⟩
  rw [← takeWhile_stars_eq, List.takeWhile_append_dropWhile]

/-- Two wildcard stars together are stars of a run. -/
theorem exists_run_of_pair (back : Text) (hfront : ∃ inGroup, front ∈ constructs inGroup) :
    ∃ front' k m back', front = front' ++ List.replicate k '*' ∧ back = List.replicate m '*' ++ back' ∧
      WildcardRun front' back' := by
  obtain ⟨front', k, hleft, hbetween, hfirst⟩ := exists_first_star hfront
  obtain ⟨m, back', hright, hlast⟩ := exists_last_star back
  exact ⟨front', k, m, back', hleft, hright, hbetween, hfirst, hlast⟩

theorem replicate_pair (k m : Nat) :
    List.replicate k '*' ++ '*' :: '*' :: List.replicate m '*' = List.replicate (k + 2 + m) '*' := by
  rw [List.replicate_add, List.replicate_add, List.append_assoc]
  rfl

/-- The first two stars of a run do not fill a component if the run does not, or if it has more. -/
theorem exists_partialPair_of_run (hn : 2 ≤ n)
    (h : ¬(Bounds front.getLast? ∧ Bounds back.head?) ∨ 3 ≤ n) :
    ∃ front' back', PartialPair (front ++ (List.replicate n '*' ++ back)) front' back' := by
  obtain ⟨k, rfl⟩ : ∃ k, n = k + 2 := ⟨n - 2, by omega⟩
  by_cases hfew : k = 0
  · subst hfew
    exact ⟨front, back, rfl, h.resolve_right (by omega)⟩
  · -- A third star bounds no component.
    obtain ⟨m, rfl⟩ : ∃ m, k = m + 1 := ⟨k - 1, by omega⟩
    refine ⟨front, List.replicate (m + 1) '*' ++ back, rfl, ?_⟩
    rintro ⟨-, hbounds⟩
    simp [Bounds, List.replicate_succ] at hbounds

/-- Two stars together do not fill a component in just three cases: a run that is read as a single
wildcard, a recursive run of more than two stars, and a star that is no wildcard with another behind. -/
theorem exists_partialPair_iff :
    (∃ front back, PartialPair t front back) ↔ HasPlainRun t ∨ HasLongRun t ∨ HasLiteralPair t := by
  constructor
  · rintro ⟨front, back, rfl, hpair⟩
    by_cases hfront : ∃ inGroup, front ∈ constructs inGroup
    · obtain ⟨front', k, m, back', rfl, rfl, hrun⟩ := exists_run_of_pair back hfront
      have hsplit : front' ++ List.replicate k '*' ++ '*' :: '*' :: (List.replicate m '*' ++ back') =
          front' ++ (List.replicate (k + 2 + m) '*' ++ back') := by
        rw [← replicate_pair]
        simp
      by_cases htoken : runToken front' (k + 2 + m) back' = .anyRun
      · exact Or.inl ⟨front', k + 2 + m, back', hsplit, hrun, by omega, htoken⟩
      · refine Or.inr (Or.inl ⟨front', k + 2 + m, back', hsplit, hrun, ?_, htoken⟩)
        -- With no further stars the two would fill the component of their run.
        by_contra hfew
        obtain ⟨rfl, rfl⟩ : k = 0 ∧ m = 0 := by omega
        obtain ⟨-, hbounds⟩ := runToken_ne_anyRun_iff.1 htoken
        simp at hpair
        exact hpair hbounds.1 hbounds.2
    · refine Or.inr (Or.inr ⟨front, back, ⟨rfl, hpair⟩, ?_⟩)
      intro inGroup hmem
      exact hfront ⟨inGroup, hmem⟩
  · rintro (⟨front, n, back, rfl, -, hn, htoken⟩ | ⟨front, n, back, rfl, -, hn, -⟩ |
      ⟨front, back, hpair, -⟩)
    · apply exists_partialPair_of_run hn
      left
      intro hbounds
      exact runToken_ne_anyRun_iff.2 ⟨hn, hbounds⟩ htoken
    · exact exists_partialPair_of_run (by omega) (Or.inr hn)
    · exact ⟨front, back, hpair⟩

end Glob

end IgnoreRules
