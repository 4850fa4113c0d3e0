import IgnoreRules.Proofs.Statistics.Totals
import IgnoreRules.Proofs.Walk.Comparison

/-!
# Rules behind others

Rules that are appended to others and ignore, all of them, can only take away: what was ignored still
is, a walk meets a part of the files it met, and no language counts more than it did.  Rules that are
appended and keep, all of them, can only give back.

* `RuleSet.Stricter` : that a set ignores, walks and counts at most what another leaves;
* `RuleSet.stricter_of_covers` : a set that ignores whatever another does is stricter;
* `RuleSet.stricter_of_append` : rules of one kind behind others.
-/

namespace IgnoreRules

/-! ## Rules of one kind -/

/-- Rules of one kind leave the verdict that they give. -/
theorem Rule.overriding_of_negation {text : Text} {isDir negation : Bool} {rules : List Rule}
    (h : ∀ r ∈ rules, r.negation = negation) :
    overriding text isDir rules (!negation) = !negation := by
  induction rules with
  | nil => rfl
  | cons r rules ih =>
      have hrest := ih fun r' hr' => h r' (List.mem_cons_of_mem r hr')
      have hfirst : (if r.applies text isDir then !r.negation else !negation) = !negation := by
        rw [h r (List.mem_cons_self ..), ite_self]
      calc overriding text isDir (r :: rules) (!negation)
          = overriding text isDir rules
              (if r.applies text isDir then !r.negation else !negation) := rfl
        _ = !negation := by rw [hfirst, hrest]

namespace RuleSet

section Appending

variable {root : Path} {L E : List Text} {s a : RuleSet} {extra : List Rule}

theorem covers_of_plain (hroot : s.root = a.root) (hrules : s.rules = a.rules ++ extra)
    (h : ∀ r ∈ extra, r.negation = false) : s.Covers a := by
  intro p isDir hignored
  -- Paths without a text to ask about are never ignored, so this one has one.
  have hcandidate : s.candidate p ≠ [] := by
    intro hempty
    rw [isIgnored_eq_overriding, candidate_eq hroot.symm, if_pos hempty] at hignored
    cases hignored
  rw [isIgnored_of_rules_append hroot hrules, if_neg hcandidate, hignored]
  exact Rule.overriding_of_negation h

theorem covers_of_negated (hroot : s.root = a.root) (hrules : s.rules = a.rules ++ extra)
    (h : ∀ r ∈ extra, r.negation = true) : a.Covers s := by
  intro p isDir hignored
  -- A path that was kept is still kept, by every rule behind.
  by_contra hkept
  rw [Bool.not_eq_true] at hkept
  rw [isIgnored_of_rules_append hroot hrules, hkept] at hignored
  have hkeeps : Rule.overriding (s.candidate p) isDir extra false = false :=
    Rule.overriding_of_negation h
  rw [hkeeps, ite_self] at hignored
  cases hignored

/-! ## What is left -/

/-- Whatever the second set ignores the first does too; of the files of a walk it leaves a part, in
the same order, and of the count of a language at most as much. -/
structure Stricter (s a : RuleSet) : Prop where
  verdict : ∀ p isDir, a.isIgnored p isDir = true → s.isIgnored p isDir = true
  walk : ∀ (w : World) here, (w.walk s here).1.Sublist (w.walk a here).1
  counts : ∀ (w : World) here language n, (w.statistics s here).1.get? language = some n →
    ∃ m, (w.statistics a here).1.get? language = some m ∧ n ≤ m

theorem exists_count_of_covers {w : World} {here : Path} {language : Text} {n : LineCount}
    (h : s.Covers a) (hn : (w.statistics s here).1.get? language = some n) :
    ∃ m, (w.statistics a here).1.get? language = some m ∧ n ≤ m := by
  have hcounts : (w.countsIn language (w.walk s here).1).Sublist
      (w.countsIn language (w.walk a here).1) := (w.walk_sublist h here).filterMap _
  obtain ⟨hsome, rfl⟩ := World.get?_statistics_eq_some_iff.1 hn
  refine ⟨(w.countsIn language (w.walk a here).1).sum, ?_, ?_⟩
  · apply World.get?_statistics_eq_some_iff.2
    refine ⟨?_, rfl⟩
    intro hnone
    rw [hnone] at hcounts
    exact hsome (List.sublist_nil.1 hcounts)
  · apply hcounts.sum_le_sum
    intro count hcount
    exact World.nonneg_of_mem_countsIn hcount

theorem stricter_of_covers (h : s.Covers a) : s.Stricter a where
  verdict := h
  walk w here := w.walk_sublist h here
  counts _ _ _ _ hn := exists_count_of_covers h hn

/-- Lines that are appended and state no negated rule make a set stricter, and lines that state negated
rules alone make it less strict. -/
theorem stricter_of_append (ha : ofLines root L = .ok a) (hs : ofLines root (L ++ E) = .ok s) :
    ((∀ r ∈ Rule.ofLines E, r.negation = false) → s.Stricter a) ∧
      ((∀ r ∈ Rule.ofLines E, r.negation = true) → a.Stricter s) := by
  have hroot : s.root = a.root := (rules_of_ofLines hs).1.trans (rules_of_ofLines ha).1.symm
  have hrules : s.rules = a.rules ++ Rule.ofLines E := by
    rw [(rules_of_ofLines hs).2, (rules_of_ofLines ha).2, ofLines_append]
  constructor
  · intro hplain
    exact stricter_of_covers (covers_of_plain hroot hrules hplain)
  · intro hnegated
    exact stricter_of_covers (covers_of_negated hroot hrules hnegated)

/-- A rule for directories takes one away, and a negated rule gives a file back. -/
theorem stricter_of_append_either :
    ∃ a s t, ofLines (Path.parse "/r".toList) ["*.log".toList] = .ok a ∧
      ofLines (Path.parse "/r".toList) (["*.log".toList] ++ ["build/".toList]) = .ok s ∧
      ofLines (Path.parse "/r".toList) (["*.log".toList] ++ ["!keep.log".toList]) = .ok t ∧
      s.Stricter a ∧ a.Stricter t ∧
      a.isIgnored (Path.parse "/r/build".toList) true = false ∧
      s.isIgnored (Path.parse "/r/build".toList) true = true ∧
      a.isIgnored (Path.parse "/r/keep.log".toList) false = true ∧
      t.isIgnored (Path.parse "/r/keep.log".toList) false = false := by
  have hlog : Rule.ofLines ["*.log".toList] = [⟨"**/*.log".toList, false, false, false⟩] := by decide
  have hbuild : Rule.ofLines ["build/".toList] = [⟨"**/build".toList, false, true, false⟩] := by decide
  have hkeep : Rule.ofLines ["!keep.log".toList] = [⟨"**/keep.log".toList, false, false, true⟩] := by
    decide
  have hstars : ∃ g, Glob.parse "**/*.log".toList = .ok g :=
    ⟨.token .anyDirs :: .token .anyRun :: ".log".toList.map (.token <| .char ·), by decide +kernel⟩
  have hdir : ∃ g, Glob.parse "**/build".toList = .ok g :=
    ⟨.token .anyDirs :: "build".toList.map (.token <| .char ·), by decide +kernel⟩
  have hfile : ∃ g, Glob.parse "**/keep.log".toList = .ok g :=
    ⟨.token .anyDirs :: "keep.log".toList.map (.token <| .char ·), by decide +kernel⟩
  obtain ⟨a, ha⟩ : ∃ a, ofLines (Path.parse "/r".toList) ["*.log".toList] = .ok a := by
    apply exists_ofRules_eq_ok_iff.2
    rw [hlog, List.forall_mem_singleton]
    exact hstars
  obtain ⟨s, hs⟩ : ∃ s, ofLines (Path.parse "/r".toList) (["*.log".toList] ++ ["build/".toList]) =
      .ok s := by
    apply exists_ofRules_eq_ok_iff.2
    rw [ofLines_append, hlog, hbuild, List.forall_mem_append, List.forall_mem_singleton,
      List.forall_mem_singleton]
    exact ⟨hstars, hdir⟩
  obtain ⟨t, ht⟩ : ∃ t, ofLines (Path.parse "/r".toList) (["*.log".toList] ++ ["!keep.log".toList]) =
      .ok t := by
    apply exists_ofRules_eq_ok_iff.2
    rw [ofLines_append, hlog, hkeep, List.forall_mem_append, List.forall_mem_singleton,
      List.forall_mem_singleton]
    exact ⟨hstars, hfile⟩
  refine ⟨a, s, t, ha, hs, ht, (stricter_of_append ha hs).1 ?_, (stricter_of_append ha ht).2 ?_,
    ?_, ?_, ?_, ?_⟩
  · rw [hbuild, List.forall_mem_singleton]
  · rw [hkeep, List.forall_mem_singleton]
  · rw [isIgnored_eq_overriding, candidate, (rules_of_ofLines ha).1, (rules_of_ofLines ha).2]
    decide +kernel
  · rw [isIgnored_eq_overriding, candidate, (rules_of_ofLines hs).1, (rules_of_ofLines hs).2]
    decide +kernel
  · rw [isIgnored_eq_overriding, candidate, (rules_of_ofLines ha).1, (rules_of_ofLines ha).2]
    decide +kernel
  · rw [isIgnored_eq_overriding, candidate, (rules_of_ofLines ht).1, (rules_of_ofLines ht).2]
    decide +kernel

end Appending

end RuleSet

end IgnoreRules
