import IgnoreRules.Proofs.Glob.Set
import IgnoreRules.RuleSet

/-!
# Verdicts of rule sets

A set looks for the rule that decides from the last match backwards.  Said forwards, every rule that
applies overrides what the rules before it said.  Both come to the same verdict.

* `Rule.applies` : that a rule applies to a text, by its own glob alone;
* `Rule.overriding` : the verdict of rules taken in order, each overriding those before it;
* `RuleSet.deciding?_eq_some_iff`, `RuleSet.deciding?_eq_none_iff` : the rule that decides is the last
  one that applies;
* `RuleSet.isIgnored_eq_overriding` : the verdict of a set is that of its rules in order.
-/

namespace IgnoreRules

namespace Rule

/-! ## Rules in order -/

/-- Whether the glob of the rule, taken alone, matches a text. -/
def fits (r : Rule) (text : Text) : Bool :=
  match Glob.parse r.pattern with
  | .ok g => g.isMatch r.scope text
  | .error _ => false

/-- Whether the rule applies to a text: its glob matches, and it is not a rule for directories asked
about something else. -/
def applies (text : Text) (isDir : Bool) (r : Rule) : Bool :=
  r.fits text && !(r.dirOnly && !isDir)

/-- Goes through rules in order, each that applies overriding the verdict so far. -/
def overriding (text : Text) (isDir : Bool) (rules : List Rule) (verdict : Bool) : Bool :=
  rules.foldl (fun v r => if r.applies text isDir then !r.negation else v) verdict

/-- The last rule that applies. -/
def lastApplying? (text : Text) (isDir : Bool) (rules : List Rule) : Option Rule :=
  rules.reverse.find? (applies text isDir)

section Order

variable {text : Text} {isDir verdict : Bool} {r : Rule} {rules rules' : List Rule}

theorem overriding_append :
    overriding text isDir (rules ++ rules') verdict =
      overriding text isDir rules' (overriding text isDir rules verdict) :=
  List.foldl_append

theorem lastApplying?_append :
    lastApplying? text isDir (rules ++ rules') =
      (lastApplying? text isDir rules').or (lastApplying? text isDir rules) := by
  rw [lastApplying?, List.reverse_append, List.find?_append]
  rfl

theorem lastApplying?_eq_none_iff :
    lastApplying? text isDir rules = none ↔ ∀ r ∈ rules, r.applies text isDir = false := by
  rw [lastApplying?, List.find?_eq_none]
  simp only [List.mem_reverse, Bool.not_eq_true]

theorem any_applies : rules.any (applies text isDir) = (lastApplying? text isDir rules).isSome := by
  rw [Bool.eq_iff_iff, List.any_eq_true, lastApplying?, List.find?_isSome]
  simp only [List.mem_reverse]

/-- Overriding from the front leaves the verdict of the last rule that applies; the induction takes
the last rule off. -/
theorem overriding_eq_lastApplying (rules : List Rule) :
    overriding text isDir rules verdict =
      match lastApplying? text isDir rules with
      | none => verdict
      | some r => !r.negation := by
  induction rules using List.reverseRecOn with
  | nil => rfl
  | append_singleton rules r ih =>
      rw [overriding_append, lastApplying?_append]
      by_cases h : r.applies text isDir = true
      · have hlast : lastApplying? text isDir [r] = some r := List.find?_cons_of_pos h
        rw [hlast, Option.some_or]
        exact if_pos h
      · have hlast : lastApplying? text isDir [r] = none := List.find?_cons_of_neg h
        rw [hlast, Option.none_or, ← ih]
        exact if_neg h

/-- The last rule that applies, found at its position. -/
theorem lastApplying?_eq_some {i : Nat} (hr : rules[i]? = some r)
    (happlies : r.applies text isDir = true)
    (hlater : ∀ j r', i < j → rules[j]? = some r' → r'.applies text isDir = false) :
    lastApplying? text isDir rules = some r := by
  rcases List.getElem?_eq_some_iff.1 hr with ⟨hlt, rfl⟩
  have hsplit : rules.take i ++ ([rules[i]] ++ rules.drop (i + 1)) = rules := by
    rw [List.singleton_append, List.cons_getElem_drop_succ, List.take_append_drop]
  have hnone : lastApplying? text isDir (rules.drop (i + 1)) = none := by
    rw [lastApplying?_eq_none_iff]
    intro r' hmem
    rcases List.mem_iff_getElem?.1 hmem with ⟨j, hj⟩
    rw [List.getElem?_drop] at hj
    exact hlater _ r' (by omega) hj
  have hhere : lastApplying? text isDir [rules[i]] = some rules[i] := List.find?_cons_of_pos happlies
  calc lastApplying? text isDir rules
      = lastApplying? text isDir (rules.take i ++ ([rules[i]] ++ rules.drop (i + 1))) := by rw [hsplit]
    _ = some rules[i] := by
          rw [lastApplying?_append, lastApplying?_append, hnone, hhere, Option.none_or,
            Option.some_or]

end Order

end Rule

namespace RuleSet

/-! ## Building -/

section Building

variable {root : Path} {rules : List Rule} {lines A B : List Text} {s : RuleSet}

theorem rules_of_ofRules (h : ofRules root rules = .ok s) : s.root = root ∧ s.rules = rules := by
  unfold ofRules at h
  split at h
  · cases h
  · cases h
    exact ⟨rfl, rfl⟩

theorem rules_of_ofLines (h : ofLines root lines = .ok s) :
    s.root = root ∧ s.rules = Rule.ofLines lines :=
  rules_of_ofRules h

theorem exists_ofRules_eq_ok_iff :
    (∃ s, ofRules root rules = .ok s) ↔ ∀ r ∈ rules, ∃ g, Glob.parse r.pattern = .ok g := by
  have hvalid : (∀ r ∈ rules, ∃ g, Glob.parse r.pattern = .ok g) ↔
      ∃ globs, GlobSet.compile (Rule.globs rules) = .ok globs := by
    rw [GlobSet.exists_compile_eq_ok_iff, Rule.globs, List.forall_mem_map]
    rfl
  rw [hvalid]
  constructor
  · rintro ⟨s, hs⟩
    rcases rules_of_ofRules hs with ⟨-, rfl⟩
    exact ⟨s.globs, s.compiled⟩
  · rintro ⟨globs, hglobs⟩
    unfold ofRules
    split
    · next e he =>
        rw [hglobs] at he
        cases he
    · exact ⟨_, rfl⟩

theorem ofLines_append : Rule.ofLines (A ++ B) = Rule.ofLines A ++ Rule.ofLines B :=
  List.filterMap_append

theorem ofLines_single {line : Text} {r : Rule} (h : Line.parse line = .rule r) :
    Rule.ofLines [line] = [r] := by
  unfold Rule.ofLines
  rw [List.filterMap_cons, h]
  rfl

/-- Both parts of some lines that build a set build one. -/
theorem exists_ofLines_of_append (h : ofLines root (A ++ B) = .ok s) :
    (∃ a, ofLines root A = .ok a) ∧ ∃ b, ofLines root B = .ok b := by
  have hvalid := exists_ofRules_eq_ok_iff.1 ⟨s, h⟩
  rw [ofLines_append, List.forall_mem_append] at hvalid
  exact ⟨exists_ofRules_eq_ok_iff.2 hvalid.1, exists_ofRules_eq_ok_iff.2 hvalid.2⟩

end Building

/-! ## The rule that decides -/

section Deciding

variable {s : RuleSet} {p : Path} {text : Text} {isDir : Bool} {i k : Nat} {r : Rule}

theorem mem_matchIndices_iff_fits :
    i ∈ s.globs.matchIndices text ↔ ∃ r, s.rules[i]? = some r ∧ r.fits text = true := by
  rw [GlobSet.mem_matchIndices_iff_alone s.compiled, Rule.globs]
  simp only [List.getElem?_map, Option.map_eq_some_iff, Prod.mk.injEq]
  constructor
  · rintro ⟨_, _, g, ⟨r, hr, rfl, rfl⟩, hg, hmatch⟩
    exact ⟨r, hr, by rw [Rule.fits, hg]; exact hmatch⟩
  · rintro ⟨r, hr, hfits⟩
    unfold Rule.fits at hfits
    split at hfits
    · next g hg => exact ⟨_, _, g, ⟨r, hr, rfl, rfl⟩, hg, hfits⟩
    · cases hfits

theorem applies_iff : r.applies text isDir = true ↔ r.fits text = true ∧ r.concerns isDir = true := by
  rw [Rule.applies, Rule.concerns, Bool.and_eq_true, Bool.not_and, Bool.not_not]

theorem concerning?_eq_some_iff :
    s.concerning? isDir i = some (k, r) ↔
      k = i ∧ s.rules[i]? = some r ∧ r.concerns isDir = true := by
  rw [concerning?]
  cases s.rules[i]? with
  | none => simp
  | some r' =>
      simp only [Option.ite_none_right_eq_some, Option.some.injEq, Prod.mk.injEq]
      constructor
      · rintro ⟨hconcerns, rfl, rfl⟩
        exact ⟨rfl, rfl, hconcerns⟩
      · rintro ⟨rfl, rfl, hconcerns⟩
        exact ⟨hconcerns, rfl, rfl⟩

/-- What a search among the matches can find at a position is a rule that applies. -/
theorem concerning?_matchIndices_iff :
    i ∈ s.globs.matchIndices text ∧ s.concerning? isDir i = some (k, r) ↔
      k = i ∧ s.rules[i]? = some r ∧ r.applies text isDir = true := by
  rw [mem_matchIndices_iff_fits, concerning?_eq_some_iff, applies_iff]
  constructor
  · rintro ⟨⟨r', hr', hfits⟩, hk, hr, hconcerns⟩
    cases hr'.symm.trans hr
    exact ⟨hk, hr, hfits, hconcerns⟩
  · rintro ⟨hk, hr, hfits, hconcerns⟩
    exact ⟨⟨r, hr, hfits⟩, hk, hr, hconcerns⟩

/-- A search among the matches from a position on finds nothing when no rule from there on applies. -/
theorem concerning?_eq_none_iff :
    (∀ i ∈ s.globs.matchIndices text, k ≤ i → s.concerning? isDir i = none) ↔
      ∀ i r, k ≤ i → s.rules[i]? = some r → r.applies text isDir = false := by
  constructor
  · intro h i r hki hr
    by_contra happlies
    rw [Bool.not_eq_false] at happlies
    rcases concerning?_matchIndices_iff.2 ⟨rfl, hr, happlies⟩ with ⟨hi, hsome⟩
    rw [h i hi hki] at hsome
    cases hsome
  · intro h i hi hki
    rw [Option.eq_none_iff_forall_ne_some]
    rintro ⟨k, r⟩ hfound
    rcases concerning?_matchIndices_iff.1 ⟨hi, hfound⟩ with ⟨-, hr, happlies⟩
    rw [h i r hki hr] at happlies
    cases happlies

/-- Searching ascending positions from their end finds what the greatest of them gives that gives
anything. -/
theorem findSome?_reverse_eq_some_iff {α : Type} {indices : List Nat} {f : Nat → Option α} {a : α}
    (hsorted : indices.Pairwise (· < ·)) :
    indices.reverse.findSome? f = some a ↔
      ∃ i ∈ indices, f i = some a ∧ ∀ j ∈ indices, i < j → f j = none := by
  -- What is found lies above all that was searched before it; that settles the converse as well.
  have hgreatest : ∀ {a}, indices.reverse.findSome? f = some a →
      ∃ i ∈ indices, f i = some a ∧ ∀ j ∈ indices, i < j → f j = none := by
    intro a h
    rcases List.findSome?_eq_some_iff.1 h with ⟨after, i, before, hsplit, hi, hafter⟩
    have hindices : indices = before.reverse ++ i :: after.reverse := by
      rw [← List.reverse_reverse indices, hsplit]
      simp
    rw [hindices] at hsorted ⊢
    rw [List.pairwise_append] at hsorted
    refine ⟨i, by simp, hi, fun j hj hij => ?_⟩
    rcases List.mem_append.1 hj with hbefore | hrest
    · exact absurd (hsorted.2.2 j hbefore i (List.mem_cons_self ..)) (Nat.lt_asymm hij)
    · rcases List.mem_cons.1 hrest with rfl | hmem
      · exact absurd hij (Nat.lt_irrefl j)
      · exact hafter j (List.mem_reverse.1 hmem)
  refine ⟨hgreatest, ?_⟩
  rintro ⟨i, hi, hfi, hlater⟩
  cases hfound : indices.reverse.findSome? f with
  | none =>
      have hnone := List.findSome?_eq_none_iff.1 hfound i (List.mem_reverse.2 hi)
      rw [hfi] at hnone
      cases hnone
  | some b =>
      rcases hgreatest hfound with ⟨k, hk, hfk, hlaterk⟩
      -- Two positions with nothing found above either are the same.
      rcases Nat.lt_trichotomy i k with hik | rfl | hki
      · rw [hlater k hk hik] at hfk
        cases hfk
      · exact hfk.symm.trans hfi
      · rw [hlaterk i hi hki] at hfi
        cases hfi

/-- The rule that decides is the last one that applies. -/
theorem deciding?_eq_some_iff :
    s.deciding? p isDir = some (i, r) ↔ s.candidate p ≠ [] ∧ s.rules[i]? = some r ∧
      r.applies (s.candidate p) isDir = true ∧
      ∀ j r', i < j → s.rules[j]? = some r' → r'.applies (s.candidate p) isDir = false := by
  have hlater := @concerning?_eq_none_iff s (s.candidate p) isDir (i + 1)
  rw [deciding?]
  by_cases hroot : s.candidate p = []
  · rw [if_pos hroot]
    exact iff_of_false (fun h => by cases h) fun h => h.1 hroot
  · rw [if_neg hroot, findSome?_reverse_eq_some_iff (GlobSet.pairwise_matchIndices _ _),
      and_iff_right hroot]
    constructor
    · rintro ⟨k, hk, hfound, hnone⟩
      rcases concerning?_matchIndices_iff.1 ⟨hk, hfound⟩ with ⟨rfl, hr, happlies⟩
      exact ⟨hr, happlies, hlater.1 hnone⟩
    · rintro ⟨hr, happlies, hnone⟩
      rcases concerning?_matchIndices_iff.2 ⟨rfl, hr, happlies⟩ with ⟨hi, hfound⟩
      exact ⟨i, hi, hfound, hlater.2 hnone⟩

theorem deciding?_eq_none_iff :
    s.deciding? p isDir = none ↔
      s.candidate p = [] ∨ ∀ r ∈ s.rules, r.applies (s.candidate p) isDir = false := by
  rw [deciding?]
  by_cases hroot : s.candidate p = []
  · rw [if_pos hroot]
    exact iff_of_true rfl (Or.inl hroot)
  · have hnone := @concerning?_eq_none_iff s (s.candidate p) isDir 0
    simp only [Nat.zero_le, true_imp_iff] at hnone
    rw [if_neg hroot, List.findSome?_eq_none_iff, or_iff_right hroot]
    simp only [List.mem_reverse]
    rw [hnone]
    constructor
    · intro h r hr
      rcases List.mem_iff_getElem?.1 hr with ⟨i, hi⟩
      exact h i r hi
    · exact fun h i r hr => h r (List.mem_of_getElem? hr)

/-- Without its position, the rule that decides is found by going through the rules alone. -/
theorem deciding?_map_snd (h : s.candidate p ≠ []) :
    (s.deciding? p isDir).map (·.2) = Rule.lastApplying? (s.candidate p) isDir s.rules := by
  cases hfound : s.deciding? p isDir with
  | none =>
      rcases deciding?_eq_none_iff.1 hfound with hroot | hnone
      · exact absurd hroot h
      · exact (Rule.lastApplying?_eq_none_iff.2 hnone).symm
  | some found =>
      rcases deciding?_eq_some_iff.1 hfound with ⟨-, hr, happlies, hlater⟩
      exact (Rule.lastApplying?_eq_some hr happlies hlater).symm

end Deciding

/-! ## The verdict -/

section Verdict

variable {root : Path} {lines A B : List Text} {s a b : RuleSet} {p : Path} {isDir : Bool}

/-- The verdict of a set is that of its rules in order; the directory of the rules is kept. -/
theorem isIgnored_eq_overriding (s : RuleSet) (p : Path) (isDir : Bool) :
    s.isIgnored p isDir =
      if s.candidate p = [] then false
      else Rule.overriding (s.candidate p) isDir s.rules false := by
  by_cases hroot : s.candidate p = []
  · have hnone : s.deciding? p isDir = none := deciding?_eq_none_iff.2 (Or.inl hroot)
    rw [isIgnored, hnone, if_pos hroot]
  · rw [if_neg hroot, Rule.overriding_eq_lastApplying, ← deciding?_map_snd hroot, isIgnored]
    cases s.deciding? p isDir with
    | none => rfl
    | some found => rfl

theorem candidate_eq (h : a.root = s.root) (p : Path) : a.candidate p = s.candidate p := by
  rw [candidate, candidate, h]

/-- The verdict with more rules is that of the rules in front, passed through those behind. -/
theorem isIgnored_of_rules_append {extra : List Rule} (hroot : s.root = a.root)
    (hrules : s.rules = a.rules ++ extra) :
    s.isIgnored p isDir =
      if s.candidate p = [] then false
      else Rule.overriding (s.candidate p) isDir extra (a.isIgnored p isDir) := by
  rw [isIgnored_eq_overriding s, isIgnored_eq_overriding a, candidate_eq hroot.symm, hrules,
    Rule.overriding_append]
  by_cases hempty : s.candidate p = []
  · rw [if_pos hempty, if_pos hempty]
  · rw [if_neg hempty, if_neg hempty, if_neg hempty]

/-- Rules behind others override them where one of them applies, and leave their verdict otherwise. -/
theorem isIgnored_of_parts (ha : s.root = a.root) (hb : s.root = b.root)
    (hrules : s.rules = a.rules ++ b.rules) :
    s.isIgnored p isDir =
      if b.rules.any (Rule.applies (s.candidate p) isDir) then b.isIgnored p isDir
      else a.isIgnored p isDir := by
  rw [isIgnored_of_rules_append ha hrules, isIgnored_eq_overriding b, candidate_eq hb.symm]
  by_cases hempty : s.candidate p = []
  · have hnone : a.isIgnored p isDir = false := by
      rw [isIgnored_eq_overriding a, candidate_eq ha.symm, if_pos hempty]
    rw [if_pos hempty, if_pos hempty, hnone, ite_self]
  -- Behind a rule that applies, the verdict of the rules in front no longer matters.
  · rw [if_neg hempty, if_neg hempty, Rule.any_applies, Rule.overriding_eq_lastApplying,
      Rule.overriding_eq_lastApplying]
    cases Rule.lastApplying? (s.candidate p) isDir b.rules with
    | none => rfl
    | some r => rfl

theorem isIgnored_of_append (hs : ofLines root (A ++ B) = .ok s) (ha : ofLines root A = .ok a)
    (hb : ofLines root B = .ok b) :
    s.isIgnored p isDir =
      if (Rule.ofLines B).any (Rule.applies (s.candidate p) isDir) then b.isIgnored p isDir
      else a.isIgnored p isDir := by
  obtain ⟨hsroot, hsrules⟩ := rules_of_ofLines hs
  obtain ⟨haroot, harules⟩ := rules_of_ofLines ha
  obtain ⟨hbroot, hbrules⟩ := rules_of_ofLines hb
  have hrules : s.rules = a.rules ++ b.rules := by rw [hsrules, harules, hbrules, ofLines_append]
  rw [isIgnored_of_parts (hsroot.trans haroot.symm) (hsroot.trans hbroot.symm) hrules, hbrules]

/-- For every path, the verdict of the rules that some lines state is reached by going through them in
order, each rule that applies overriding the verdict so far; the rule reported as deciding is the last
that applies, and none is reported when there is no such rule or the path is the directory of the
rules.  Wherever the lines are cut in two, both parts state rules of their own, and the second part
has the say where one of its rules applies. -/
theorem isIgnored_forward (h : ofLines root lines = .ok s) (p : Path) (isDir : Bool) :
    s.isIgnored p isDir =
        (if s.candidate p = [] then false
        else Rule.overriding (s.candidate p) isDir (Rule.ofLines lines) false) ∧
      (∀ i r, s.deciding? p isDir = some (i, r) ↔
        s.candidate p ≠ [] ∧ (Rule.ofLines lines)[i]? = some r ∧
          r.applies (s.candidate p) isDir = true ∧
          ∀ j r', i < j → (Rule.ofLines lines)[j]? = some r' →
            r'.applies (s.candidate p) isDir = false) ∧
      (s.deciding? p isDir = none ↔ s.candidate p = [] ∨
        ∀ r ∈ Rule.ofLines lines, r.applies (s.candidate p) isDir = false) ∧
      ∀ A B, lines = A ++ B → ∃ a b, ofLines root A = .ok a ∧ ofLines root B = .ok b ∧
        s.isIgnored p isDir =
          if (Rule.ofLines B).any (Rule.applies (s.candidate p) isDir) then b.isIgnored p isDir
          else a.isIgnored p isDir := by
  rcases rules_of_ofLines h with ⟨-, hrules⟩
  rw [← hrules]
  refine ⟨isIgnored_eq_overriding s p isDir, fun i r => deciding?_eq_some_iff,
    deciding?_eq_none_iff, ?_⟩
  rintro A B rfl
  rcases exists_ofLines_of_append h with ⟨⟨a, ha⟩, b, hb⟩
  exact ⟨a, b, ha, hb, isIgnored_of_append h ha hb⟩

/-- A negated rule keeps a file; the rule for directories behind it ignores a directory of that name. -/
theorem isIgnored_forward_kept :
    ∃ s, ofLines (Path.parse "/r".toList)
        ["*.log".toList, "!keep.log".toList, "keep.log/".toList] = .ok s ∧
      s.isIgnored (Path.parse "/r/a/keep.log".toList) false = false ∧
      s.isIgnored (Path.parse "/r/a/keep.log".toList) true = true := by
  have hrules : Rule.ofLines ["*.log".toList, "!keep.log".toList, "keep.log/".toList] =
      [⟨"**/*.log".toList, false, false, false⟩, ⟨"**/keep.log".toList, false, false, true⟩,
        ⟨"**/keep.log".toList, false, true, false⟩] := by decide
  have hvalid : ∀ r ∈ Rule.ofLines ["*.log".toList, "!keep.log".toList, "keep.log/".toList],
      ∃ g, Glob.parse r.pattern = .ok g := by
    have hstars : Glob.parse "**/*.log".toList =
        .ok (.token .anyDirs :: .token .anyRun :: ".log".toList.map (.token <| .char ·)) := by
      decide +kernel
    have hplain : Glob.parse "**/keep.log".toList =
        .ok (.token .anyDirs :: "keep.log".toList.map (.token <| .char ·)) := by
      decide +kernel
    rw [hrules, List.forall_mem_cons, List.forall_mem_cons, List.forall_mem_singleton]
    exact ⟨⟨_, hstars⟩, ⟨_, hplain⟩, _, hplain⟩
  rcases exists_ofRules_eq_ok_iff.2 hvalid with ⟨s, hs⟩
  have hroot : s.root = Path.parse "/r".toList := (rules_of_ofLines hs).1
  have hcandidate : s.candidate (Path.parse "/r/a/keep.log".toList) = "a/keep.log".toList := by
    rw [candidate, hroot]
    decide
  have hnonempty : "a/keep.log".toList ≠ [] := by decide
  refine ⟨s, hs, ?_, ?_⟩
  · rw [(isIgnored_forward hs _ false).1, hcandidate, if_neg hnonempty]
    decide +kernel
  · rw [(isIgnored_forward hs _ true).1, hcandidate, if_neg hnonempty]
    decide +kernel

end Verdict

end RuleSet

end IgnoreRules
