import IgnoreRules.Cli.Run
import IgnoreRules.Proofs.Project.Spelling
import IgnoreRules.Proofs.Project.Taking
import IgnoreRules.Proofs.Statistics.Totals

/-!
# Rules in force

A command goes on with the rules of its project: it asks them about paths, each path once, or counts the
lines of the files that they leave.

* `Cli.map_fst_checkAll`, `Cli.isIgnored_of_checkAll` : which paths are asked about, and the answers;
* `Session.fst_countLines` : what is counted;
* `Session.Governed` : what it means for rules to be in force.
-/

namespace IgnoreRules

namespace Cli

/-! ## Questions -/

section Questions

variable {s : Session} {rules : RuleSet} {found findings : List (Text × Finding)}
variable {paths : List Text}

theorem checkAll_cons (s : Session) (found : List (Text × Finding)) (path : Text) (paths : List Text) :
    checkAll s found (path :: paths) =
      match s.check path with
      | (.error e, s) => (.error e, s)
      | (.ok finding, s) =>
          checkAll s
            (if found.any (·.1 = path) then
              found.map fun f => if f.1 = path then (path, finding) else f
            else found ++ [(path, finding)])
            paths := by
  rfl

/-- A path that was asked about keeps its place, another one comes last. -/
theorem map_fst_answered (found : List (Text × Finding)) (path : Text) (finding : Finding) :
    (if found.any (·.1 = path) then found.map fun f => if f.1 = path then (path, finding) else f
      else found ++ [(path, finding)]).map (·.1) =
        if path ∈ found.map (·.1) then found.map (·.1) else found.map (·.1) ++ [path] := by
  have hany : found.any (·.1 = path) = true ↔ path ∈ found.map (·.1) := by
    simp only [List.any_eq_true, decide_eq_true_eq, List.mem_map]
  by_cases hthere : path ∈ found.map (·.1)
  · -- Only the finding changes, in its place.
    rw [if_pos hthere, if_pos (hany.2 hthere), List.map_map]
    apply List.map_congr_left
    intro f _
    by_cases hf : f.1 = path
    · simp [hf]
    · simp [hf]
  · rw [if_neg hthere, if_neg (mt hany.1 hthere), List.map_append, List.map_singleton]

theorem eraseDups_append_singleton (seen : List Text) (path : Text) :
    (seen ++ [path]).eraseDups =
      if path ∈ seen.eraseDups then seen.eraseDups else seen.eraseDups ++ [path] := by
  rw [List.eraseDups_append]
  by_cases hseen : path ∈ seen
  · simp [List.removeAll, hseen]
  · simp [List.removeAll, hseen, List.eraseDups_cons]

/-- Every path has one finding, in the order in which the paths are first asked about.  The induction is
on the paths that are still to be asked about, behind those that were. -/
theorem map_fst_checkAll (seen : List Text) (hfound : found.map (·.1) = seen.eraseDups)
    (h : (checkAll s found paths).1 = .ok findings) :
    findings.map (·.1) = (seen ++ paths).eraseDups := by
  induction paths generalizing s found seen with
  | nil =>
      cases h
      rw [List.append_nil]
      exact hfound
  | cons path paths ih =>
      rw [checkAll_cons] at h
      cases hcheck : s.check path with
      | mk outcome after =>
          rw [hcheck] at h
          cases outcome with
          | error e => cases h
          | ok finding =>
              rw [List.append_cons]
              apply ih _ _ h
              rw [map_fst_answered, hfound, eraseDups_append_singleton]

/-- What is known after one more question is what was known before, and the answer. -/
theorem mem_of_answered {path : Text} {finding : Finding} {e : Text × Finding}
    (h : e ∈ if found.any (·.1 = path) then found.map fun f => if f.1 = path then (path, finding) else f
      else found ++ [(path, finding)]) : e ∈ found ∨ e = (path, finding) := by
  split at h
  · obtain ⟨old, hold, rfl⟩ := List.mem_map.1 h
    split
    · exact Or.inr rfl
    · exact Or.inl hold
  · exact (List.mem_append.1 h).imp_right List.mem_singleton.1

/-- Questions about paths are answered by the rules, one after the other. -/
theorem isIgnored_of_checkAll (hrules : s.project.rules = some rules)
    (hfound : ∀ e ∈ found,
      e.2.isIgnored = rules.isIgnored (s.project.dir.append (Path.parse e.1)) e.2.isDir)
    (h : (checkAll s found paths).1 = .ok findings) :
    ∀ e ∈ findings,
      e.2.isIgnored = rules.isIgnored (s.project.dir.append (Path.parse e.1)) e.2.isDir := by
  induction paths generalizing s found with
  | nil =>
      cases h
      exact hfound
  | cons path paths ih =>
      have hsame : Project.SameRules s.project (s.check path).2.project :=
        (Session.perform_question s (o := .check path) rfl).1
      have hfinding := @Session.finding_of_check s path
      rw [checkAll_cons] at h
      cases hcheck : s.check path with
      | mk outcome after =>
          rw [hcheck] at h hsame hfinding
          cases outcome with
          | error e => cases h
          | ok finding =>
              dsimp only at h hsame
              obtain ⟨-, -, -, -, -, -, hverdict⟩ := hfinding rfl
              rw [Session.verdict_of_some hrules] at hverdict
              -- The question has changed neither the rules nor the directory.
              rw [← hsame.dir] at hfound hverdict ⊢
              apply ih (hsame.rules.trans hrules) _ h
              intro e he
              cases mem_of_answered he with
              | inl hold => exact hfound e hold
              | inr hnew =>
                  rw [hnew]
                  exact hverdict

end Questions

end Cli

/-- A set of rules without rules is the one that ignores nothing. -/
theorem RuleSet.eq_empty {s : RuleSet} (h : s.size = 0) : s = RuleSet.empty s.root := by
  obtain ⟨root, rules, globs, hcompiled⟩ := s
  have hnil : rules = [] := List.length_eq_zero_iff.1 h
  subst hnil
  cases hcompiled
  rfl

namespace Session

variable {s : Session} {rules : RuleSet}

/-- Lines are counted by the rules. -/
theorem fst_countLines (hrules : s.project.rules = some rules) (hroot : rules.root = s.project.dir) :
    s.countLines.1 = (s.world.statistics rules s.project.dir).1 := by
  unfold countLines rulesForCounting
  rw [hrules]
  dsimp only
  by_cases hsize : rules.size = 0
  · -- Rules of no size are replaced by a set without rules, which is what they are.
    rw [if_pos hsize]
    have hempty : RuleSet.empty s.project.dir = rules := by
      rw [← hroot]
      exact (RuleSet.eq_empty hsize).symm
    rw [hempty]
    exact World.fst_statistics_congr (by rfl) _ _
  · rw [if_neg hsize]

/-- Some rules are in force, and they are those of some texts. -/
structure Governed (s : Session) (texts : List Text) (rules : RuleSet) : Prop where
  rules_eq : s.project.rules = some rules
  of_texts : Project.RulesOf s.project.dir texts rules
  /-- Wherever the texts are cut in two, the later ones have the say where one of their rules applies. -/
  later : (∀ t ∈ texts, ∃ r, RuleSet.ofText s.project.dir t = .ok r) → ∀ A B, texts = A ++ B →
    ∃ a b, Project.RulesOf s.project.dir A a ∧ Project.RulesOf s.project.dir B b ∧
      ∀ p isDir, rules.isIgnored p isDir =
        if b.rules.any (Rule.applies (rules.candidate p) isDir) then b.isIgnored p isDir
        else a.isIgnored p isDir
  /-- Whatever paths are checked, each has one finding, in the order of the paths, and the rules decide
  about it. -/
  checks : ∀ paths findings, (Cli.checkAll s [] paths).1 = .ok findings →
    findings.map (·.1) = paths.eraseDups ∧ ∀ e ∈ findings,
      e.2.isIgnored = rules.isIgnored (s.project.dir.append (Path.parse e.1)) e.2.isDir
  /-- Lines are counted in the files that the rules leave. -/
  counts : s.countLines.1 = (s.world.statistics rules s.project.dir).1

theorem Has.governed {dir : Path} {files : FileSystem} {texts : List Text} (h : s.Has dir files texts) :
    ∃ rules, s.Governed texts rules := by
  obtain ⟨rules, hrules, hof⟩ := h.rules
  rw [← h.dir_eq] at hof
  refine ⟨rules, hrules, hof, ?_, ?_, fst_countLines hrules hof.root⟩
  · rintro hvalid A B rfl
    exact hof.later hvalid
  · intro paths findings hchecked
    exact ⟨Cli.map_fst_checkAll [] rfl hchecked,
      Cli.isIgnored_of_checkAll hrules (List.forall_mem_nil _) hchecked⟩

end Session

end IgnoreRules
