import IgnoreRules.Proofs.Cli.Setup
import IgnoreRules.Proofs.IgnoreFile.Inspection
import IgnoreRules.Proofs.RuleSet.Text
import IgnoreRules.Proofs.Text.Utf8

/-!
# Validating and building

A file is judged line by line when it is loaded and rule by rule when a set is built from it.  Both find
fault with the same lines: the loader reports each of them under the number of its line, and building
stops at the first under the number of its rule.

* `IgnoreFile.read_of_isComplete` : what a file that was read in full consists of;
* `RuleSet.ofLines_of_problemsFrom` : what building such a file reports;
* `Cli.run_validate_iff` : when a file is found valid on the command line.
-/

namespace IgnoreRules

namespace IgnoreFile

/-! ## Files that were read in full -/

section Complete

variable {files : FileSystem} {path : Path} {content : Text} {f : IgnoreFile} {w : World}

theorem not_isComplete_of_mem {p : Problem} (hp : p ∈ f.problems) (hfatal : p.cause.isFatal = true) :
    f.isComplete = false := by
  unfold isComplete fatalProblems
  have hmem : p ∈ f.problems.filter (·.cause.isFatal) := List.mem_filter.2 ⟨hp, hfatal⟩
  rw [List.isEmpty_eq_false_iff]
  exact List.ne_nil_of_mem hmem

theorem not_isComplete_failed {cause : Cause} (h : cause.isFatal = true) :
    (failed path cause).isComplete = false :=
  not_isComplete_of_mem (List.mem_singleton_self _) h

/-- Inspecting a text to its end gives all its lines and their problems. -/
theorem ofText_of_isComplete (h : (ofText path content).isComplete = true) :
    (ofText path content).lines = Text.splitLines content ∧
      (ofText path content).problems = problemsFrom 0 (Text.splitLines content) := by
  rcases ofText_cases path content with ⟨-, hfull⟩ | ⟨front, line, back, -, -, -, hstopped⟩
  · rw [hfull]
    exact ⟨rfl, List.append_nil _⟩
  · -- A pattern too many is a fatal problem.
    rw [isComplete, hstopped, fatalProblems_inspected] at h
    cases h

theorem load_fst (path : Path) (w : World) : (load path w).1 = read w.files path := by
  unfold load
  split
  · next e he => rw [he]
  · next f hf => rw [hf]

/-- A file that was read in full is UTF-8, its lines are those of its text, and its problems are those
of its lines. -/
theorem read_of_isComplete (h : read files path = .ok f) (hc : f.isComplete = true) :
    (∃ bytes content, files.read path = .ok bytes ∧ Text.decode? bytes = some content ∧
      f.lines = Text.splitLines (Text.unifyReturns content)) ∧
      f.problems = problemsFrom 0 f.lines := by
  have hincomplete : ∀ cause : Cause, cause.isFatal = true → f ≠ failed path cause := by
    rintro cause hfatal rfl
    rw [not_isComplete_failed hfatal] at hc
    cases hc
  unfold read at h
  split at h
  · next node hnode =>
      cases h
      cases node with
      | folder inside => exact absurd rfl (hincomplete _ rfl)
      | file bytes =>
          unfold ofNode at hincomplete hc ⊢
          dsimp only at hincomplete hc ⊢
          split
          · next hlarge =>
              rw [if_pos hlarge] at hincomplete
              exact absurd rfl (hincomplete _ rfl)
          · next hsmall =>
              rw [if_neg hsmall] at hincomplete hc
              cases hdecoded : Text.decode? bytes with
              | none =>
                  rw [hdecoded] at hincomplete
                  exact absurd rfl (hincomplete _ rfl)
              | some content =>
                  rw [hdecoded] at hc
                  have hread : files.read path = .ok bytes := by
                    unfold FileSystem.read
                    rw [hnode]
                  have hfull := ofText_of_isComplete hc
                  refine ⟨⟨bytes, content, hread, hdecoded, hfull.1⟩, ?_⟩
                  rw [hfull.1]
                  exact hfull.2
  · next e _ =>
      split at h
      · cases h
        exact absurd rfl (hincomplete _ rfl)
      · cases h

end Complete

end IgnoreFile

/-! ## Building from lines -/

namespace RuleSet

open IgnoreFile

section Building

variable {root : Path} {lines : List Text} {p : Problem} {rest : List Problem} {e : CompileError}

theorem ofRules_eq_error_iff {rules : List Rule} :
    ofRules root rules = .error e ↔ GlobSet.FirstInvalid (Rule.globs rules) e.index e.glob e.fault := by
  rw [← GlobSet.compile_eq_error_iff]
  unfold ofRules
  split
  · next e' he' => rw [he', Except.error.injEq, Except.error.injEq]
  · next globs hglobs => simp [hglobs]

theorem length_ofLines (lines : List Text) : (Rule.ofLines lines).length = ruleCount lines := by
  unfold Rule.ofLines ruleCount
  rw [List.length_filterMap_eq_countP]

theorem valid_of_fault?_eq_none (h : ∀ line ∈ lines, Line.fault? line = none) :
    ∀ r ∈ Rule.ofLines lines, ∃ g, Glob.parse r.pattern = .ok g := by
  intro r hr
  rcases List.mem_filterMap.1 hr with ⟨line, hline, hrule⟩
  have hparse : Line.parse line = .rule r := by
    cases hkind : Line.parse line with
    | blank => rw [hkind] at hrule; cases hrule
    | comment => rw [hkind] at hrule; cases hrule
    | rule r' => rw [hkind] at hrule; exact congrArg Line.rule (Option.some.inj hrule)
  cases hglob : Glob.parse r.pattern with
  | ok g => exact ⟨g, rfl⟩
  | error fault =>
      have hfault := Line.fault?_eq_some_iff.2 ⟨r, hparse, hglob⟩
      rw [h line hline] at hfault
      cases hfault

theorem exists_ofLines_of_problemsFrom (h : problemsFrom 0 lines = []) :
    ∃ s, ofLines root lines = .ok s :=
  exists_ofRules_eq_ok_iff.2 (valid_of_fault?_eq_none (problemsFrom_eq_nil_iff.1 h))

/-- Building lines with problems reports the first of them: under the number of rules in front of it,
and with the same cause. -/
theorem ofLines_of_problemsFrom (h : problemsFrom 0 lines = p :: rest) :
    ∃ e, ofLines root lines = .error e ∧ e.index = ruleCount (lines.take (p.line - 1)) ∧
      p.cause = .badPattern e.fault := by
  rcases exists_split_of_problemsFrom h with ⟨before, line, after, fault, rfl, hbefore, hline, rfl⟩
  rcases Line.fault?_eq_some_iff.1 hline with ⟨r, hparse, hglob⟩
  have hrules : Rule.ofLines (before ++ line :: after) =
      Rule.ofLines before ++ r :: Rule.ofLines after := by
    rw [ofLines_append, Rule.ofLines_cons, hparse]
    rfl
  have hfirst : GlobSet.FirstInvalid (Rule.globs (Rule.ofLines (before ++ line :: after)))
      (Rule.ofLines before).length r.pattern fault := by
    rw [hrules]
    refine ⟨⟨r.scope, ?_⟩, hglob, ?_⟩
    · unfold Rule.globs
      simp
    · intro j hj entry hentry
      unfold Rule.globs at hentry
      rw [List.getElem?_map, List.getElem?_append_left hj, Option.map_eq_some_iff] at hentry
      rcases hentry with ⟨r', hr', rfl⟩
      exact valid_of_fault?_eq_none hbefore r' (List.mem_of_getElem? hr')
  refine ⟨⟨(Rule.ofLines before).length, r.pattern, fault⟩, ofRules_eq_error_iff.2 hfirst, ?_, rfl⟩
  have htake : (before ++ line :: after).take (0 + before.length + 1 - 1) = before := by
    rw [Nat.zero_add, Nat.add_sub_cancel, List.take_left]
  rw [htake]
  exact length_ofLines before

theorem exists_ofLines_iff_problemsFrom :
    (∃ s, ofLines root lines = .ok s) ↔ problemsFrom 0 lines = [] := by
  constructor
  · rintro ⟨s, hs⟩
    cases hproblems : problemsFrom 0 lines with
    | nil => rfl
    | cons p rest =>
        obtain ⟨e, he, -⟩ : ∃ e, ofLines root lines = .error e ∧ _ := ofLines_of_problemsFrom hproblems
        rw [hs] at he
        cases he
  · exact exists_ofLines_of_problemsFrom

end Building

end RuleSet

/-! ## Validating on the command line -/

namespace Cli

section Validate

variable {store : Option TemplateStore} {w : World} {line : List Text} {i : Invocation} {file : Text}

theorem status_validationReport (f : IgnoreFile) :
    (validationReport f).status = 0 ↔ f.isValid = true := by
  unfold validationReport
  split
  · next h => exact iff_of_true rfl h
  · next h => exact iff_of_false Nat.one_ne_zero h

/-- With the log set up, the status of a validation, if there is one, only depends on what is read from
the file. -/
theorem run_validate_iff (hi : Invocation.parse line = .ok i)
    (hcommand : i.command = some (.validate file)) {setup : Log.Setup}
    (hsetup : (Log.configure { level := i.logLevel } w).1 = .ok setup) :
    (∃ outcome, (run store w line).1 = .ok outcome ∧ outcome.status = 0) ↔
      ∃ f, IgnoreFile.read w.files (Path.parse file) = .ok f ∧ f.isValid = true := by
  obtain ⟨v, hfiles, hrun⟩ := run_of_setup hi hcommand store hsetup
  cases hread : IgnoreFile.read w.files (Path.parse file) with
  | error e =>
      have hcarried : runCommand store v (.validate file) = (.error (.file e), v) := by
        unfold runCommand IgnoreFile.load
        dsimp only
        rw [hfiles, hread]
      rw [hrun, hcarried]
      constructor
      · rintro ⟨outcome, houtcome, -⟩
        cases houtcome
      · rintro ⟨f, hf, -⟩
        cases hf
  | ok f =>
      have hcarried : runCommand store v (.validate file) = (.ok (validationReport f), f.report v) := by
        unfold runCommand IgnoreFile.load
        dsimp only
        rw [hfiles, hread]
      rw [hrun, hcarried]
      constructor
      · rintro ⟨outcome, houtcome, hzero⟩
        cases houtcome
        exact ⟨f, rfl, (status_validationReport f).1 hzero⟩
      · rintro ⟨f', hf', hvalid⟩
        cases hf'
        exact ⟨_, rfl, (status_validationReport f).2 hvalid⟩

end Validate

end Cli

namespace IgnoreFile

theorem isValid_iff {f : IgnoreFile} : f.isValid = true ↔ f.problems = [] :=
  List.isEmpty_iff

theorem isComplete_of_isValid {f : IgnoreFile} (h : f.isValid = true) : f.isComplete = true := by
  unfold isComplete fatalProblems
  rw [isValid_iff.1 h]
  rfl

section Agreement

variable {root : Path} {w : World} {path : Path} {f : IgnoreFile} {p : Problem} {e : CompileError}

/-- A complete file states the same rules by its text as by its lines. -/
theorem ofText_text (h : read w.files path = .ok f) (hc : f.isComplete = true) :
    RuleSet.ofText root f.text = RuleSet.ofLines root f.lines := by
  rcases (read_of_isComplete h hc).1 with ⟨bytes, content, -, -, hlines⟩
  have hunbroken : ∀ line ∈ f.lines, ∀ c ∈ line, Text.isLineEnd c = false := by
    intro line hline
    rw [hlines] at hline
    exact Text.not_isLineEnd_of_mem_splitLines hline
  have hrules : Rule.ofText f.text = Rule.ofLines f.lines := Rule.ofText_joinLines hunbroken
  rw [RuleSet.ofText_eq_ofRules, hrules]
  rfl

/-- A problem of a complete file is that of a line whose pattern is no glob. -/
theorem mem_problems_iff (h : read w.files path = .ok f) (hc : f.isComplete = true) :
    p ∈ f.problems ↔ ∃ i line r fault, f.lines[i]? = some line ∧ Line.parse line = .rule r ∧
      Glob.parse r.pattern = .error fault ∧ p = ⟨i + 1, Text.trim line, .badPattern fault⟩ := by
  rw [(read_of_isComplete h hc).2, mem_problemsFrom_iff]
  constructor
  · rintro ⟨i, line, fault, hline, hfault, rfl⟩
    rcases Line.fault?_eq_some_iff.1 hfault with ⟨r, hparse, hglob⟩
    exact ⟨i, line, r, fault, hline, hparse, hglob, by rw [Nat.zero_add]⟩
  · rintro ⟨i, line, r, fault, hline, hparse, hglob, rfl⟩
    have hfault := Line.fault?_eq_some_iff.2 ⟨r, hparse, hglob⟩
    exact ⟨i, line, fault, hline, hfault, by rw [Nat.zero_add]⟩

theorem exists_ofLines_iff (h : read w.files path = .ok f) (hc : f.isComplete = true) :
    (∃ s, RuleSet.ofLines root f.lines = .ok s) ↔ f.problems = [] := by
  rw [RuleSet.exists_ofLines_iff_problemsFrom, ← (read_of_isComplete h hc).2]

/-- What building a complete file reports is its first problem. -/
theorem exists_problem_of_ofLines (h : read w.files path = .ok f) (hc : f.isComplete = true)
    (he : RuleSet.ofLines root f.lines = .error e) :
    ∃ first rest, f.problems = first :: rest ∧
      e.index = RuleSet.ruleCount (f.lines.take (first.line - 1)) ∧
        e.fault.message = first.cause.message := by
  have hproblems := (read_of_isComplete h hc).2
  cases hfirst : f.problems with
  | nil =>
      obtain ⟨s, hs⟩ : ∃ s, RuleSet.ofLines root f.lines = .ok s := (exists_ofLines_iff h hc).2 hfirst
      rw [he] at hs
      cases hs
  | cons first rest =>
      rw [hfirst] at hproblems
      obtain ⟨e', he', hindex, hcause⟩ : ∃ e', RuleSet.ofLines root f.lines = .error e' ∧ _ :=
        RuleSet.ofLines_of_problemsFrom hproblems.symm
      rw [he] at he'
      cases he'
      refine ⟨first, rest, rfl, hindex, ?_⟩
      rw [hcause]
      rfl

/-- Loading a file and building its rules agree.  The problems of a file that was read in full are its
pattern lines that are no globs, in order and under their numbers; its lines, one by one or as its text,
build a set exactly when it has no problem, and otherwise the first problem is reported, under the
number of patterns in front of it and with its wording.  Hence a command line that validates a file, with
a threshold for the log that is a level, ends with status 0 exactly when the file is read in full and
builds a set. -/
theorem load_agrees_with_building (root : Path) (w : World) :
    (∀ path f, (load path w).1 = .ok f → f.isComplete = true →
      (∃ bytes content, w.files.read path = .ok bytes ∧ Text.decode? bytes = some content ∧
        f.lines = Text.splitLines (Text.unifyReturns content)) ∧
      (∀ p, p ∈ f.problems ↔ ∃ i line r fault, f.lines[i]? = some line ∧
        Line.parse line = .rule r ∧ Glob.parse r.pattern = .error fault ∧
          p = ⟨i + 1, Text.trim line, .badPattern fault⟩) ∧
      f.problems.Pairwise (fun p q => p.line < q.line) ∧
      RuleSet.ofText root f.text = RuleSet.ofLines root f.lines ∧
      ((∃ e, RuleSet.ofLines root f.lines = .error e) ↔ f.problems ≠ []) ∧
      ∀ e, RuleSet.ofLines root f.lines = .error e → ∃ first rest, f.problems = first :: rest ∧
        e.index = RuleSet.ruleCount (f.lines.take (first.line - 1)) ∧
          e.fault.message = first.cause.message) ∧
    ∀ store line i file setup, Invocation.parse line = .ok i → i.command = some (.validate file) →
      (Log.configure { level := i.logLevel } w).1 = .ok setup →
      ((∃ outcome, (Cli.run store w line).1 = .ok outcome ∧ outcome.status = 0) ↔
        ∃ f, (load (Path.parse file) w).1 = .ok f ∧ f.isComplete = true ∧
          ∃ s, RuleSet.ofLines root f.lines = .ok s) := by
  constructor
  · intro path f h hc
    rw [load_fst] at h
    refine ⟨(read_of_isComplete h hc).1, fun p => mem_problems_iff h hc, ?_, ofText_text h hc, ?_, ?_⟩
    · rw [(read_of_isComplete h hc).2]
      exact pairwise_problemsFrom 0 f.lines
    · have hbuilds : (∃ s, RuleSet.ofLines root f.lines = .ok s) ↔ f.problems = [] :=
        exists_ofLines_iff h hc
      rw [← not_iff_not, not_not, ← hbuilds]
      cases RuleSet.ofLines root f.lines with
      | error e => simp
      | ok s => simp
    · intro e he
      exact exists_problem_of_ofLines h hc he
  · intro store line i file setup hi hcommand hsetup
    rw [Cli.run_validate_iff hi hcommand hsetup, load_fst]
    constructor
    · rintro ⟨f, h, hvalid⟩
      have hc := isComplete_of_isValid hvalid
      exact ⟨f, h, hc, (exists_ofLines_iff h hc).2 (isValid_iff.1 hvalid)⟩
    · rintro ⟨f, h, hc, hbuilds⟩
      exact ⟨f, h, isValid_iff.2 ((exists_ofLines_iff h hc).1 hbuilds)⟩

/-- Among a comment, a glob, a blank line and two patterns that are no globs, the first of these two is
reported by both, as the second rule and under the number of its line; validating does not end well. -/
theorem load_agrees_with_building_mixed :
    ∃ (w : World) (f : IgnoreFile), (load (Path.parse "f".toList) w).1 = .ok f ∧
      f.isComplete = true ∧
      f.problems = [⟨4, "a\x7b".toList, .badPattern .unclosedAlternates⟩,
        ⟨5, "!\x7d".toList, .badPattern .unopenedAlternates⟩] ∧
      (∃ e, RuleSet.ofLines .here f.lines = .error e ∧ e.index = 1) ∧
      ¬∃ outcome, (Cli.run none w ["validate".toList, "f".toList]).1 = .ok outcome ∧
        outcome.status = 0 := by
  obtain ⟨w, hfiles, hlevel⟩ : ∃ w : World,
      w.files = ⟨.file "f".toList (Text.encode "#\n*.o\n\na\x7b\r\n!\x7d".toList) .empty, []⟩ ∧
        ∃ setup, (Log.configure {} w).1 = .ok setup :=
    ⟨.ofFiles _, rfl, _, rfl⟩
  have hload : (load (Path.parse "f".toList) w).1 =
      .ok (ofText (Path.parse "f".toList) "#\n*.o\n\na\x7b\n!\x7d".toList) := by
    have hsmall : ¬maxBytes < (Text.encode "#\n*.o\n\na\x7b\r\n!\x7d".toList).size := by decide +kernel
    have hnode : w.files.node (Path.parse "f".toList) =
        .ok (.file (Text.encode "#\n*.o\n\na\x7b\r\n!\x7d".toList)) := by
      rw [hfiles]
      rfl
    rw [load_fst]
    unfold read ofNode
    rw [hnode]
    dsimp only
    rw [if_neg hsmall, Text.decode?_encode]
    rfl
  have hcomplete : (ofText (Path.parse "f".toList) "#\n*.o\n\na\x7b\n!\x7d".toList).isComplete = true := by
    decide +kernel
  have hproblems : (ofText (Path.parse "f".toList) "#\n*.o\n\na\x7b\n!\x7d".toList).problems =
      [⟨4, "a\x7b".toList, .badPattern .unclosedAlternates⟩,
        ⟨5, "!\x7d".toList, .badPattern .unopenedAlternates⟩] := by
    decide +kernel
  have hagree := load_agrees_with_building .here w
  rcases hagree.1 _ _ hload hcomplete with ⟨-, -, -, -, hiff, hfirst⟩
  have hbad := hiff.2 (by rw [hproblems]; exact List.cons_ne_nil _ _)
  refine ⟨w, _, hload, hcomplete, hproblems, ?_, ?_⟩
  · rcases hbad with ⟨e, he⟩
    refine ⟨e, he, ?_⟩
    rcases hfirst e he with ⟨first, rest, hsplit, hindex, -⟩
    rw [hproblems] at hsplit
    cases hsplit
    rw [hindex]
    decide +kernel
  · have hline : Invocation.parse ["validate".toList, "f".toList] =
        .ok { command := some (.validate "f".toList) } := rfl
    obtain ⟨setup, hsetup⟩ := hlevel
    rw [hagree.2 none _ _ _ setup hline rfl hsetup]
    rintro ⟨f, hf, -, s, hs⟩
    rw [hload] at hf
    cases hf
    rcases hbad with ⟨e, he⟩
    rw [hs] at he
    cases he

end Agreement

end IgnoreFile

end IgnoreRules
