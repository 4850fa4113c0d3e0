import IgnoreRules.IgnoreFile.Basic

/-!
# Inspecting lines

Inspecting a text goes through its lines until they are at an end or one of them states a rule too
many.  Either way the result is what is found in the lines that were read: their patterns, their
problems and doubts in the order of the lines, and how many lines there are of each kind.

* `Line.fault?`, `IgnoreFile.problemsFrom` : the lines at fault, numbered;
* `IgnoreFile.excess?_cases` : where reading stops;
* `IgnoreFile.inspected`, `IgnoreFile.ofText_cases` : what a text is found to be.
-/

namespace IgnoreRules

/-- Whether a line states a rule. -/
def Line.isPattern (line : Text) : Bool :=
  (Line.parse line).rule?.isSome

/-- The number of lines that state a rule. -/
def RuleSet.ruleCount (lines : List Text) : Nat :=
  lines.countP fun line => (Line.parse line).rule?.isSome

/-- What is wrong with the rule that a line states, if it states one at fault. -/
def Line.fault? (line : Text) : Option Glob.Fault :=
  match Line.parse line with
  | .rule r =>
      match Glob.parse r.pattern with
      | .ok _ => none
      | .error fault => some fault
  | _ => none

theorem Line.fault?_eq_some_iff {line : Text} {fault : Glob.Fault} :
    Line.fault? line = some fault ↔
      ∃ r, Line.parse line = .rule r ∧ Glob.parse r.pattern = .error fault := by
  unfold Line.fault?
  split
  · next r hr =>
      rw [hr]
      split
      · next g hg => simp [hg]
      · next fault' hfault => simp [hfault]
  · next hother =>
      constructor
      · intro hnone
        cases hnone
      · rintro ⟨r, hr, -⟩
        exact absurd hr (hother r)

namespace IgnoreFile

/-! ## Numbered problems -/

/-- The problem of a line at a position, if its rule is at fault. -/
def problemAt? (entry : Text × Nat) : Option Problem :=
  (Line.fault? entry.1).map fun fault => ⟨entry.2 + 1, Text.trim entry.1, .badPattern fault⟩

/-- The problems of some lines, the first of which has the number `start + 1`. -/
def problemsFrom (start : Nat) (lines : List Text) : List Problem :=
  (lines.zipIdx start).filterMap problemAt?

section Problems

variable {start : Nat} {line : Text} {lines : List Text} {p : Problem} {fault : Glob.Fault}

theorem problemsFrom_cons_of_none (h : Line.fault? line = none) :
    problemsFrom start (line :: lines) = problemsFrom (start + 1) lines := by
  have hnone : problemAt? (line, start) = none := by
    unfold problemAt?
    rw [h, Option.map_none]
  exact List.filterMap_cons_none hnone

theorem problemsFrom_cons_of_some (h : Line.fault? line = some fault) :
    problemsFrom start (line :: lines) =
      ⟨start + 1, Text.trim line, .badPattern fault⟩ :: problemsFrom (start + 1) lines := by
  have hsome : problemAt? (line, start) = some ⟨start + 1, Text.trim line, .badPattern fault⟩ := by
    unfold problemAt?
    rw [h, Option.map_some]
  exact List.filterMap_cons_some hsome

theorem mem_problemsFrom_iff :
    p ∈ problemsFrom start lines ↔ ∃ i line fault, lines[i]? = some line ∧
      Line.fault? line = some fault ∧ p = ⟨start + i + 1, Text.trim line, .badPattern fault⟩ := by
  induction lines generalizing start with
  | nil =>
      constructor
      · intro hmem
        cases hmem
      · rintro ⟨i, line, fault, hline, -⟩
        cases hline
  | cons first lines ih =>
      -- A position behind the first line is one less among the lines behind it.
      have hrest : (∃ i line fault, (first :: lines)[i + 1]? = some line ∧
          Line.fault? line = some fault ∧
            p = ⟨start + (i + 1) + 1, Text.trim line, .badPattern fault⟩) ↔
          p ∈ problemsFrom (start + 1) lines := by
        simp only [ih, List.getElem?_cons_succ, Nat.add_assoc, Nat.add_comm 1]
      cases hfault : Line.fault? first with
      | none =>
          rw [problemsFrom_cons_of_none hfault, ← hrest]
          constructor
          · rintro ⟨i, hi⟩
            exact ⟨i + 1, hi⟩
          · rintro ⟨i, line, fault, hline, hbad, hp⟩
            cases i with
            | zero =>
                cases hline
                rw [hfault] at hbad
                cases hbad
            | succ i => exact ⟨i, line, fault, hline, hbad, hp⟩
      | some fault =>
          rw [problemsFrom_cons_of_some hfault, List.mem_cons, ← hrest]
          constructor
          · rintro (rfl | ⟨i, hi⟩)
            · exact ⟨0, first, fault, rfl, hfault, rfl⟩
            · exact ⟨i + 1, hi⟩
          · rintro ⟨i, line, fault', hline, hbad, hp⟩
            cases i with
            | zero =>
                cases hline
                rw [hfault] at hbad
                cases hbad
                exact Or.inl hp
            | succ i => exact Or.inr ⟨i, line, fault', hline, hbad, hp⟩

/-- Problems come in the order of their lines. -/
theorem pairwise_problemsFrom (start : Nat) (lines : List Text) :
    (problemsFrom start lines).Pairwise fun p q => p.line < q.line := by
  induction lines generalizing start with
  | nil => exact .nil
  | cons line lines ih =>
      cases hfault : Line.fault? line with
      | none =>
          rw [problemsFrom_cons_of_none hfault]
          exact ih (start + 1)
      | some fault =>
          rw [problemsFrom_cons_of_some hfault]
          refine .cons ?_ (ih (start + 1))
          intro q hq
          rcases mem_problemsFrom_iff.1 hq with ⟨i, line', fault', -, -, rfl⟩
          show start + 1 < start + 1 + i + 1
          omega

theorem problemsFrom_eq_nil_iff :
    problemsFrom start lines = [] ↔ ∀ line ∈ lines, Line.fault? line = none := by
  induction lines generalizing start with
  | nil => simp [problemsFrom]
  | cons line lines ih =>
      have hrest : problemsFrom (start + 1) lines = [] ↔ ∀ l ∈ lines, Line.fault? l = none := ih
      rw [List.forall_mem_cons, ← hrest]
      cases hfault : Line.fault? line with
      | none => simp [problemsFrom_cons_of_none hfault]
      | some fault => simp [problemsFrom_cons_of_some hfault]

/-- In front of the first problem stand lines without fault, as many as its number says. -/
theorem exists_split_of_problemsFrom {rest : List Problem} (h : problemsFrom start lines = p :: rest) :
    ∃ before line after fault, lines = before ++ line :: after ∧
      (∀ l ∈ before, Line.fault? l = none) ∧ Line.fault? line = some fault ∧
        p = ⟨start + before.length + 1, Text.trim line, .badPattern fault⟩ := by
  induction lines generalizing start with
  | nil => cases h
  | cons line lines ih =>
      cases hfault : Line.fault? line with
      | none =>
          rw [problemsFrom_cons_of_none hfault] at h
          rcases ih h with ⟨before, line', after, fault, rfl, hbefore, hline', rfl⟩
          refine ⟨line :: before, line', after, fault, rfl, ?_, hline', ?_⟩
          · exact List.forall_mem_cons.2 ⟨hfault, hbefore⟩
          · rw [List.length_cons, Nat.add_right_comm start, Nat.add_assoc start]
      | some fault =>
          rw [problemsFrom_cons_of_some hfault] at h
          cases h
          exact ⟨[], line, lines, fault, rfl, fun l hl => absurd hl List.not_mem_nil, hfault, rfl⟩

end Problems

/-! ## Lines with their numbers -/

/-- Some lines with their numbers, the first of which is `start + 1`. -/
def numbered (start : Nat) (lines : List Text) : List Entry :=
  (lines.zipIdx start).map fun (line, i) => ⟨i + 1, line, Line.parse line⟩

section Numbered

variable {start : Nat} {line : Text} {lines : List Text}

theorem entriesOf_eq (content : Text) : entriesOf content = numbered 0 (Text.splitLines content) :=
  rfl

theorem numbered_cons : numbered start (line :: lines) =
    ⟨start + 1, line, Line.parse line⟩ :: numbered (start + 1) lines :=
  rfl

theorem map_text_numbered (start : Nat) (lines : List Text) :
    (numbered start lines).map (·.text) = lines := by
  unfold numbered
  rw [List.map_map]
  exact List.zipIdx_map_fst start lines

theorem take_numbered (front back : List Text) :
    (numbered start (front ++ back)).take front.length = numbered start front := by
  have hlength : front.length = (numbered start front).length := by simp [numbered]
  have happend : numbered start (front ++ back) =
      numbered start front ++ numbered (start + front.length) back := by
    simp [numbered, List.zipIdx_append]
  rw [happend, hlength]
  exact List.take_left

theorem problem?_entry (line : Text) (i : Nat) :
    Entry.problem? ⟨i + 1, line, Line.parse line⟩ = problemAt? (line, i) := by
  unfold Entry.problem? problemAt? Line.fault?
  cases Line.parse line with
  | blank => rfl
  | comment => rfl
  | rule r =>
      dsimp only
      cases Glob.parse r.pattern with
      | ok g => rfl
      | error fault => rfl

theorem filterMap_problem?_numbered (start : Nat) (lines : List Text) :
    (numbered start lines).filterMap Entry.problem? = problemsFrom start lines := by
  induction lines generalizing start with
  | nil => rfl
  | cons line lines ih =>
      rw [numbered_cons, List.filterMap_cons, problem?_entry, ih]
      exact List.filterMap_cons.symm

theorem filterMap_pattern?_numbered (start : Nat) (lines : List Text) :
    (numbered start lines).filterMap Entry.pattern? = (lines.filter Line.isPattern).map Text.trim := by
  induction lines generalizing start with
  | nil => rfl
  | cons line lines ih =>
      rw [numbered_cons, List.filterMap_cons, ih, List.filter_cons]
      unfold Entry.pattern? Line.isPattern
      cases Line.parse line with
      | blank => rfl
      | comment => rfl
      | rule r => rfl

end Numbered

/-! ## Where reading stops -/

section Stopping

variable {e : Entry} {entries : List Entry} {line : Text} {lines : List Text}
  {start position allowance : Nat}

theorem excess?_of_other (h : e.line.rule?.isSome = false) :
    excess? allowance position (e :: entries) = excess? allowance (position + 1) entries := by
  cases hline : e.line with
  | blank => simp [excess?, hline]
  | comment => simp [excess?, hline]
  | rule r => simp [hline, Line.rule?] at h

theorem excess?_of_rule_zero (h : e.line.rule?.isSome = true) :
    excess? 0 position (e :: entries) = some position := by
  cases hline : e.line with
  | blank => simp [hline, Line.rule?] at h
  | comment => simp [hline, Line.rule?] at h
  | rule r => simp [excess?, hline]

theorem excess?_of_rule_succ (h : e.line.rule?.isSome = true) :
    excess? (allowance + 1) position (e :: entries) = excess? allowance (position + 1) entries := by
  cases hline : e.line with
  | blank => simp [hline, Line.rule?] at h
  | comment => simp [hline, Line.rule?] at h
  | rule r => simp [excess?, hline]

theorem ruleCount_cons_of_other (h : Line.isPattern line = false) :
    RuleSet.ruleCount (line :: lines) = RuleSet.ruleCount lines :=
  List.countP_cons_of_neg (Bool.eq_false_iff.1 h)

theorem ruleCount_cons_of_pattern (h : Line.isPattern line = true) :
    RuleSet.ruleCount (line :: lines) = RuleSet.ruleCount lines + 1 :=
  List.countP_cons_of_pos h

theorem ruleCount_append (front back : List Text) :
    RuleSet.ruleCount (front ++ back) = RuleSet.ruleCount front + RuleSet.ruleCount back :=
  List.countP_append

/-- Reading goes on to the end, or it stops in front of a line that states a rule when as many rules as
allowed have been read. -/
theorem excess?_cases (start position allowance : Nat) (lines : List Text) :
    (RuleSet.ruleCount lines ≤ allowance ∧ excess? allowance position (numbered start lines) = none) ∨
    ∃ front line back, lines = front ++ line :: back ∧ Line.isPattern line = true ∧
      RuleSet.ruleCount front = allowance ∧
      excess? allowance position (numbered start lines) = some (position + front.length) := by
  -- A rule uses up one of the allowance; the numbers and the position only move along.
  induction lines generalizing start position allowance with
  | nil => exact Or.inl ⟨Nat.zero_le allowance, rfl⟩
  | cons first lines ih =>
      rw [numbered_cons]
      cases hfirst : Line.isPattern first with
      | false =>
          rw [excess?_of_other (e := ⟨start + 1, first, Line.parse first⟩) hfirst,
            ruleCount_cons_of_other hfirst]
          rcases ih (start + 1) (position + 1) allowance with
            hfew | ⟨front, line, back, rfl, hline, hcount, hstop⟩
          · exact Or.inl hfew
          · refine Or.inr ⟨first :: front, line, back, rfl, hline, ?_, ?_⟩
            · rw [ruleCount_cons_of_other hfirst, hcount]
            · rw [hstop, List.length_cons, Nat.add_right_comm, Nat.add_assoc]
      | true =>
          rw [ruleCount_cons_of_pattern hfirst]
          cases allowance with
          | zero => exact Or.inr ⟨[], first, lines, rfl, hfirst, rfl, excess?_of_rule_zero hfirst⟩
          | succ allowance =>
              rw [excess?_of_rule_succ (e := ⟨start + 1, first, Line.parse first⟩) hfirst]
              rcases ih (start + 1) (position + 1) allowance with
                ⟨hfew, hnone⟩ | ⟨front, line, back, rfl, hline, hcount, hstop⟩
              · exact Or.inl ⟨Nat.succ_le_succ hfew, hnone⟩
              · refine Or.inr ⟨first :: front, line, back, rfl, hline, ?_, ?_⟩
                · rw [ruleCount_cons_of_pattern hfirst, hcount]
                · rw [hstop, List.length_cons, Nat.add_right_comm, Nat.add_assoc]

end Stopping

/-! ## What a text is found to be -/

/-- What inspecting some lines finds, out of `total`, when `stop` is what keeps it from going on. -/
def inspected (path : Path) (total : Nat) (read : List Text) (stop : List Problem) : IgnoreFile :=
  { path := path
    lines := read
    patterns := (read.filter Line.isPattern).map Text.trim
    problems := problemsFrom 0 read ++ stop
    doubts := (numbered 0 read).flatMap Entry.doubts
    tally := tallyOf total (numbered 0 read) }

section Inspected

variable {path : Path} {total : Nat} {read : List Text} {stop : List Problem} {p : Problem}

/-- A text is inspected to its end if it has no rule too many, and else up to the first of these. -/
theorem ofText_cases (path : Path) (content : Text) :
    (RuleSet.ruleCount (Text.splitLines content) ≤ maxPatterns ∧
      ofText path content =
        inspected path (Text.splitLines content).length (Text.splitLines content) []) ∨
    ∃ front line back, Text.splitLines content = front ++ line :: back ∧
      Line.isPattern line = true ∧ RuleSet.ruleCount front = maxPatterns ∧
      ofText path content = inspected path (Text.splitLines content).length front
        [⟨front.length + 1, [], .tooManyPatterns⟩] := by
  have hlength : (entriesOf content).length = (Text.splitLines content).length := by simp [entriesOf]
  rcases excess?_cases 0 0 maxPatterns (Text.splitLines content) with
    ⟨hfew, hnone⟩ | ⟨front, line, back, hlines, hline, hcount, hstop⟩
  · refine Or.inl ⟨hfew, ?_⟩
    rw [← entriesOf_eq] at hnone
    unfold ofText inspected
    simp only [hnone, hlength, List.append_nil]
    rw [entriesOf_eq, map_text_numbered, filterMap_pattern?_numbered, filterMap_problem?_numbered]
  · refine Or.inr ⟨front, line, back, hlines, hline, hcount, ?_⟩
    have hread : (entriesOf content).take front.length = numbered 0 front := by
      rw [entriesOf_eq, hlines, take_numbered]
    rw [← entriesOf_eq, Nat.zero_add] at hstop
    unfold ofText inspected
    simp only [hstop, hlength, hread]
    rw [map_text_numbered, filterMap_pattern?_numbered, filterMap_problem?_numbered]

/-- A pattern that is no glob does not keep a file from being read in full. -/
theorem isFatal_of_mem_problemsFrom {start : Nat} {lines : List Text} (h : p ∈ problemsFrom start lines) :
    p.cause.isFatal = false := by
  obtain ⟨i, line, fault, -, -, rfl⟩ := mem_problemsFrom_iff.1 h
  rfl

/-- Only what stops the inspection is fatal. -/
theorem fatalProblems_inspected :
    (inspected path total read stop).fatalProblems = stop.filter (·.cause.isFatal) := by
  have hnone : (problemsFrom 0 read).filter (·.cause.isFatal) = [] := by
    rw [List.filter_eq_nil_iff]
    intro p hp
    simp [isFatal_of_mem_problemsFrom hp]
  unfold fatalProblems inspected
  rw [List.filter_append, hnone, List.nil_append]

end Inspected

end IgnoreFile

end IgnoreRules
