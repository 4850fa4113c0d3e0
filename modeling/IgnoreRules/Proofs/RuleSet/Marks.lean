import IgnoreRules.Proofs.Rule.Line
import IgnoreRules.Proofs.RuleSet.Verdict

/-!
# The marks of a line

A line is marked as negated by what stands in front of it, and as a rule for directories by what stands
behind it.  Neither mark changes what the other means or what the rest of the line says.  So a line and
its negation apply to the same paths; behind other rules the one ignores these paths and the other keeps
them, and all other paths are left to the rules in front.

* `Rule.ofTrimmed_negated`, `Rule.ofTrimmed_directory` : the rule of a line with one mark more;
* `RuleSet.isIgnored_of_last`, `RuleSet.deciding?_of_single` : a rule behind others, and alone;
* `RuleSet.isIgnored_of_marks` : what the marks of a line do to verdicts.
-/

namespace IgnoreRules

/-! ## Marked lines -/

namespace Rule

variable {line : Text}

/-! ### The mark in front -/

theorem unnegated_negated (h : line.head? ≠ some '!') (htrim : Text.trim line = line) :
    unnegated ('!' :: line) = unnegated line := by
  have hkept : line.dropWhile (· == '!') = line := Text.dropWhile_of_head?_ne h
  calc unnegated ('!' :: line) = Text.trim (line.dropWhile (· == '!')) := rfl
    _ = line := by rw [hkept, htrim]
    _ = unnegated line := (unnegated_of_head? h).symm

theorem ofTrimmed_negated (h : line.head? ≠ some '!') (htrim : Text.trim line = line) :
    ofTrimmed ('!' :: line) = { ofTrimmed line with negation := true } := by
  have hbare := unnegated_negated h htrim
  have hnamed : named ('!' :: line) = named line := by
    unfold named
    rw [hbare]
  rw [ofTrimmed_eq, ofTrimmed_eq, hnamed, hbare]
  rfl

/-! ### The mark behind -/

theorem singleton_isPrefixOf_directory (hne : line ≠ []) :
    ['!'].isPrefixOf (line ++ ['/']) = ['!'].isPrefixOf line := by
  rw [Text.singleton_isPrefixOf, Text.singleton_isPrefixOf, List.head?_append_of_ne_nil _ hne]

/-- What stands behind a line stays there when the mark in front is taken off. -/
theorem unnegated_directory (hne : line ≠ []) (htrim : Text.trim line = line) :
    unnegated (line ++ ['/']) = unnegated line ++ ['/'] := by
  unfold unnegated
  rw [singleton_isPrefixOf_directory hne]
  split
  · -- What is left behind the mark is an end of a trimmed line, so only its beginning is trimmed.
    have hslash : ∀ c ∈ (['/'] : Text).head?, Text.isBlank c = false := by
      rintro _ ⟨⟩
      rfl
    calc Text.trim ((line ++ ['/']).dropWhile (· == '!'))
        = Text.trim (line.dropWhile (· == '!') ++ ['/']) := by
            rw [Text.dropWhile_append_of_head? line (by rintro _ ⟨⟩; rfl)]
      _ = (line.dropWhile (· == '!')).dropWhile Text.isBlank ++ ['/'] :=
            Text.trim_append _ (List.cons_ne_nil '/' []) hslash hslash
      _ = Text.trim (line.dropWhile (· == '!')) ++ ['/'] := by
            rw [Text.trim_of_suffix (List.dropWhile_suffix _) htrim]
  · rfl

theorem ofTrimmed_directory (hne : line ≠ []) (h : line.getLast? ≠ some '/')
    (htrim : Text.trim line = line) :
    ofTrimmed (line ++ ['/']) = { ofTrimmed line with dirOnly := true } := by
  have hline : ∀ c ∈ line.getLast?, c ≠ '/' := by
    rintro c hc rfl
    exact h hc
  have hlast : ∀ c ∈ (unnegated line).getLast?, c ≠ '/' :=
    Text.getLast?_of_suffix (unnegated_suffix htrim) hline
  have hsuffix : ['/'].isSuffixOf (unnegated line ++ ['/']) = true := by
    rw [Text.singleton_isSuffixOf, List.getLast?_concat]
    rfl
  -- One separator is cut off, and nothing is left to trim behind it.
  have hcut : Text.dropEndWhile (· == '/') (unnegated line ++ ['/']) = unnegated line := by
    have hmark : Text.dropEndWhile (· == '/') (unnegated line ++ ['/']) =
        Text.dropEndWhile (· == '/') (unnegated line) := by
      simp [Text.dropEndWhile]
    rw [hmark]
    exact Text.dropEndWhile_of_getLast?_ne fun hslash => hlast '/' hslash rfl
  have hnamed : named (line ++ ['/']) = unnegated line := by
    unfold named
    rw [unnegated_directory hne htrim, if_pos hsuffix, hcut, trim_unnegated htrim]
  rw [ofTrimmed_of_getLast? fun hslash => hlast '/' hslash rfl, ofTrimmed_eq, hnamed,
    unnegated_directory hne htrim, hsuffix, singleton_isPrefixOf_directory hne]

end Rule

namespace Line

variable {line : Text}

theorem parse_trimmed (hne : line ≠ []) (htrim : Text.trim line = line) (h : line.head? ≠ some '#') :
    parse line = .rule (Rule.ofTrimmed line) := by
  rw [parse_eq_rule_iff, htrim]
  exact ⟨hne, h, rfl⟩

/-- A line with the mark of a negated rule states the same rule, negated. -/
theorem parse_negated (hne : line ≠ []) (htrim : Text.trim line = line) (h : line.head? ≠ some '!') :
    parse ('!' :: line) = .rule { Rule.ofTrimmed line with negation := true } := by
  have htrim' : Text.trim ('!' :: line) = '!' :: line := by
    apply Text.trim_of_ends
    · rintro _ ⟨⟩
      rfl
    · rw [List.getLast?_cons_of_ne_nil hne, ← htrim]
      exact (Text.ends_trim line).2
  rw [parse_trimmed (List.cons_ne_nil '!' line) htrim' (by simp), Rule.ofTrimmed_negated h htrim]

/-- A line with the mark of a rule for directories states the same rule, for directories. -/
theorem parse_directory (hne : line ≠ []) (htrim : Text.trim line = line) (h : line.head? ≠ some '#')
    (hlast : line.getLast? ≠ some '/') :
    parse (line ++ ['/']) = .rule { Rule.ofTrimmed line with dirOnly := true } := by
  have htrim' : Text.trim (line ++ ['/']) = line ++ ['/'] := by
    apply Text.trim_of_ends
    · rw [List.head?_append_of_ne_nil _ hne, ← htrim]
      exact (Text.ends_trim line).1
    · rw [List.getLast?_concat]
      rintro _ ⟨⟩
      rfl
  have hcomment : (line ++ ['/']).head? ≠ some '#' := by rwa [List.head?_append_of_ne_nil _ hne]
  rw [parse_trimmed (by simp) htrim' hcomment, Rule.ofTrimmed_directory hne hlast htrim]

end Line

namespace RuleSet

section Last

variable {root p : Path} {L : List Text} {line : Text} {r : Rule} {s a : RuleSet} {isDir : Bool}

/-! ## A rule behind others -/

/-- Behind others a rule decides where it applies. -/
theorem isIgnored_of_last (hroot : s.root = a.root) (hrules : s.rules = a.rules ++ [r]) :
    s.isIgnored p isDir =
      if a.candidate p ≠ [] ∧ r.applies (a.candidate p) isDir = true then !r.negation
      else a.isIgnored p isDir := by
  rw [isIgnored_of_rules_append hroot hrules, candidate_eq hroot]
  by_cases hempty : a.candidate p = []
  · -- The directory of the rules is kept on both sides.
    have hkept : a.isIgnored p isDir = false := by rw [isIgnored_eq_overriding, if_pos hempty]
    simp [hempty, hkept]
  · simp [hempty, Rule.overriding]

/-- Alone a rule is found where it applies. -/
theorem deciding?_of_single (hrules : s.rules = [r]) :
    s.deciding? p isDir =
      if s.candidate p ≠ [] ∧ r.applies (s.candidate p) isDir = true then some (0, r) else none := by
  split
  · next happlies =>
      rw [deciding?_eq_some_iff, hrules]
      refine ⟨happlies.1, rfl, happlies.2, ?_⟩
      intro j r' hj hr'
      have hlast : [r][j]? = none := List.getElem?_eq_none hj
      rw [hlast] at hr'
      cases hr'
  · next hnot =>
      rw [deciding?_eq_none_iff, hrules, List.forall_mem_singleton]
      by_cases hempty : s.candidate p = []
      · exact Or.inl hempty
      · exact Or.inr (Bool.not_eq_true _ ▸ fun happlies => hnot ⟨hempty, happlies⟩)

/-- A line that states a glob can be put behind lines that build a set. -/
theorem exists_ofLines_last (ha : ofLines root L = .ok a) (hline : Line.parse line = .rule r)
    (hglob : ∃ g, Glob.parse r.pattern = .ok g) :
    ∃ s, ofLines root (L ++ [line]) = .ok s ∧ s.root = a.root ∧ s.rules = a.rules ++ [r] := by
  obtain ⟨haroot, harules⟩ := rules_of_ofLines ha
  have hvalid : ∀ r' ∈ Rule.ofLines (L ++ [line]), ∃ g, Glob.parse r'.pattern = .ok g := by
    rw [ofLines_append, ofLines_single hline, List.forall_mem_append, List.forall_mem_singleton]
    exact ⟨exists_ofRules_eq_ok_iff.1 ⟨a, ha⟩, hglob⟩
  obtain ⟨s, hs⟩ := exists_ofRules_eq_ok_iff.2 hvalid
  obtain ⟨hsroot, hsrules⟩ := rules_of_ofRules hs
  refine ⟨s, hs, hsroot.trans haroot.symm, ?_⟩
  rw [hsrules, harules, ofLines_append, ofLines_single hline]

end Last

/-! ## What marks do to verdicts -/

/-- A line without white space around it that is no comment states a rule.  With the mark of a negated
rule in front it states the same rule, negated; with the mark of a rule for directories behind, the same
rule for directories.  Behind any lines, a line and its negation build sets: where the rule of the line
applies, alone as behind others, the one ignores and the other keeps, and elsewhere both have the
verdict of the lines in front. -/
theorem isIgnored_of_marks {l : Text} (hne : l ≠ []) (htrim : Text.trim l = l)
    (hcomment : l.head? ≠ some '#') :
    ∃ r, Line.parse l = .rule r ∧
      (l.head? ≠ some '!' → Line.parse ('!' :: l) = .rule { r with negation := true }) ∧
      (l.getLast? ≠ some '/' → Line.parse (l ++ ['/']) = .rule { r with dirOnly := true }) ∧
      (l.head? ≠ some '!' → ∀ root L a single, ofLines root L = .ok a →
        ofLines root [l] = .ok single →
        ∃ s t, ofLines root (L ++ [l]) = .ok s ∧ ofLines root (L ++ ['!' :: l]) = .ok t ∧
          ∀ p isDir,
            (single.deciding? p isDir = some (0, r) ∧
              s.isIgnored p isDir = true ∧ t.isIgnored p isDir = false) ∨
            (single.deciding? p isDir = none ∧
              s.isIgnored p isDir = a.isIgnored p isDir ∧
              t.isIgnored p isDir = a.isIgnored p isDir)) := by
  have hline := Line.parse_trimmed hne htrim hcomment
  refine ⟨Rule.ofTrimmed l, hline, Line.parse_negated hne htrim, Line.parse_directory hne htrim hcomment, ?_⟩
  intro hplain root L a single ha hsingle
  obtain ⟨hroot, hrules⟩ := rules_of_ofLines hsingle
  rw [ofLines_single hline] at hrules
  have hglob : ∃ g, Glob.parse (Rule.ofTrimmed l).pattern = .ok g := by
    have hvalid := exists_ofRules_eq_ok_iff.1 ⟨single, hsingle⟩
    rwa [ofLines_single hline, List.forall_mem_singleton] at hvalid
  obtain ⟨s, hs, hsroot, hsrules⟩ := exists_ofLines_last ha hline hglob
  obtain ⟨t, ht, htroot, htrules⟩ := exists_ofLines_last ha (Line.parse_negated hne htrim hplain) hglob
  refine ⟨s, t, hs, ht, ?_⟩
  intro p isDir
  have hunnegated : (Rule.ofTrimmed l).negation = false := by
    show ['!'].isPrefixOf l = false
    rw [Text.singleton_isPrefixOf]
    simpa using hplain
  rw [deciding?_of_single hrules, candidate_eq (hroot.trans (rules_of_ofLines ha).1.symm),
    isIgnored_of_last hsroot hsrules, isIgnored_of_last htroot htrules]
  -- The mark has no part in which paths the rule applies to.
  have happlies : ({ Rule.ofTrimmed l with negation := true } : Rule).applies (a.candidate p) isDir =
      (Rule.ofTrimmed l).applies (a.candidate p) isDir := rfl
  rw [happlies, hunnegated]
  by_cases h : a.candidate p ≠ [] ∧ (Rule.ofTrimmed l).applies (a.candidate p) isDir = true
  · left
    simp [h]
  · right
    simp [h]

/-- What is directly inside a directory, ignored and kept behind a rule about names. -/
theorem isIgnored_of_marks_inside :
    Line.parse "!a/*".toList = .rule ⟨"**/a/*".toList, true, false, true⟩ ∧
      Line.parse "a/*/".toList = .rule ⟨"**/a/*".toList, true, true, false⟩ ∧
      ∃ s t, ofLines (Path.parse "/r".toList) (["*.tmp".toList] ++ ["a/*".toList]) = .ok s ∧
        ofLines (Path.parse "/r".toList) (["*.tmp".toList] ++ ["!a/*".toList]) = .ok t ∧
        s.isIgnored (Path.parse "/r/a/x.tmp".toList) false = true ∧
        t.isIgnored (Path.parse "/r/a/x.tmp".toList) false = false ∧
        t.isIgnored (Path.parse "/r/b/x.tmp".toList) false = true := by
  have hnames : Rule.ofLines ["*.tmp".toList] = [⟨"**/*.tmp".toList, false, false, false⟩] := by decide
  have hinside : Line.parse "a/*".toList = .rule ⟨"**/a/*".toList, true, false, false⟩ := by decide
  obtain ⟨a, ha⟩ : ∃ a, ofLines (Path.parse "/r".toList) ["*.tmp".toList] = .ok a := by
    apply exists_ofRules_eq_ok_iff.2
    rw [hnames, List.forall_mem_singleton]
    exact ⟨.token .anyDirs :: .token .anyRun :: ".tmp".toList.map (.token <| .char ·), by decide +kernel⟩
  obtain ⟨single, hsingle⟩ : ∃ single, ofLines (Path.parse "/r".toList) ["a/*".toList] = .ok single := by
    apply exists_ofRules_eq_ok_iff.2
    rw [ofLines_single hinside, List.forall_mem_singleton]
    exact ⟨[.token .anyDirs, .token (.char 'a'), .token (.char '/'), .token .anyRun], by decide +kernel⟩
  obtain ⟨r, hr, hnegated, hdirectory, hbehind⟩ :=
    isIgnored_of_marks (l := "a/*".toList) (by decide) (by decide) (by decide)
  rw [hinside] at hr
  cases hr
  obtain ⟨s, t, hs, ht, hverdicts⟩ := hbehind (by decide) _ _ a single ha hsingle
  have hrules : single.rules = [⟨"**/a/*".toList, true, false, false⟩] :=
    (rules_of_ofLines hsingle).2.trans (ofLines_single hinside)
  have hinA : single.deciding? (Path.parse "/r/a/x.tmp".toList) false ≠ none := by
    rw [deciding?_of_single hrules, candidate, (rules_of_ofLines hsingle).1]
    decide +kernel
  have hinB : single.deciding? (Path.parse "/r/b/x.tmp".toList) false = none := by
    rw [deciding?_of_single hrules, candidate, (rules_of_ofLines hsingle).1]
    decide +kernel
  obtain ⟨-, hignored, hkept⟩ := (hverdicts (Path.parse "/r/a/x.tmp".toList) false).resolve_right
    fun hnone => hinA hnone.1
  obtain ⟨-, -, hleft⟩ := (hverdicts (Path.parse "/r/b/x.tmp".toList) false).resolve_left
    fun hsome => Option.some_ne_none _ (hsome.1.symm.trans hinB)
  refine ⟨hnegated (by decide), hdirectory (by decide), s, t, hs, ht, hignored, hkept, ?_⟩
  rw [hleft, isIgnored_eq_overriding, candidate, (rules_of_ofLines ha).1, (rules_of_ofLines ha).2]
  decide +kernel

end RuleSet

end IgnoreRules
