import IgnoreRules.Proofs.Rule.Literal

/-!
# Sets that ignore one path

Every path can be ignored by itself: whatever characters stand in its components, the line that
escapes them all states a rule for this path and no other.

* `RuleSet.isIgnored_of_single` : the verdict of a set with one plain rule;
* `RuleSet.isIgnored_escaped` : the sets of escaped paths, and of escaped names at every depth.
-/

namespace IgnoreRules

namespace RuleSet

variable {root p : Path} {line pattern name : Text} {anchored isDir : Bool} {s : RuleSet}

/-- A set whose only rule ignores files and directories alike has the verdict of its glob. -/
theorem isIgnored_of_single {r : Rule} (hrules : s.rules = [r]) (hdir : r.dirOnly = false)
    (hnegation : r.negation = false) :
    s.isIgnored p isDir = true ↔ s.candidate p ≠ [] ∧ r.fits (s.candidate p) = true := by
  rw [isIgnored_eq_overriding, hrules, Rule.overriding_single isDir hdir hnegation]
  by_cases hroot : s.candidate p = []
  · simp [hroot]
  · simp [hroot]

/-- A line that states such a rule builds a set with this verdict. -/
theorem exists_ofLines_single {r : Rule} {g : Glob} (root : Path) (hline : Line.parse line = .rule r)
    (hg : Glob.parse r.pattern = .ok g) (hdir : r.dirOnly = false) (hnegation : r.negation = false) :
    ∃ s, ofLines root [line] = .ok s ∧ s.root = root ∧ ∀ p isDir,
      s.isIgnored p isDir = true ↔ s.candidate p ≠ [] ∧ r.fits (s.candidate p) = true := by
  have hrules : Rule.ofLines [line] = [r] := ofLines_single hline
  obtain ⟨s, hs⟩ : ∃ s, ofLines root [line] = .ok s := by
    refine exists_ofRules_eq_ok_iff.2 ?_
    rw [hrules, List.forall_mem_singleton]
    exact ⟨g, hg⟩
  obtain ⟨hroot, hsingle⟩ := rules_of_ofLines hs
  rw [hrules] at hsingle
  exact ⟨s, hs, hroot, fun p isDir => isIgnored_of_single hsingle hdir hnegation⟩

/-- A path without empty components, escaped throughout behind a separator, states the rule of a set
that ignores this path and nothing else; a single component without the separator in front states the
rule of a set that ignores what has this name.  Only white space at the end cannot be escaped. -/
theorem isIgnored_escaped (hparts : ∀ part ∈ name.splitOn '/', part ≠ [])
    (hlast : ∀ c ∈ name.getLast?, Text.isBlank c = false) (root : Path) :
    (∃ s, ofLines root ['/' :: Rule.escaped name] = .ok s ∧ s.root = root ∧
      ∀ p isDir, s.isIgnored p isDir = true ↔ s.candidate p = name) ∧
    ('/' ∉ name → ∃ s, ofLines root [Rule.escaped name] = .ok s ∧ s.root = root ∧
      ∀ p isDir, s.isIgnored p isDir = true ↔
        ((s.candidate p).splitOn '/').getLast? = some name) := by
  have hname : name ≠ [] := by
    rintro rfl
    exact hparts [] (by decide) rfl
  constructor
  · have hcut : ∀ u v, name = u ++ '/' :: v → u ≠ [] ∧ v ≠ [] := by
      rintro u v rfl
      rw [List.splitOn_append_cons_self, List.forall_mem_append] at hparts
      exact ⟨fun h => hparts.1 [] (by rw [h]; decide) rfl, fun h => hparts.2 [] (by rw [h]; decide) rfl⟩
    have hhead : name.head? ≠ some '/' := by
      intro h
      obtain ⟨v, hv⟩ := List.head?_eq_some_iff.1 h
      exact (hcut [] v hv).1 rfl
    have hends : ∀ c ∈ name.getLast?, Text.isBlank c = false ∧ c ≠ '/' := by
      intro c hc
      refine ⟨hlast c hc, ?_⟩
      rintro rfl
      obtain ⟨u, hu⟩ := List.getLast?_eq_some_iff.1 hc
      exact (hcut u [] hu).2 rfl
    obtain ⟨s, hs, hroot, hverdict⟩ := exists_ofLines_single root
      (Rule.parse_rootedEscaped hname hhead hends) (Rule.parse_literal name) rfl rfl
    refine ⟨s, hs, hroot, fun p isDir => (hverdict p isDir).trans ?_⟩
    rw [Rule.fits_literal rfl]
    exact and_iff_right_of_imp fun h => h ▸ hname
  · intro hslash
    obtain ⟨s, hs, hroot, hverdict⟩ := exists_ofLines_single root
      (Rule.parse_escaped hname hslash hlast) (Rule.parse_deepLiteral name) rfl rfl
    refine ⟨s, hs, hroot, fun p isDir => (hverdict p isDir).trans ?_⟩
    rw [Rule.fits_deepLiteral rfl hslash]
    refine and_iff_right_of_imp fun h hnil => ?_
    rw [hnil] at h
    exact hname (Option.some.inj h).symm

/-- A name made of what is special in lines and globs, one that begins with it, and the name below a
directory. -/
theorem isIgnored_escaped_special :
    ∃ name root s t, name = " #!*[\x7b,\\\n**".toList ∧ root = Path.parse "/r".toList ∧
      ofLines root ['/' :: Rule.escaped name] = .ok s ∧ ofLines root [Rule.escaped name] = .ok t ∧
      s.isIgnored ⟨.root, ["r".toList, name]⟩ false = true ∧
      s.isIgnored ⟨.root, ["r".toList, name ++ ['x']]⟩ false = false ∧
      s.isIgnored ⟨.root, ["r".toList, "a".toList, name]⟩ false = false ∧
      t.isIgnored ⟨.root, ["r".toList, "a".toList, name]⟩ false = true := by
  have hname : ∀ part ∈ " #!*[\x7b,\\\n**".toList.splitOn '/', part ≠ [] := by decide
  obtain ⟨⟨s, hs, hroot, hexact⟩, hdeep⟩ :=
    isIgnored_escaped hname (by rintro _ ⟨⟩; rfl) (Path.parse "/r".toList)
  obtain ⟨t, ht, hroot', hlast⟩ := hdeep (by decide)
  refine ⟨_, _, s, t, rfl, rfl, hs, ht, ?_, ?_, ?_, ?_⟩
  · rw [hexact, candidate, hroot]
    decide
  · rw [Bool.eq_false_iff, ne_eq, hexact, candidate, hroot]
    decide
  · rw [Bool.eq_false_iff, ne_eq, hexact, candidate, hroot]
    decide
  · rw [hlast, candidate, hroot']
    decide

end RuleSet

end IgnoreRules
