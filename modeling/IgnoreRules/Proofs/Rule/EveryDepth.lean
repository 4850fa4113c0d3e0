import IgnoreRules.Proofs.Glob.Joined
import IgnoreRules.Proofs.Rule.NormalForm
import IgnoreRules.Proofs.RuleSet.Verdict

/-!
# Rules for every depth

A line that does not begin with a separator states a rule for every depth.  Its pattern begins with a
recursive component, and such a glob matches what the rest of it matches, in whole paths and in what is
left of a path behind any of its separators.

* `Rule.parse_everyDepth` : a recursive component in front of a glob;
* `Glob.isMatch_anyDirs` : what the glob then matches;
* `Rule.exists_pattern_eq` : the patterns of lines that name no separator in front;
* `Rule.applies_at_every_depth` : both, and that such rules apply below every directory.
-/

namespace IgnoreRules

namespace Glob

variable {scope : WildcardScope} {path : Text} {L : Language Char}

theorem mem_throughSeparator_mul :
    path ∈ throughSeparator * L ↔ ∃ above below, path = above ++ '/' :: below ∧ below ∈ L := by
  constructor
  · intro h
    rcases Language.mem_mul.1 h with ⟨a, ⟨above, rfl⟩, below, hbelow, rfl⟩
    exact ⟨above, below, by simp, hbelow⟩
  · rintro ⟨above, below, rfl, hbelow⟩
    exact Language.mem_mul.2 ⟨above ++ ['/'], ⟨above, rfl⟩, below, hbelow, by simp⟩

/-- Nothing or anything through a separator, and then a glob. -/
theorem isMatch_anyDirs (g : Glob) (scope : WildcardScope) (path : Text) :
    isMatch scope (.token .anyDirs :: g) path = true ↔ g.isMatch scope path = true ∨
      ∃ above below, path = above ++ '/' :: below ∧ g.isMatch scope below = true := by
  have hlanguage : language scope (.token .anyDirs :: g) = (1 + throughSeparator) * language scope g := by
    simp [language, Piece.language, Token.language]
  simp only [isMatch_iff_mem_language, hlanguage, add_mul, one_mul, Language.mem_add,
    mem_throughSeparator_mul]

end Glob

namespace Rule

variable {r : Rule} {t raw text : Text} {isDir : Bool}

/-- The recursive component in front leaves the reading of a glob as it is. -/
theorem parse_everyDepth (t : Text) :
    Glob.parse (everyDepth ++ t) = (Glob.parse t).map (.token .anyDirs :: ·) := by
  have hfront : Glob.parse everyDepth = .ok [.token .anyDirs] := by decide +kernel
  have hlast : everyDepth.getLast? = some '/' := rfl
  -- It ends in a separator, so that stars behind it begin a component as they would at the start.
  rw [Glob.parse_append hfront (by simp [hlast]) (Or.inl (Or.inr hlast))]
  rfl

/-- A line that names no separator in front states a rule whose pattern begins with a recursive
component. -/
theorem exists_pattern_eq (h : Line.parse raw = .rule r)
    (hnamed : (named (Text.trim raw)).head? ≠ some '/') :
    ∃ rest, r.pattern = everyDepth ++ rest := by
  obtain ⟨rest, hrest⟩ := prefix_pattern h hnamed
  exact ⟨rest, hrest.symm⟩

/-- A pattern with a recursive component in front fits below every directory where it fits. -/
theorem fits_below {rest : Text} (hpattern : r.pattern = everyDepth ++ rest) (above : Text)
    (h : r.fits text = true) : r.fits (above ++ '/' :: text) = true := by
  unfold fits at h ⊢
  rw [hpattern, parse_everyDepth] at h ⊢
  cases hrest : Glob.parse rest with
  | error fault => simp [hrest, Except.map] at h
  | ok g =>
      simp only [hrest, Except.map, Glob.isMatch_anyDirs] at h ⊢
      rcases h with hwhole | ⟨inner, below, rfl, hbelow⟩
      · exact Or.inr ⟨above, text, rfl, hwhole⟩
      · exact Or.inr ⟨above ++ '/' :: inner, below, by simp, hbelow⟩

/-- A recursive component in front of a glob makes a glob that matches the same in a whole path and in
what follows any of its separators.  A line that names no separator in front states a rule with such
a pattern, so where the rule applies it applies below every directory as well. -/
theorem applies_at_every_depth :
    (∀ t g, Glob.parse t = .ok g → ∃ deep, Glob.parse (everyDepth ++ t) = .ok deep ∧
      ∀ scope path, deep.isMatch scope path = true ↔ g.isMatch scope path = true ∨
        ∃ above below, path = above ++ '/' :: below ∧ g.isMatch scope below = true) ∧
    ∀ raw r, Line.parse raw = .rule r → (named (Text.trim raw)).head? ≠ some '/' →
      ∀ isDir text above, r.applies text isDir = true →
        r.applies (above ++ '/' :: text) isDir = true := by
  constructor
  · intro t g hg
    have hdeep : Glob.parse (everyDepth ++ t) = .ok (.token .anyDirs :: g) := by
      rw [parse_everyDepth, hg, Except.map]
    exact ⟨_, hdeep, Glob.isMatch_anyDirs g⟩
  · intro raw r hline hnamed isDir text above happlies
    obtain ⟨rest, hpattern⟩ := exists_pattern_eq hline hnamed
    rw [RuleSet.applies_iff] at happlies ⊢
    exact ⟨fits_below hpattern above happlies.1, happlies.2⟩

/-- A recursive component in front of another one, and a negated line for everything inside the
directories of a name. -/
theorem applies_at_every_depth_sample :
    (∃ deep, Glob.parse (everyDepth ++ "**/b*".toList) = .ok deep ∧
      deep.isMatch .component "x/y/bc".toList = true) ∧
    ∃ r, Line.parse " !a/**/ ".toList = .rule r ∧ r.applies "a/b".toList true = true ∧
      r.applies "x/y/a/b".toList true = true ∧ r.applies "x/y/a/b".toList false = false := by
  have hglob : Glob.parse "**/b*".toList =
      .ok [.token .anyDirs, .token (.char 'b'), .token .anyRun] := by
    decide +kernel
  have hline : Line.parse " !a/**/ ".toList = .rule ⟨"**/a/**/*".toList, true, true, true⟩ := by decide
  have hfront : (named (Text.trim " !a/**/ ".toList)).head? ≠ some '/' := by decide
  obtain ⟨hdeep, hbelow⟩ := applies_at_every_depth
  obtain ⟨deep, hparse, hmatch⟩ := hdeep _ _ hglob
  have hhere : Rule.applies "a/b".toList true ⟨"**/a/**/*".toList, true, true, true⟩ = true := by
    decide +kernel
  have htext : "x/y/a/b".toList = "x/y".toList ++ '/' :: "a/b".toList := by decide
  refine ⟨⟨deep, hparse, (hmatch _ _).2 (Or.inr ⟨"x".toList, "y/bc".toList, rfl, by decide⟩)⟩, ?_⟩
  refine ⟨_, hline, hhere, ?_, by decide +kernel⟩
  rw [htext]
  exact hbelow _ _ hline hfront true _ _ hhere

end Rule

end IgnoreRules
