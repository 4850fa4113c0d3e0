import IgnoreRules.Proofs.Glob.Components
import IgnoreRules.Proofs.Rule.Line
import IgnoreRules.Proofs.RuleSet.Verdict

/-!
# Anchored rules

The wildcards of an anchored rule stay within one component, so the rule is about the components of a
path and not about its text: the pattern is matched component by component.

* `Rule.fits_of_anchored` : an anchored rule is matched by components;
* `Rule.splitOn_inside` : the components of a pattern for everything inside a directory;
* `Rule.fits_by_components` : how anchored rules match, and what those for everything inside a
  directory match.
-/

namespace IgnoreRules

namespace Rule

open Glob (matchesParts isRecursive)

variable {raw path above : Text} {r : Rule} {g : Glob}

theorem scope_of_anchored (h : r.anchored = true) : r.scope = .component :=
  if_pos h

theorem fits_of_anchored (hanchored : r.anchored = true) (hg : Glob.parse r.pattern = .ok g) :
    r.fits path = g.isMatch .component path := by
  rw [fits, hg, scope_of_anchored hanchored]

theorem splitOn_inside (above : Text) :
    (above ++ everythingInside ++ ['/', '*']).splitOn '/' =
      above.splitOn '/' ++ [['*', '*'], ['*']] := by
  have hsplit : ['*', '*', '/', '*'].splitOn '/' = [['*', '*'], ['*']] := by decide
  rw [List.append_assoc]
  exact (List.splitOn_append_cons_self above ['*', '*', '/', '*']).trans (congrArg _ hsplit)

/-- A pattern whose last component is not recursive does not end in everything inside. -/
theorem not_inside_of_getLast? (h : ∀ part ∈ (above.splitOn '/').getLast?, isRecursive part = false) :
    above ≠ ['*', '*'] ∧ ¬ everythingInside <:+ above := by
  constructor
  · rintro rfl
    exact absurd (h ['*', '*'] (by decide)) (by decide)
  · rintro ⟨front, rfl⟩
    refine absurd (h ['*', '*'] ?_) (by decide)
    have hsplit : (front ++ everythingInside).splitOn '/' = front.splitOn '/' ++ [['*', '*']] :=
      List.splitOn_append_cons_self front ['*', '*']
    rw [hsplit, List.getLast?_concat]
    rfl

/-- A pattern for everything inside a directory matches strictly below what the directory matches. -/
theorem matchesParts_splitOn_inside
    (hlast : ∀ part ∈ (above.splitOn '/').getLast?, isRecursive part = false) :
    matchesParts ((above ++ everythingInside ++ ['/', '*']).splitOn '/') (path.splitOn '/') = true ↔
      ∃ A B, path.splitOn '/' = A ++ B ∧ B ≠ [] ∧ matchesParts (above.splitOn '/') A = true := by
  rw [splitOn_inside]
  exact Glob.matchesParts_inside hlast fun _ => Text.notMem_of_mem_splitOn

/-- An anchored rule matches a path exactly when the components of its pattern match those of the path,
and none of its wildcards stands for a separator.  A line for everything inside a directory states a
rule for everything strictly below it; without recursive components in it, that does not match what
the directory itself does. -/
theorem fits_by_components (hline : Line.parse raw = .rule r) (hanchored : r.anchored = true)
    (hg : Glob.parse r.pattern = .ok g) (hapart : g.isApart = true) :
    (∀ path, r.fits path = matchesParts (r.pattern.splitOn '/') (path.splitOn '/')) ∧
      (∀ part ∈ r.pattern.splitOn '/', ∃ g, Glob.parse part = .ok g) ∧
      (∀ token, .token token ∈ g → token.isWildcard = true →
        ∀ w ∈ token.language r.scope, '/' ∉ w) ∧
      ∀ front, raw = front ++ everythingInside →
        r.pattern = ['*', '*'] ∨ ∃ above, r.pattern = above ++ everythingInside ++ ['/', '*'] ∧
          ((∀ part ∈ (above.splitOn '/').getLast?, isRecursive part = false) →
            (∀ top, Line.parse front = .rule top →
              (∀ c ∈ front.getLast?, Text.isBlank c = false ∧ c ≠ '/') → top.pattern = above) ∧
            ∀ path, r.fits path = true ↔ ∃ A B, path.splitOn '/' = A ++ B ∧ B ≠ [] ∧
              matchesParts (above.splitOn '/') A = true) ∧
          ((∀ part ∈ above.splitOn '/', isRecursive part = false) →
            ∀ path, matchesParts (above.splitOn '/') (path.splitOn '/') = true →
              r.fits path = false) := by
  obtain ⟨hmatch, hparts⟩ := Glob.isMatch_eq_matchesParts hg (wellEscaped_pattern hline) hapart
  have hfits : ∀ path, r.fits path = matchesParts (r.pattern.splitOn '/') (path.splitOn '/') :=
    fun path => (fits_of_anchored hanchored hg).trans (hmatch path)
  refine ⟨hfits, hparts, ?_, ?_⟩
  · rw [scope_of_anchored hanchored]
    exact fun token htoken hwildcard w => Glob.notMem_language_of_isWildcard hapart htoken hwildcard
  · rintro front rfl
    obtain hall | ⟨above, habove, htop⟩ := pattern_of_inside hline
    · exact Or.inl hall
    have hbelow : (∀ part ∈ (above.splitOn '/').getLast?, isRecursive part = false) →
        ∀ path, r.fits path = true ↔ ∃ A B, path.splitOn '/' = A ++ B ∧ B ≠ [] ∧
          matchesParts (above.splitOn '/') A = true := fun hlast path => by
      rw [hfits, habove]
      exact matchesParts_splitOn_inside hlast
    refine Or.inr ⟨above, habove, fun hlast => ⟨?_, hbelow hlast⟩, fun hplain path hpath => ?_⟩
    · obtain ⟨hne, hends⟩ := not_inside_of_getLast? hlast
      exact htop hne hends
    · rw [Bool.eq_false_iff]
      intro hmatch
      have hlast := fun part hpart => hplain part (List.mem_of_getLast? hpart)
      obtain ⟨A, B, hcut, hB, hA⟩ := (hbelow hlast path).1 hmatch
      -- As many components match the directory on the whole as in front.
      have hwhole := Glob.length_eq_of_matchesParts hplain hpath
      have hfront := Glob.length_eq_of_matchesParts hplain hA
      rw [hcut, List.length_append, hfront] at hwhole
      exact hB (List.eq_nil_of_length_eq_zero (by omega))

/-- A line for everything inside the directories of a name, at the path of one file. -/
theorem fits_by_components_inside :
    ∃ r, Line.parse "/b*/[!x]d/**".toList = .rule r ∧ r.anchored = true ∧
      r.fits "bin/od/a/b".toList = true ∧ r.fits "bin/od".toList = false := by
  have hline : Line.parse "/b*/[!x]d/**".toList =
      .rule ⟨"b*/[!x]d/**/*".toList, true, false, false⟩ := by decide
  have hg : Glob.parse "b*/[!x]d/**/*".toList =
      .ok [.token (.char 'b'), .token .anyRun, .token (.char '/'),
        .token (.oneOf ⟨true, [('x', 'x')]⟩), .token (.char 'd'), .token (.char '/'),
        .token .anyDirs, .token .anyRun] := by
    decide +kernel
  obtain ⟨hfits, -, -, -⟩ := fits_by_components hline rfl hg (by decide)
  refine ⟨_, hline, rfl, ?_, ?_⟩
  · rw [hfits]
    decide +kernel
  · rw [hfits]
    decide +kernel

end Rule

end IgnoreRules
