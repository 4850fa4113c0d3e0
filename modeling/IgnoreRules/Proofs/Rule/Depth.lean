import IgnoreRules.Proofs.Rule.Anchored
import IgnoreRules.Proofs.Rule.Literal
import IgnoreRules.Proofs.RuleSet.Text

/-!
# Rules that count components

A line with a star for each of some components states a rule for all paths with that many components.
Such a rule tells apart any two paths of different depth.

* `Rule.levels` : the pattern;
* `Rule.ofText_levels` : the text that states the rule;
* `Rule.fits_atDepth` : what the rule matches;
* `RuleSet.exists_ofText_levels` : the set with this rule alone.
-/

namespace IgnoreRules

namespace Rule

open Glob (Reads Item matchesParts)

variable {n : Nat} {text : Text} {names : List Text}

/-- A star for each component of a path that is `n` components below another. -/
def levels : Nat → Text
  | 0 => ['*']
  | n + 1 => '*' :: '/' :: levels n

/-- The rule for the paths with one component more than `n`. -/
def atDepth (n : Nat) : Rule :=
  ⟨levels n, true, false, false⟩

theorem mem_levels {c : Char} (h : c ∈ levels n) : c = '*' ∨ c = '/' := by
  induction n with
  | zero => exact Or.inl (List.mem_singleton.1 h)
  | succ n ih =>
      obtain rfl | h := List.mem_cons.1 h
      · exact Or.inl rfl
      obtain rfl | h := List.mem_cons.1 h
      · exact Or.inr rfl
      · exact ih h

theorem splitOn_levels (n : Nat) : (levels n).splitOn '/' = List.replicate (n + 1) ['*'] := by
  induction n with
  | zero => decide
  | succ n ih =>
      rw [List.replicate_succ, ← ih]
      have hstar : '/' ∉ ['*'] := by decide
      exact List.splitOn_append_cons_self_of_not_mem hstar (levels n)

theorem getLast?_levels (n : Nat) : (levels n).getLast? = some '*' := by
  induction n with
  | zero => rfl
  | succ n ih =>
      rw [levels, List.getLast?_cons, List.getLast?_cons, ih]
      rfl

theorem head?_levels (n : Nat) : (levels n).head? = some '*' := by
  cases n with
  | zero => rfl
  | succ n => rfl

theorem opens_star {before : Option Char} (h : text.head? ≠ some '*') :
    Glob.Opens before ('*' :: text) .stars (some '*') text :=
  .stars (n := 1) (Nat.le_refl 1) h fun h => absurd h.1 (by decide)

theorem exists_reads_levels (n : Nat) (before : Option Char) :
    ∃ items, Reads before (levels n) items ∧ Glob.isApart (items.map Item.piece) = true := by
  induction n generalizing before with
  | zero => exact ⟨_, .one (opens_star (by decide)) (.nil _), by decide⟩
  | succ n ih =>
      obtain ⟨items, hitems, hapart⟩ := ih (some '/')
      have hstar : ('/' :: levels n).head? ≠ some '*' := by
        rw [List.head?_cons]
        decide
      exact ⟨_, .one (opens_star hstar) (.one (.ordinary (by decide)) hitems), hapart⟩

theorem parse_levels (n : Nat) : Line.parse ('/' :: levels n) = .rule (atDepth n) := by
  have hhead : (levels n).head? ≠ some '/' := by simp [head?_levels]
  have hne : levels n ≠ [] := by
    intro hnil
    simpa [hnil] using head?_levels n
  have hescaped : WellEscaped (levels n) := by
    refine wellEscaped_of_notMem fun h => ?_
    obtain h | h := mem_levels h
    · cases h
    · cases h
  have hends : ¬ everythingInside <:+ levels n := by
    refine (not_inside_of_getLast? ?_).2
    rw [splitOn_levels, List.replicate_succ', List.getLast?_concat]
    rintro _ ⟨⟩
    decide
  exact parse_rooted hne hescaped hhead (by rw [getLast?_levels]; rintro _ ⟨⟩; decide) hends

theorem ofText_levels (n : Nat) : ofText ('/' :: levels n) = [atDepth n] := by
  have hunbroken : ∀ c ∈ '/' :: levels n, Text.isLineEnd c = false := by
    intro c hc
    obtain rfl | hc := List.mem_cons.1 hc
    · decide
    obtain rfl | rfl := mem_levels hc
    · decide
    · decide
  rw [ofText_of_unbroken hunbroken, parse_levels]
  rfl

/-- A star for each component matches as many components, whatever they are. -/
theorem matchesParts_stars (h : ∀ name ∈ names, '/' ∉ name) :
    matchesParts (List.replicate n ['*']) names = true ↔ names.length = n := by
  induction n generalizing names with
  | zero => rw [List.replicate_zero, Glob.matchesParts_nil_left, List.length_eq_zero_iff]
  | succ n ih =>
      rw [List.replicate_succ, Glob.matchesParts_plain (by decide)]
      constructor
      · rintro ⟨name, rest, rfl, -, hrest⟩
        rw [List.forall_mem_cons] at h
        rw [List.length_cons, (ih h.2).1 hrest]
      · intro hlength
        obtain ⟨name, rest, rfl⟩ := List.exists_cons_of_length_eq_add_one hlength
        rw [List.forall_mem_cons] at h
        exact ⟨name, rest, rfl, Glob.matchesPart_star h.1, (ih h.2).2 (Nat.succ.inj hlength)⟩

theorem exists_parse_levels (n : Nat) :
    ∃ g, Glob.parse (levels n) = .ok g ∧ g.isApart = true := by
  obtain ⟨items, hitems, hapart⟩ := exists_reads_levels n none
  exact ⟨_, Glob.parse_of_reads hitems, hapart⟩

/-- The rule matches the paths with as many components. -/
theorem fits_atDepth : (atDepth n).fits text = true ↔ (text.splitOn '/').length = n + 1 := by
  obtain ⟨g, hg, hapart⟩ := exists_parse_levels n
  have hescaped := wellEscaped_pattern (parse_levels n)
  rw [fits_of_anchored (r := atDepth n) rfl hg, (Glob.isMatch_eq_matchesParts hg hescaped hapart).1,
    splitOn_levels]
  exact matchesParts_stars fun _ => Text.notMem_of_mem_splitOn

/-- Alone, the rule ignores the paths with as many components, be they directories or not. -/
theorem overriding_atDepth (isDir : Bool) :
    overriding text isDir [atDepth n] false = true ↔ (text.splitOn '/').length = n + 1 := by
  rw [overriding_single isDir rfl rfl]
  exact fits_atDepth

end Rule

namespace RuleSet

/-- The text of the rule builds a set with this one rule. -/
theorem exists_ofText_levels (root : Path) (n : Nat) :
    ∃ s, ofText root ('/' :: Rule.levels n) = .ok s ∧ s.root = root ∧ s.rules = [Rule.atDepth n] := by
  obtain ⟨s, hs⟩ : ∃ s, ofText root ('/' :: Rule.levels n) = .ok s := by
    rw [exists_ofText_eq_ok_iff, Rule.ofText_levels, List.forall_mem_singleton]
    obtain ⟨g, hg, -⟩ := Rule.exists_parse_levels n
    exact ⟨g, hg⟩
  obtain ⟨hroot, hrules⟩ := rules_of_ofText hs
  exact ⟨s, hs, hroot, hrules.trans (Rule.ofText_levels n)⟩

end RuleSet

end IgnoreRules
