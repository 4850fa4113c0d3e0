import Mathlib.Algebra.BigOperators.Ring.List
import IgnoreRules.Proofs.Glob.Joined

/-!
# Alternatives as expansion

A group between two globs stands for as many globs as it has branches, each with one branch in place of
the group.  Written out, they are read in another context than the group, but the text of a branch has
no stars and neither have the two globs at the seam, and nothing else in a glob looks at its
neighbours.

* `Glob.braced` : branches in braces;
* `Glob.parse_braced`, `Glob.parse_branch` : what a group and a branch are read as;
* `Glob.language_between` : a group between two globs denotes what its branches do between them;
* `Glob.isMatch_alternatives` : a group matches what the expanded globs match.
-/

namespace IgnoreRules

namespace Glob

variable {scope : WildcardScope} {before : Option Char} {a b p s : Text} {branches : List Text}

/-! ## Texts of branches -/

/-- Branches in braces, with a comma between them. -/
def braced (branches : List Text) : Text :=
  '{' :: (List.intercalate [','] branches ++ ['}'])

/-- The text of a branch names characters and question marks, and no other construct. -/
def IsBranch (a : Text) : Prop :=
  ∀ c ∈ a, c ∉ ['*', '{', '}', ',', '[', ']', '\\']

instance (a : Text) : Decidable (IsBranch a) :=
  List.decidableBAll _ a

/-- The constructs of a branch, one for each character. -/
def branchConstructs (a : Text) : List Construct :=
  a.map fun c => if c = '?' then .question else .literal c

section Reading

theorem opensAll_branch (h : IsBranch a) (before : Option Char) (rest : Text) :
    ∃ before', OpensAll before (a ++ rest) (branchConstructs a) before' rest := by
  induction a generalizing before with
  | nil => exact ⟨before, .nil before rest⟩
  | cons c a ih =>
      rcases List.forall_mem_cons.1 h with ⟨hc, ha⟩
      rcases ih ha (some c) with ⟨before', hrest⟩
      by_cases hquestion : c = '?'
      · subst hquestion
        exact ⟨before', .cons .question hrest⟩
      · have hordinary : c ∉ ['\\', '*', '?', '[', '{', '}', ','] := by
          simp only [List.mem_cons, List.not_mem_nil, or_false, not_or] at hc ⊢
          tauto
        have hconstruct : branchConstructs (c :: a) = .literal c :: branchConstructs a := by
          simp [branchConstructs, hquestion]
        exact ⟨before', hconstruct ▸ .cons (.ordinary hordinary) hrest⟩

/-- From behind the opening brace, the branches of a group are found one after the other. -/
theorem branches_braced (hne : branches ≠ []) (h : ∀ a ∈ branches, IsBranch a)
    (before : Option Char) (rest : Text) :
    Branches before (List.intercalate [','] branches ++ '}' :: rest) (branches.map branchConstructs)
      rest := by
  induction branches generalizing before with
  | nil => exact absurd rfl hne
  | cons a branches ih =>
      rcases List.forall_mem_cons.1 h with ⟨ha, hbranches⟩
      cases branches with
      | nil =>
          rcases opensAll_branch ha before ('}' :: rest) with ⟨before', hopens⟩
          simpa using Branches.last hopens
      | cons b branches =>
          -- The comma behind the branch begins the next one.
          rcases opensAll_branch ha before
            (',' :: (List.intercalate [','] (b :: branches) ++ '}' :: rest)) with ⟨before', hopens⟩
          simpa using Branches.more hopens (ih (by simp) hbranches (some ','))

/-- A group is read as its branches. -/
theorem parse_braced (hne : branches ≠ []) (h : ∀ a ∈ branches, IsBranch a) :
    parse (braced branches) = .ok [(Item.group (branches.map branchConstructs)).piece] :=
  parse_of_reads (.group (branches_braced hne h (some '{') []) (.nil _))

theorem OpensAll.reads {before' : Option Char} {t : Text} {xs : List Construct}
    (h : OpensAll before t xs before' []) : Reads before t (xs.map .one) := by
  generalize hend : ([] : Text) = rest at h
  induction h with
  | nil before t =>
      subst hend
      exact .nil before
  | cons hx _ ih => exact .one hx (ih hend)

/-- Without its group, a branch is read as a glob of the same constructs. -/
theorem parse_branch (h : IsBranch a) :
    parse a = .ok (((branchConstructs a).map Item.one).map Item.piece) := by
  rcases opensAll_branch h none [] with ⟨before', hopens⟩
  rw [List.append_nil] at hopens
  exact parse_of_reads hopens.reads

end Reading

/-! ## What a group denotes -/

section Denoted

variable {path : Text}

theorem mem_sum_iff {w : Text} {languages : List (Language Char)} :
    w ∈ languages.sum ↔ ∃ L ∈ languages, w ∈ L := by
  induction languages with
  | nil => simp
  | cons L languages ih => simp [Language.mem_add, ih]

theorem language_branch (xs : List Construct) :
    language scope ((xs.map Item.one).map Item.piece) = branchLanguage scope xs := by
  rw [language_map_piece, denoted, branchLanguage, List.map_map]
  rfl

/-- A group between two globs denotes what one of its branches denotes between them. -/
theorem mem_language_between {front back : Glob} {branches : List (List Construct)} :
    path ∈ language scope (front ++ ([(Item.group branches).piece] ++ back)) ↔
      ∃ xs ∈ branches,
        path ∈ language scope (front ++ (((xs.map Item.one).map Item.piece) ++ back)) := by
  have hgroup : language scope [(Item.group branches).piece] =
      (branches.map (branchLanguage scope)).sum := by
    calc
      language scope [(Item.group branches).piece]
          = denoted scope [Item.group branches] := language_map_piece [Item.group branches]
      _ = (branches.map (branchLanguage scope)).sum := by simp [denoted, Item.language]
  simp only [language_append, language_branch, hgroup]
  -- Products distribute over the sum of the branches on either side.
  rw [← List.sum_map_mul_right, ← List.sum_map_mul_left, mem_sum_iff]
  simp

end Denoted

/-! ## Expansion -/

section Expansion

theorem getLast?_braced (branches : List Text) : (braced branches).getLast? = some '}' := by
  rw [braced, ← List.cons_append, List.getLast?_concat]

theorem IsBranch.getLast?_ne (h : IsBranch a) : a.getLast? ≠ some '*' := by
  intro hlast
  exact h '*' (List.mem_of_getLast? hlast) (by simp)

theorem IsBranch.head?_append_ne (h : IsBranch a) (hs : s.head? ≠ some '*') :
    (a ++ s).head? ≠ some '*' := by
  cases a with
  | nil => exact hs
  | cons c a =>
      intro hhead
      obtain rfl : c = '*' := Option.some.inj hhead
      exact h '*' (List.mem_cons_self ..) (by simp)

/-- A group between two globs is a glob that matches what the globs with one branch in its place
match, if neither of the two has a star at the group. -/
theorem isMatch_alternatives (hp : ∃ g, parse p = .ok g) (hs : ∃ g, parse s = .ok g)
    (hlast : p.getLast? ≠ some '*') (hhead : s.head? ≠ some '*') (hne : branches ≠ [])
    (hbranches : ∀ a ∈ branches, IsBranch a) :
    ∃ g, parse (p ++ braced branches ++ s) = .ok g ∧
      (∀ a ∈ branches, ∃ g', parse (p ++ a ++ s) = .ok g') ∧
      ∀ scope path, g.isMatch scope path = true ↔
        ∃ a ∈ branches, ∃ g', parse (p ++ a ++ s) = .ok g' ∧ g'.isMatch scope path = true := by
  rcases hp with ⟨front, hfront⟩
  rcases hs with ⟨back, hback⟩
  have hgroup : parse (p ++ braced branches ++ s) =
      .ok (front ++ ([(Item.group (branches.map branchConstructs)).piece] ++ back)) := by
    rw [List.append_assoc]
    refine parse_append_of_ok hfront ?_ hlast (Or.inr (by simp [braced]))
    exact parse_append_of_ok (parse_braced hne hbranches) hback (by simp [getLast?_braced]) (Or.inr hhead)
  have hexpanded : ∀ a ∈ branches, parse (p ++ a ++ s) =
      .ok (front ++ (((branchConstructs a).map Item.one).map Item.piece ++ back)) := by
    intro a ha
    have hbranch := hbranches a ha
    rw [List.append_assoc]
    refine parse_append_of_ok hfront ?_ hlast (Or.inr (hbranch.head?_append_ne hhead))
    exact parse_append_of_ok (parse_branch hbranch) hback hbranch.getLast?_ne (Or.inr hhead)
  refine ⟨_, hgroup, fun a ha => ⟨_, hexpanded a ha⟩, fun scope path => ?_⟩
  simp only [isMatch_iff_mem_language, mem_language_between, List.mem_map, exists_exists_and_eq_and]
  constructor
  · rintro ⟨a, ha, hmem⟩
    exact ⟨a, ha, _, hexpanded a ha, hmem⟩
  · rintro ⟨a, ha, g', hg', hmem⟩
    obtain rfl := Except.ok.inj ((hexpanded a ha).symm.trans hg')
    exact ⟨a, ha, hmem⟩

/-- An empty branch and one with a separator, between a negated class and a recursive component. -/
theorem isMatch_alternatives_sample :
    ∃ g, parse ("src/[!.]".toList ++ braced [[], "a/?".toList] ++ "/**".toList) = .ok g ∧
      g.isMatch .component "src/xa/b/c".toList = true ∧
      g.isMatch .component "src/xa".toList = false := by
  have hp : parse "src/[!.]".toList = .ok ("src/".toList.map (fun c => .token (.char c)) ++
      [.token (.oneOf ⟨true, [('.', '.')]⟩)]) := by
    decide +kernel
  have hs : parse "/**".toList = .ok [.token (.char '/'), .token .anyTail] := by decide +kernel
  have hbranches : ∀ a ∈ [[], "a/?".toList], IsBranch a := by
    intro a ha
    rcases List.mem_pair.1 ha with rfl | rfl
    · decide
    · decide
  obtain ⟨g, hg, -, hmatch⟩ := isMatch_alternatives ⟨_, hp⟩ ⟨_, hs⟩ (by decide) (by decide)
    (List.cons_ne_nil _ _) hbranches
  have hempty : parse ("src/[!.]".toList ++ [] ++ "/**".toList) =
      .ok ("src/".toList.map (fun c => .token (.char c)) ++
        [.token (.oneOf ⟨true, [('.', '.')]⟩), .token (.char '/'), .token .anyTail]) := by
    decide +kernel
  have hnested : parse ("src/[!.]".toList ++ "a/?".toList ++ "/**".toList) =
      .ok ("src/".toList.map (fun c => .token (.char c)) ++
        [.token (.oneOf ⟨true, [('.', '.')]⟩), .token (.char 'a'), .token (.char '/'),
          .token .anyChar, .token (.char '/'), .token .anyTail]) := by
    decide +kernel
  refine ⟨g, hg, (hmatch _ _).2 ⟨_, by simp, _, hnested, by decide⟩, ?_⟩
  rw [Bool.eq_false_iff]
  intro hfits
  rcases (hmatch _ _).1 hfits with ⟨a, ha, g', hg', hfits'⟩
  rcases List.mem_pair.1 ha with rfl | rfl
  · obtain rfl := Except.ok.inj (hempty.symm.trans hg')
    exact absurd hfits' (by decide)
  · obtain rfl := Except.ok.inj (hnested.symm.trans hg')
    exact absurd hfits' (by decide)

end Expansion

end Glob

end IgnoreRules
