import IgnoreRules.Proofs.Glob.Reading

/-!
# Globs welded into one pattern

Any number of globs can be asked about a path in one attempt.  Each glob becomes an optional part that
looks ahead to the end of the path and then passes an empty group of its own; the groups that the
attempt passes tell which globs match.  This works because the pattern of a glob passes no group
itself, because an optional part uses up nothing of the path, and because the attempt goes on in the
same way whether the part took part or not.

* `Pattern.outcomes` : the outcomes of an attempt, in the order in which backtracking comes to them;
* `Pattern.Spells` : that a pattern gets past exactly the texts of a language, and passes no group;
* `Glob.pattern` : the pattern of the items of a glob;
* `Pattern.weld`, `Pattern.passed?` : the welded pattern, and the groups that a match passes;
* `Pattern.mem_passed_weld_iff` : the groups passed are those whose glob denotes the path.
-/

namespace IgnoreRules

/-- A pattern as backtracking engines run them. -/
inductive Pattern
  /-- The empty text. -/
  | nothing
  /-- One character that is allowed. -/
  | one (allowed : Char → Bool)
  /-- A run of allowed characters, the longest first. -/
  | run (allowed : Char → Bool)
  /-- Two parts one after the other. -/
  | seq (first second : Pattern)
  /-- Two alternatives, tried in this order. -/
  | alt (first second : Pattern)
  /-- A part that is tried first and left out after that. -/
  | optional (part : Pattern)
  /-- A part that has to match ahead; its first outcome counts, and nothing of the path is used up. -/
  | ahead (part : Pattern)
  /-- The end of the path. -/
  | atEnd
  /-- An empty group. -/
  | group

namespace Pattern

/-! ## Attempts -/

/-- The number of groups of a pattern. -/
def groupCount : Pattern → Nat
  | seq a b => a.groupCount + b.groupCount
  | alt a b => a.groupCount + b.groupCount
  | optional a => a.groupCount
  | ahead a => a.groupCount
  | group => 1
  | _ => 0

/-- Where an attempt stands: what is left of the path, and the groups it has passed. -/
structure Progress where
  rest : Text
  groups : List Nat

/-- What runs of allowed characters leave of a text, the longest run first. -/
def runEnds (allowed : Char → Bool) : Text → List Text
  | [] => [[]]
  | c :: t => if allowed c then runEnds allowed t ++ [c :: t] else [c :: t]

/-- What a character that is allowed leaves of a text. -/
def oneEnds (allowed : Char → Bool) : Text → List Text
  | [] => []
  | c :: t => if allowed c then [t] else []

/-- The outcomes of an attempt, in the order in which backtracking comes to them.  Groups are numbered
from left to right, and `n` is the number of the first one of this pattern. -/
def outcomes : Pattern → Nat → Progress → List Progress
  | nothing, _, s => [s]
  | one allowed, _, s => (oneEnds allowed s.rest).map fun rest => ⟨rest, s.groups⟩
  | run allowed, _, s => (runEnds allowed s.rest).map fun rest => ⟨rest, s.groups⟩
  | seq a b, n, s => (a.outcomes n s).flatMap (b.outcomes (n + a.groupCount))
  | alt a b, n, s => a.outcomes n s ++ b.outcomes (n + a.groupCount) s
  | optional a, n, s => a.outcomes n s ++ [s]
  | ahead a, n, s => ((a.outcomes n s).head?.map fun s' => ⟨s.rest, s'.groups⟩).toList
  | atEnd, _, s => if s.rest = [] then [s] else []
  | group, n, s => [⟨s.rest, n :: s.groups⟩]

/-- The numbers of the groups that a match at the start of the path passes, in ascending order; the
match is the first outcome of the attempt. -/
def passed? (p : Pattern) (path : Text) : Option (List Nat) :=
  (p.outcomes 0 ⟨path, []⟩).head?.map fun s =>
    (List.range p.groupCount).filter fun i => decide (i ∈ s.groups)

/-! ## Patterns without groups -/

section Spelling

open Glob (oneChar charRun)

variable {a b : Pattern} {L M : Language Char} {allowed : Char → Bool} {t rest : Text}

/-- The pattern gets past exactly the texts of the language, and passes no group. -/
structure Spells (p : Pattern) (L : Language Char) : Prop where
  no_groups : p.groupCount = 0
  mem_outcomes : ∀ n s s', s' ∈ p.outcomes n s ↔ s'.groups = s.groups ∧ s.rest ∈ L * {s'.rest}

/-- What two languages in sequence take up is taken up by one after the other. -/
theorem mem_mul_iff_exists_rest : t ∈ L * M ↔ ∃ rest, t ∈ L * {rest} ∧ rest ∈ M := by
  constructor
  · intro h
    rcases Language.mem_mul.1 h with ⟨u, hu, v, hv, rfl⟩
    exact ⟨v, Language.append_mem_mul hu rfl, hv⟩
  · rintro ⟨rest, ht, hrest⟩
    rcases Language.mem_mul.1 ht with ⟨u, hu, v, rfl, rfl⟩
    exact Language.append_mem_mul hu hrest

theorem mem_oneEnds : rest ∈ oneEnds allowed t ↔ t ∈ oneChar allowed * {rest} := by
  cases t with
  | nil => exact iff_of_false List.not_mem_nil Glob.nil_notMem_oneChar_mul
  | cons c t =>
      rw [Glob.cons_mem_oneChar_mul, oneEnds]
      by_cases hc : allowed c = true
      · rw [if_pos hc, List.mem_singleton]
        exact ⟨fun h => ⟨hc, h.symm⟩, fun h => h.2.symm⟩
      · rw [if_neg hc]
        exact iff_of_false List.not_mem_nil fun h => hc h.1

theorem mem_runEnds : rest ∈ runEnds allowed t ↔ t ∈ charRun allowed * {rest} := by
  induction t with
  | nil =>
      rw [Glob.nil_mem_charRun_mul, runEnds, List.mem_singleton]
      exact eq_comm
  | cons c t ih =>
      rw [Glob.cons_mem_charRun_mul, runEnds]
      by_cases hc : allowed c = true
      · rw [if_pos hc, List.mem_append, List.mem_singleton, ih]
        constructor
        · rintro (h | h)
          · exact Or.inr ⟨hc, h⟩
          · exact Or.inl h.symm
        · rintro (h | ⟨-, h⟩)
          · exact Or.inr h.symm
          · exact Or.inl h
      · rw [if_neg hc, List.mem_singleton]
        exact ⟨fun h => Or.inl h.symm, fun h => h.elim Eq.symm fun h => absurd h.1 hc⟩

theorem spells_nothing : Spells nothing 1 := by
  refine ⟨rfl, fun n s s' => ?_⟩
  rw [outcomes, List.mem_singleton, one_mul]
  constructor
  · rintro rfl
    exact ⟨rfl, rfl⟩
  · rintro ⟨hgroups, hrest⟩
    cases s
    cases hgroups
    cases hrest
    rfl

theorem spells_one (allowed : Char → Bool) : Spells (one allowed) (oneChar allowed) := by
  refine ⟨rfl, fun n s s' => ?_⟩
  rw [outcomes, List.mem_map]
  constructor
  · rintro ⟨rest, hrest, rfl⟩
    exact ⟨rfl, mem_oneEnds.1 hrest⟩
  · rintro ⟨hgroups, hrest⟩
    exact ⟨s'.rest, mem_oneEnds.2 hrest, by rw [← hgroups]⟩

theorem spells_run (allowed : Char → Bool) : Spells (run allowed) (charRun allowed) := by
  refine ⟨rfl, fun n s s' => ?_⟩
  rw [outcomes, List.mem_map]
  constructor
  · rintro ⟨rest, hrest, rfl⟩
    exact ⟨rfl, mem_runEnds.1 hrest⟩
  · rintro ⟨hgroups, hrest⟩
    exact ⟨s'.rest, mem_runEnds.2 hrest, by rw [← hgroups]⟩

theorem Spells.seq (ha : Spells a L) (hb : Spells b M) : Spells (seq a b) (L * M) := by
  refine ⟨by rw [groupCount, ha.no_groups, hb.no_groups], fun n s s' => ?_⟩
  rw [outcomes, List.mem_flatMap, mul_assoc, mem_mul_iff_exists_rest]
  constructor
  · rintro ⟨s₁, h₁, h₂⟩
    rcases (ha.mem_outcomes n s s₁).1 h₁ with ⟨hgroups₁, hrest₁⟩
    rcases (hb.mem_outcomes _ s₁ s').1 h₂ with ⟨hgroups₂, hrest₂⟩
    exact ⟨hgroups₂.trans hgroups₁, s₁.rest, hrest₁, hrest₂⟩
  · rintro ⟨hgroups, rest, hrest₁, hrest₂⟩
    exact ⟨⟨rest, s.groups⟩, (ha.mem_outcomes n s _).2 ⟨rfl, hrest₁⟩,
      (hb.mem_outcomes _ _ s').2 ⟨hgroups, hrest₂⟩⟩

theorem Spells.alt (ha : Spells a L) (hb : Spells b M) : Spells (alt a b) (L + M) := by
  refine ⟨by rw [groupCount, ha.no_groups, hb.no_groups], fun n s s' => ?_⟩
  rw [outcomes, List.mem_append, ha.mem_outcomes, hb.mem_outcomes, add_mul, Language.mem_add,
    ← and_or_left]

/-- Leaving a part out is the alternative that spells nothing. -/
theorem Spells.optional (ha : Spells a L) : Spells (optional a) (L + 1) := by
  refine ⟨ha.no_groups, fun n s s' => ?_⟩
  rw [← (ha.alt spells_nothing).mem_outcomes n s s', outcomes, outcomes, outcomes]

end Spelling

end Pattern

/-! ## The patterns of globs -/

namespace Glob

/-- The pattern of a construct. -/
def Construct.pattern (scope : WildcardScope) : Construct → Pattern
  | literal c => .one (· == c)
  | question => .one scope.admits
  | stars => .run scope.admits
  | bracket negated members => .one (CharClass.admits ⟨negated, members⟩ scope)
  | recursiveAlone => .run fun _ => true
  | recursiveStart =>
      .alt (.optional (.one (· == '/'))) (.seq (.run fun _ => true) (.one (· == '/')))
  | recursiveEnd => .run fun _ => true
  | recursiveInner => .optional (.seq (.run fun _ => true) (.one (· == '/')))

/-- The pattern of constructs in sequence. -/
def branchPattern (scope : WildcardScope) (xs : List Construct) : Pattern :=
  xs.foldr (fun x p => .seq (x.pattern scope) p) .nothing

/-- The pattern of an item; no character is allowed where no branch is left. -/
def Item.pattern (scope : WildcardScope) : Item → Pattern
  | one x => x.pattern scope
  | group branches =>
      branches.foldr (fun xs p => .alt (branchPattern scope xs) p) (.one fun _ => false)

/-- The pattern of a glob with these items. -/
def pattern (scope : WildcardScope) (items : List Item) : Pattern :=
  items.foldr (fun item p => .seq (item.pattern scope) p) .nothing

section Spelling

open Pattern (Spells)

variable {scope : WildcardScope}

theorem oneChar_false : oneChar (fun _ => false) = 0 := by
  ext w
  exact iff_of_false (fun ⟨_, h, _⟩ => absurd h Bool.false_ne_true) (Language.notMem_zero w)

theorem throughSeparator_eq : throughSeparator = charRun (fun _ => true) * oneChar (· == '/') := by
  ext w
  constructor
  · rintro ⟨u, rfl⟩
    exact Language.append_mem_mul (fun _ _ => rfl) ⟨'/', rfl, rfl⟩
  · intro h
    rcases Language.mem_mul.1 h with ⟨u, -, v, ⟨c, hc, rfl⟩, rfl⟩
    exact ⟨u, by rw [eq_of_beq hc]⟩

/-- A recursive run with its separator, as it stands behind another separator. -/
theorem spells_throughSeparator :
    Spells (.seq (.run fun _ => true) (.one (· == '/'))) throughSeparator := by
  rw [throughSeparator_eq]
  exact (Pattern.spells_run _).seq (Pattern.spells_one _)

/-- At the start of a glob, a single separator is among the texts that end in one. -/
theorem oneChar_slash_add_throughSeparator :
    oneChar (· == '/') + 1 + throughSeparator = 1 + throughSeparator := by
  ext w
  rw [Language.mem_add, Language.mem_add, Language.mem_add]
  constructor
  · rintro ((⟨c, hc, rfl⟩ | h) | h)
    · exact Or.inr ⟨[], by rw [eq_of_beq hc, List.nil_append]⟩
    · exact Or.inl h
    · exact Or.inr h
  · rintro (h | h)
    · exact Or.inl (Or.inr h)
    · exact Or.inr h

theorem Construct.spells_pattern (x : Construct) : Spells (x.pattern scope) (x.language scope) := by
  rw [← x.language_token]
  cases x with
  | literal c =>
      rw [Construct.token, Token.language, singleton_eq_oneChar]
      exact Pattern.spells_one _
  | question => exact Pattern.spells_one _
  | stars => exact Pattern.spells_run _
  | bracket negated members => exact Pattern.spells_one _
  | recursiveAlone =>
      rw [Construct.token, Token.language, top_eq_charRun]
      exact Pattern.spells_run _
  | recursiveStart =>
      rw [Construct.token, Token.language, ← oneChar_slash_add_throughSeparator]
      exact (Pattern.spells_one _).optional.alt spells_throughSeparator
  | recursiveEnd =>
      rw [Construct.token, Token.language, top_eq_charRun]
      exact Pattern.spells_run _
  | recursiveInner =>
      rw [Construct.token, Token.language, add_comm]
      exact spells_throughSeparator.optional

theorem spells_branchPattern (xs : List Construct) :
    Spells (branchPattern scope xs) (branchLanguage scope xs) := by
  induction xs with
  | nil => exact Pattern.spells_nothing
  | cons x xs ih =>
      rw [branchLanguage, List.map_cons, List.prod_cons]
      exact x.spells_pattern.seq ih

theorem Item.spells_pattern (item : Item) : Spells (item.pattern scope) (item.language scope) := by
  cases item with
  | one x => exact x.spells_pattern
  | group branches =>
      rw [Item.pattern, Item.language]
      induction branches with
      | nil =>
          rw [List.map_nil, List.sum_nil, ← oneChar_false]
          exact Pattern.spells_one _
      | cons xs branches ih =>
          rw [List.map_cons, List.sum_cons]
          exact (spells_branchPattern xs).alt ih

/-- The pattern of a glob spells the paths that its items denote. -/
theorem spells_pattern (items : List Item) : Spells (pattern scope items) (denoted scope items) := by
  induction items with
  | nil => exact Pattern.spells_nothing
  | cons item items ih =>
      rw [denoted, List.map_cons, List.prod_cons]
      exact item.spells_pattern.seq ih

end Spelling

end Glob

/-! ## Welding -/

namespace Pattern

/-- The pattern up to the end of the path. -/
def toEnd (body : Pattern) : Pattern :=
  .seq body .atEnd

/-- The part of a welded pattern that asks about one glob. -/
def probe (body : Pattern) : Pattern :=
  .optional (.seq (.ahead body.toEnd) .group)

/-- One pattern that asks about many globs. -/
def weld (bodies : List Pattern) : Pattern :=
  bodies.foldr (fun body p => .seq body.probe p) .nothing

section Welding

variable {body : Pattern} {L : Language Char} {n : Nat} {s s' : Progress}

theorem Spells.mem_outcomes_toEnd (h : Spells body L) :
    s' ∈ body.toEnd.outcomes n s ↔ s' = ⟨[], s.groups⟩ ∧ s.rest ∈ L := by
  rw [toEnd, outcomes, List.mem_flatMap]
  constructor
  · rintro ⟨s₁, h₁, h₂⟩
    rw [outcomes] at h₂
    split at h₂
    · next hend =>
        rcases (h.mem_outcomes n s s₁).1 h₁ with ⟨hgroups, hrest⟩
        rw [hend, show ({[]} : Language Char) = 1 from rfl, mul_one] at hrest
        rw [List.mem_singleton.1 h₂, ← hgroups, ← hend]
        exact ⟨rfl, hrest⟩
    · cases h₂
  · rintro ⟨rfl, hrest⟩
    refine ⟨⟨[], s.groups⟩, (h.mem_outcomes n s _).2 ⟨rfl, ?_⟩, ?_⟩
    · exact (mul_one L).symm ▸ hrest
    · exact List.mem_singleton_self _

/-- Asking about one glob uses up nothing, and its first outcome passes the group if the glob denotes
the rest of the path. -/
theorem Spells.exists_outcomes_probe (h : Spells body L) (n : Nat) (s : Progress) :
    ∃ s₁ others, body.probe.outcomes n s = s₁ :: others ∧ s₁.rest = s.rest ∧
      ∀ i, i ∈ s₁.groups ↔ i ∈ s.groups ∨ s.rest ∈ L ∧ i = n := by
  have hcount : n + (ahead body.toEnd).groupCount = n := by
    rw [groupCount, toEnd, groupCount, h.no_groups]
    rfl
  rw [probe, outcomes, outcomes, hcount, outcomes]
  -- Looking ahead fails, or its first outcome leaves the groups as they were.
  cases hhead : (body.toEnd.outcomes n s).head? with
  | none =>
      refine ⟨s, [], rfl, rfl, fun i => ⟨Or.inl, ?_⟩⟩
      rintro (hi | ⟨hmem, -⟩)
      · exact hi
      · have hnil := List.head?_eq_none_iff.1 hhead
        exact absurd (hnil ▸ h.mem_outcomes_toEnd.2 ⟨rfl, hmem⟩) List.not_mem_nil
  | some s₂ =>
      rcases h.mem_outcomes_toEnd.1 (List.mem_of_head? hhead) with ⟨rfl, hmem⟩
      refine ⟨⟨s.rest, n :: s.groups⟩, [s], rfl, rfl, fun i => ?_⟩
      rw [List.mem_cons, or_comm, and_iff_right hmem]

theorem Spells.groupCount_probe (h : Spells body L) : body.probe.groupCount = 1 := by
  rw [probe, groupCount, groupCount, groupCount, toEnd, groupCount, h.no_groups]
  rfl

variable {bodies : List Pattern} {Ls : List (Language Char)}

theorem groupCount_weld (h : List.Forall₂ Spells bodies Ls) :
    (weld bodies).groupCount = Ls.length := by
  induction h with
  | nil => rfl
  | cons hbody _ ih =>
      rw [weld, List.foldr_cons, groupCount, hbody.groupCount_probe, ← weld, ih, List.length_cons,
        Nat.add_comm]

/-- The first outcome of a welded pattern: the induction is on the globs, and each of them hands the
whole path on to the next. -/
theorem exists_head?_outcomes_weld (h : List.Forall₂ Spells bodies Ls) (n : Nat) (s : Progress) :
    ∃ s', ((weld bodies).outcomes n s).head? = some s' ∧
      ∀ i, i ∈ s'.groups ↔ i ∈ s.groups ∨ ∃ j L, Ls[j]? = some L ∧ s.rest ∈ L ∧ i = n + j := by
  induction h generalizing n s with
  | nil =>
      refine ⟨s, rfl, fun i => ⟨Or.inl, ?_⟩⟩
      rintro (hi | ⟨j, L, hj, -⟩)
      · exact hi
      · cases hj
  | @cons body L bodies Ls hbody _ ih =>
      rcases hbody.exists_outcomes_probe n s with ⟨s₁, others, houtcomes, hrest, hgroups₁⟩
      -- The rest never fails, so the first outcome goes on from `s₁` and no other is tried.
      rcases ih (n + 1) s₁ with ⟨s', hhead, hgroups⟩
      refine ⟨s', ?_, fun i => ?_⟩
      · rw [weld, List.foldr_cons, outcomes, houtcomes, hbody.groupCount_probe, ← weld,
          List.flatMap_cons, List.head?_append, hhead, Option.some_or]
      · rw [hgroups, hgroups₁, hrest, or_assoc]
        refine or_congr_right ⟨?_, ?_⟩
        · rintro (⟨hmem, rfl⟩ | ⟨j, M, hj, hmem, rfl⟩)
          · exact ⟨0, L, rfl, hmem, rfl⟩
          · exact ⟨j + 1, M, hj, hmem, by omega⟩
        · rintro ⟨j, M, hj, hmem, rfl⟩
          cases j with
          | zero =>
              cases hj
              exact Or.inl ⟨hmem, rfl⟩
          | succ j => exact Or.inr ⟨j, M, hj, hmem, by omega⟩

/-- A match of the welded pattern passes, in ascending order, the groups of the globs that denote the
path. -/
theorem exists_passed_weld (h : List.Forall₂ Spells bodies Ls) (path : Text) :
    ∃ indices, (weld bodies).passed? path = some indices ∧ indices.Pairwise (· < ·) ∧
      ∀ i, i ∈ indices ↔ ∃ L, Ls[i]? = some L ∧ path ∈ L := by
  rcases exists_head?_outcomes_weld h 0 ⟨path, []⟩ with ⟨s', hhead, hgroups⟩
  refine ⟨_, by rw [passed?, hhead]; rfl, List.pairwise_lt_range.filter _, fun i => ?_⟩
  rw [List.mem_filter, decide_eq_true_iff, hgroups, groupCount_weld h, List.mem_range]
  constructor
  · rintro ⟨-, hi | ⟨j, L, hj, hmem, rfl⟩⟩
    · cases hi
    · exact ⟨L, by rwa [Nat.zero_add], hmem⟩
  · rintro ⟨L, hL, hmem⟩
    exact ⟨(List.getElem?_eq_some_iff.1 hL).1, Or.inr ⟨i, L, hL, hmem, (Nat.zero_add i).symm⟩⟩

/-- Three globs, of which the first and the last match. -/
example :
    (weld [.run fun _ => true, .one (· == 'b'), .one (· == 'a')]).passed? ['a'] = some [0, 2] := by
  decide

end Welding

end Pattern

end IgnoreRules
