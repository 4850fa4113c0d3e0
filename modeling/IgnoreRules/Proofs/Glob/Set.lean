import IgnoreRules.Glob.Set
import IgnoreRules.Proofs.Glob.Pattern

/-!
# Sets of globs

A list of globs can be read as a set exactly when each of them can be read, and a set answers for each
glob as if it stood alone.

* `GlobSet.ReadAs`, `GlobSet.FirstInvalid` : a glob and the member it is read as, and the first glob
  that cannot be read;
* `GlobSet.compile_eq_ok_iff`, `GlobSet.compile_eq_error_iff` : when reading succeeds and what it
  reports otherwise;
* `GlobSet.mem_matchIndices_iff`, `GlobSet.pairwise_matchIndices`, `GlobSet.matchIndices_append` : the
  positions of the globs that match;
* `GlobSet.passed_weld_eq` : a match of the welded pattern of the globs passes the same positions.
-/

namespace IgnoreRules

namespace GlobSet

/-! ## Reading -/

/-- The member that a glob of a list is read as. -/
def ReadAs (entry : Text × WildcardScope) (member : Glob × WildcardScope) : Prop :=
  Glob.parse entry.1 = .ok member.1 ∧ member.2 = entry.2

/-- The glob can be read. -/
def Valid (entry : Text × WildcardScope) : Prop :=
  ∃ g, Glob.parse entry.1 = .ok g

/-- The first glob of a list that cannot be read: its position, its text and what is wrong with it. -/
structure FirstInvalid (globs : List (Text × WildcardScope)) (index : Nat) (glob : Text)
    (fault : Glob.Fault) : Prop where
  entry : ∃ scope, globs[index]? = some (glob, scope)
  fault : Glob.parse glob = .error fault
  earlier : ∀ j < index, ∀ e, globs[j]? = some e → Valid e

section Reading

variable {globs globs' : List (Text × WildcardScope)} {entry : Text × WildcardScope}
variable {members read : List (Glob × WildcardScope)} {index k n : Nat} {glob : Text} {g : Glob}
variable {fault fault' : Glob.Fault} {s : GlobSet} {e : CompileError}

theorem firstInvalid_cons_of_invalid (h : Glob.parse entry.1 = .error fault) :
    FirstInvalid (entry :: globs) k glob fault' ↔ k = 0 ∧ glob = entry.1 ∧ fault' = fault := by
  constructor
  · rintro ⟨⟨scope, hentry⟩, hfault, hearlier⟩
    cases k with
    | zero =>
        cases hentry
        exact ⟨rfl, rfl, Except.error.inj (hfault.symm.trans h)⟩
    | succ k =>
        rcases hearlier 0 (Nat.succ_pos k) entry rfl with ⟨g, hg⟩
        rw [h] at hg
        cases hg
  · rintro ⟨rfl, rfl, rfl⟩
    exact ⟨⟨entry.2, rfl⟩, h, fun j hj => absurd hj (Nat.not_lt_zero j)⟩

theorem firstInvalid_cons_of_valid (h : Valid entry) :
    FirstInvalid (entry :: globs) k glob fault ↔
      ∃ k', k = k' + 1 ∧ FirstInvalid globs k' glob fault := by
  constructor
  · rintro ⟨⟨scope, hentry⟩, hfault, hearlier⟩
    cases k with
    | zero =>
        cases hentry
        rcases h with ⟨g, hg⟩
        rw [hfault] at hg
        cases hg
    | succ k =>
        exact ⟨k, rfl, ⟨scope, hentry⟩, hfault, fun j hj e he => hearlier (j + 1) (by omega) e he⟩
  · rintro ⟨k, rfl, ⟨scope, hentry⟩, hfault, hearlier⟩
    refine ⟨⟨scope, hentry⟩, hfault, fun j hj e he => ?_⟩
    cases j with
    | zero =>
        cases he
        exact h
    | succ j => exact hearlier j (by omega) e he

/-- Reading from some position on succeeds with the members of the rest behind those already read. -/
theorem compileFrom_eq_ok_iff :
    compileFrom n read globs = .ok s ↔
      ∃ members, List.Forall₂ ReadAs globs members ∧ s = ⟨read.reverse ++ members⟩ := by
  induction globs generalizing n read with
  | nil =>
      rw [compileFrom, Except.ok.injEq]
      constructor
      · rintro rfl
        exact ⟨[], .nil, by rw [List.append_nil]⟩
      · rintro ⟨members, hread, rfl⟩
        cases hread
        rw [List.append_nil]
  | cons entry globs ih =>
      rw [compileFrom]
      cases hparse : Glob.parse entry.1 with
      | error fault =>
          refine iff_of_false (fun h => by cases h) ?_
          rintro ⟨members, hread, -⟩
          cases hread with
          | cons hentry _ =>
              rw [hentry.1] at hparse
              cases hparse
      | ok g =>
          -- The member just read moves from the front of the rest to the end of those read.
          refine ih.trans ⟨?_, ?_⟩
          · rintro ⟨members, hread, rfl⟩
            exact ⟨(g, entry.2) :: members, .cons ⟨hparse, rfl⟩ hread, by simp⟩
          · rintro ⟨members, hread, rfl⟩
            cases hread with
            | @cons _ member _ members hentry hread =>
                refine ⟨members, hread, ?_⟩
                have hmember : member = (g, entry.2) :=
                  Prod.ext (Except.ok.inj (hentry.1.symm.trans hparse)) hentry.2
                simp [hmember]

theorem compileFrom_eq_error_iff :
    compileFrom n read globs = .error e ↔
      ∃ k, e.index = n + k ∧ FirstInvalid globs k e.glob e.fault := by
  induction globs generalizing n read with
  | nil =>
      refine iff_of_false (fun h => by cases h) ?_
      rintro ⟨k, -, ⟨⟨scope, hentry⟩, -⟩⟩
      cases hentry
  | cons entry globs ih =>
      rw [compileFrom]
      cases hparse : Glob.parse entry.1 with
      | error fault =>
          simp only [firstInvalid_cons_of_invalid hparse, Except.error.injEq]
          constructor
          · rintro rfl
            exact ⟨0, rfl, rfl, rfl, rfl⟩
          · rintro ⟨k, hindex, rfl, hglob, hfault⟩
            cases e
            cases hindex
            cases hglob
            cases hfault
            rfl
      | ok g =>
          simp only [firstInvalid_cons_of_valid ⟨g, hparse⟩]
          refine ih.trans ⟨?_, ?_⟩
          · rintro ⟨k, hindex, hfirst⟩
            exact ⟨k + 1, by omega, k, rfl, hfirst⟩
          · rintro ⟨-, hindex, k, rfl, hfirst⟩
            exact ⟨k, by omega, hfirst⟩

/-- A list of globs is read member by member. -/
theorem compile_eq_ok_iff : compile globs = .ok s ↔ List.Forall₂ ReadAs globs s.members := by
  rw [compile, compileFrom_eq_ok_iff]
  constructor
  · rintro ⟨members, hread, rfl⟩
    exact hread
  · intro hread
    exact ⟨s.members, hread, rfl⟩

/-- What is reported is the first glob that cannot be read. -/
theorem compile_eq_error_iff :
    compile globs = .error e ↔ FirstInvalid globs e.index e.glob e.fault := by
  rw [compile, compileFrom_eq_error_iff]
  constructor
  · rintro ⟨k, hindex, hfirst⟩
    rw [hindex, Nat.zero_add]
    exact hfirst
  · intro hfirst
    exact ⟨e.index, (Nat.zero_add _).symm, hfirst⟩

theorem exists_forall₂_readAs_iff :
    (∃ members, List.Forall₂ ReadAs globs members) ↔ ∀ entry ∈ globs, Valid entry := by
  induction globs with
  | nil => exact iff_of_true ⟨[], .nil⟩ fun entry h => absurd h List.not_mem_nil
  | cons entry globs ih =>
      rw [List.forall_mem_cons, ← ih]
      constructor
      · rintro ⟨members, hread⟩
        cases hread with
        | cons hentry hread => exact ⟨⟨_, hentry.1⟩, _, hread⟩
      · rintro ⟨⟨g, hg⟩, members, hread⟩
        exact ⟨(g, entry.2) :: members, .cons ⟨hg, rfl⟩ hread⟩

theorem exists_compile_eq_ok_iff : (∃ s, compile globs = .ok s) ↔ ∀ entry ∈ globs, Valid entry := by
  rw [← exists_forall₂_readAs_iff]
  constructor
  · rintro ⟨s, hs⟩
    exact ⟨s.members, compile_eq_ok_iff.1 hs⟩
  · rintro ⟨members, hread⟩
    exact ⟨⟨members⟩, compile_eq_ok_iff.2 hread⟩

end Reading

/-! ## Matching -/

section Matching

variable {s t : GlobSet} {path : Text} {i : Nat}

theorem mem_matchIndices_iff :
    i ∈ s.matchIndices path ↔ ∃ m, s.members[i]? = some m ∧ m.1.isMatch m.2 path = true := by
  rw [matchIndices, List.mem_filterMap]
  constructor
  · rintro ⟨⟨⟨g, scope⟩, j⟩, hmem, hmatch⟩
    rw [Option.ite_none_right_eq_some, Option.some.injEq] at hmatch
    rcases hmatch with ⟨hmatch, rfl⟩
    exact ⟨(g, scope), List.mk_mem_zipIdx_iff_getElem?.1 hmem, hmatch⟩
  · rintro ⟨⟨g, scope⟩, hmember, hmatch⟩
    exact ⟨((g, scope), i), List.mk_mem_zipIdx_iff_getElem?.2 hmember, if_pos hmatch⟩

theorem pairwise_matchIndices (s : GlobSet) (path : Text) :
    (s.matchIndices path).Pairwise (· < ·) := by
  -- Numbering gives ascending positions, and leaving some out keeps them so.
  have hpositions : s.members.zipIdx.Pairwise fun a b => a.2 < b.2 := by
    apply List.pairwise_map.1
    rw [List.zipIdx_map_snd]
    exact List.pairwise_lt_range'
  refine hpositions.filterMap _ ?_
  rintro ⟨⟨g, scope⟩, i⟩ ⟨⟨g', scope'⟩, j⟩ hij a ha b hb
  rw [Option.ite_none_right_eq_some, Option.some.injEq] at ha hb
  exact ha.2 ▸ hb.2 ▸ hij

/-- Positions are determined by their order and by which of them there are. -/
theorem eq_matchIndices {indices : List Nat} (hsorted : indices.Pairwise (· < ·))
    (h : ∀ i, i ∈ indices ↔ ∃ m, s.members[i]? = some m ∧ m.1.isMatch m.2 path = true) :
    indices = s.matchIndices path :=
  hsorted.eq_of_mem_iff (pairwise_matchIndices s path) fun i => (h i).trans mem_matchIndices_iff.symm

/-- Globs that follow others answer as they do alone, at positions behind those of the others. -/
theorem matchIndices_append (s t : GlobSet) (path : Text) :
    matchIndices ⟨s.members ++ t.members⟩ path =
      s.matchIndices path ++ (t.matchIndices path).map (· + s.size) := by
  rw [matchIndices, List.zipIdx_append, List.filterMap_append, Nat.zero_add]
  congr 1
  rw [List.zipIdx_eq_map_add, List.filterMap_map, matchIndices, List.map_filterMap]
  refine List.filterMap_congr fun m _ => ?_
  rcases m with ⟨⟨g, scope⟩, j⟩
  by_cases hmatch : g.isMatch scope path = true
  · simp [hmatch, size, Nat.add_comm]
  · simp [hmatch]

end Matching

/-! ## One attempt for all globs -/

/-- The pattern that a glob of a list is written as, construct by construct. -/
def WrittenAs (entry : Text × WildcardScope) (body : Pattern) : Prop :=
  ∃ items, Glob.Reads none entry.1 items ∧ body = Glob.pattern entry.2 items

section Memberwise

variable {globs globs' : List (Text × WildcardScope)} {members members' : List (Glob × WildcardScope)}
variable {bodies : List Pattern} {s s' : GlobSet} {i : Nat} {path : Text}

theorem exists_forall₂_writtenAs (h : List.Forall₂ ReadAs globs members) :
    ∃ bodies, List.Forall₂ WrittenAs globs bodies := by
  induction h with
  | nil => exact ⟨[], .nil⟩
  | cons hentry _ ih =>
      rcases Glob.exists_reads hentry.1 with ⟨items, hitems⟩
      rcases ih with ⟨bodies, hbodies⟩
      exact ⟨_, .cons ⟨items, hitems, rfl⟩ hbodies⟩

/-- The pattern of a glob spells the language of the member it is read as. -/
theorem WrittenAs.spells {entry : Text × WildcardScope} {body : Pattern} {m : Glob × WildcardScope}
    (hbody : WrittenAs entry body) (hentry : ReadAs entry m) : body.Spells (m.1.language m.2) := by
  rcases hbody with ⟨items, hitems, rfl⟩
  have hpieces : m.1 = items.map Glob.Item.piece :=
    Except.ok.inj (hentry.1.symm.trans (Glob.parse_of_reads hitems))
  rw [hpieces, Glob.language_map_piece, hentry.2]
  exact Glob.spells_pattern items

theorem forall₂_spells (hread : List.Forall₂ ReadAs globs members)
    (hbodies : List.Forall₂ WrittenAs globs bodies) :
    List.Forall₂ Pattern.Spells bodies (members.map fun m => m.1.language m.2) := by
  induction hread generalizing bodies with
  | nil =>
      cases hbodies
      exact .nil
  | cons hentry _ ih =>
      cases hbodies with
      | cons hbody hbodies => exact .cons (hbody.spells hentry) (ih hbodies)

/-- A match of the welded pattern passes the groups of the globs that match, and no others. -/
theorem passed_weld_eq (hs : compile globs = .ok s) (hbodies : List.Forall₂ WrittenAs globs bodies)
    (path : Text) : (Pattern.weld bodies).passed? path = some (s.matchIndices path) := by
  have hspells := forall₂_spells (compile_eq_ok_iff.1 hs) hbodies
  rcases Pattern.exists_passed_weld hspells path with ⟨indices, hpassed, hsorted, hmem⟩
  rw [hpassed, eq_matchIndices hsorted]
  -- Both lists ascend, so it is enough that they have the same members.
  intro i
  rw [hmem]
  constructor
  · rintro ⟨L, hL, hpath⟩
    rw [List.getElem?_map, Option.map_eq_some_iff] at hL
    rcases hL with ⟨m, hm, rfl⟩
    exact ⟨m, hm, (Glob.isMatch_iff_mem_language m.2 m.1 path).2 hpath⟩
  · rintro ⟨m, hm, hmatch⟩
    refine ⟨_, by rw [List.getElem?_map, hm]; rfl, ?_⟩
    exact (Glob.isMatch_iff_mem_language m.2 m.1 path).1 hmatch

/-! ## Sets answer glob by glob -/

theorem rel_getElem? (h : List.Forall₂ ReadAs globs members) (i : Nat) :
    Option.Rel ReadAs globs[i]? members[i]? := by
  induction h generalizing i with
  | nil => exact .none
  | cons hentry _ ih =>
      cases i with
      | zero => exact .some hentry
      | succ i => exact ih i

/-- The position of a glob is reported exactly when the glob alone matches the path. -/
theorem mem_matchIndices_iff_alone (hs : compile globs = .ok s) :
    i ∈ s.matchIndices path ↔ ∃ text scope g, globs[i]? = some (text, scope) ∧
      Glob.parse text = .ok g ∧ g.isMatch scope path = true := by
  have hrel := rel_getElem? (compile_eq_ok_iff.1 hs) i
  rw [mem_matchIndices_iff]
  constructor
  · rintro ⟨m, hm, hmatch⟩
    rw [hm] at hrel
    generalize hentry : globs[i]? = entry? at hrel
    cases hrel with
    | some hread => exact ⟨_, _, m.1, rfl, hread.1, hread.2 ▸ hmatch⟩
  · rintro ⟨text, scope, g, hentry, hg, hmatch⟩
    rw [hentry] at hrel
    generalize s.members[i]? = member? at hrel
    cases hrel with
    | @some _ m hread =>
        refine ⟨m, rfl, ?_⟩
        rw [hread.2, Except.ok.inj (hread.1.symm.trans hg)]
        exact hmatch

theorem compile_append (hs : compile globs = .ok s) (hs' : compile globs' = .ok s') :
    compile (globs ++ globs') = .ok ⟨s.members ++ s'.members⟩ :=
  compile_eq_ok_iff.2 (List.rel_append (compile_eq_ok_iff.1 hs) (compile_eq_ok_iff.1 hs'))

theorem size_eq_length (hs : compile globs = .ok s) : s.size = globs.length :=
  (compile_eq_ok_iff.1 hs).length_eq.symm

/-- A list of globs becomes a set if and only if every glob can be read, and otherwise the first that
cannot is reported.  The set reports, in ascending order, the positions of the globs that match when
each is taken alone, which is also what one attempt at the welded pattern of the globs finds; and the
globs of a second list behind the first are reported as they are alone, behind those of the first. -/
theorem compile_memberwise (globs : List (Text × WildcardScope)) :
    ((∃ s, compile globs = .ok s) ↔ ∀ entry ∈ globs, Valid entry) ∧
      (∀ e, compile globs = .error e ↔ FirstInvalid globs e.index e.glob e.fault) ∧
      ∀ s, compile globs = .ok s →
        (∀ path, (s.matchIndices path).Pairwise (· < ·) ∧
          ∀ i, i ∈ s.matchIndices path ↔ ∃ text scope g, globs[i]? = some (text, scope) ∧
            Glob.parse text = .ok g ∧ g.isMatch scope path = true) ∧
        (∃ bodies, List.Forall₂ WrittenAs globs bodies) ∧
        (∀ bodies, List.Forall₂ WrittenAs globs bodies → ∀ path,
          (Pattern.weld bodies).passed? path = some (s.matchIndices path)) ∧
        ∀ globs' s', compile globs' = .ok s' → ∃ both, compile (globs ++ globs') = .ok both ∧
          ∀ path, both.matchIndices path =
            s.matchIndices path ++ (s'.matchIndices path).map (· + globs.length) := by
  refine ⟨exists_compile_eq_ok_iff, fun e => compile_eq_error_iff, fun s hs => ⟨?_, ?_, ?_, ?_⟩⟩
  · exact fun path => ⟨pairwise_matchIndices s path, fun i => mem_matchIndices_iff_alone hs⟩
  · exact exists_forall₂_writtenAs (compile_eq_ok_iff.1 hs)
  · exact fun bodies hbodies path => passed_weld_eq hs hbodies path
  · intro globs' s' hs'
    refine ⟨_, compile_append hs hs', fun path => ?_⟩
    rw [matchIndices_append, size_eq_length hs]

/-- Two globs that are read as a set, of which one matches the path; and a list with a glob that cannot be
read, which is reported under its position. -/
theorem compile_memberwise_two :
    (∃ s, compile [("*.o".toList, .component), ("**/a".toList, .component)] = .ok s ∧
      1 ∈ s.matchIndices "x/a".toList ∧ 0 ∉ s.matchIndices "x/a".toList) ∧
    FirstInvalid [("*.o".toList, .component), ("a]\x7b".toList, .wholePath), ("[".toList, .wholePath)] 1
      "a]\x7b".toList .unclosedAlternates := by
  have hobject : Glob.parse "*.o".toList = .ok [.token .anyRun, .token (.char '.'), .token (.char 'o')] := by
    decide +kernel
  have hdeep : Glob.parse "**/a".toList = .ok [.token .anyDirs, .token (.char 'a')] := by decide +kernel
  obtain ⟨haccepted, -, hset⟩ :=
    compile_memberwise [("*.o".toList, .component), ("**/a".toList, .component)]
  obtain ⟨-, hrefused, -⟩ := compile_memberwise
    [("*.o".toList, .component), ("a]\x7b".toList, .wholePath), ("[".toList, .wholePath)]
  constructor
  · obtain ⟨s, hs⟩ := haccepted.2
      (List.forall_mem_cons.2 ⟨⟨_, hobject⟩, List.forall_mem_singleton.2 ⟨_, hdeep⟩⟩)
    obtain ⟨-, hmem⟩ := (hset s hs).1 "x/a".toList
    refine ⟨s, hs, (hmem 1).2 ⟨_, _, _, rfl, hdeep, by decide⟩, fun hzero => ?_⟩
    obtain ⟨text, scope, g, hentry, hg, hmatch⟩ := (hmem 0).1 hzero
    cases hentry
    rw [hobject] at hg
    cases hg
    exact absurd hmatch (by decide)
  · exact (hrefused ⟨1, "a]\x7b".toList, .unclosedAlternates⟩).1 (by decide +kernel)

end Memberwise

end GlobSet

end IgnoreRules
