import IgnoreRules.Proofs.Walk.Files
import Mathlib.Data.List.Flatten

/-!
# Two walks through one tree

A walk goes through the visible entries of a folder in an order that the rules have no part in, and
takes from each entry what the rules leave of it.  Where one set ignores whatever another does, an entry
gives it a part of what it gives the other, in the same order, and so does a whole tree.

* `Walk.ordered`, `Walk.filesAt` : the entries in order, and the files that one of them gives;
* `Walk.files_eq_flatMap` : the files of a folder, entry by entry;
* `RuleSet.Covers` : that a set ignores whatever another does;
* `Walk.files_sublist`, `World.walk_sublist` : what is left of a walk when more is ignored.
-/

namespace IgnoreRules

namespace Walk

/-! ## Entry by entry -/

/-- Entries in the order of their names. -/
def byName (entries : List (Text × Node)) : List (Text × Node) :=
  entries.mergeSort fun a b => Text.le a.1 b.1

/-- The entries of a folder that are not hidden: files first, then folders, each by name. -/
def ordered (folder : Folder) : List (Text × Node) :=
  let visible := folder.entries.filter fun e => !isHidden e.1
  byName (visible.filter fun e => !e.2.isFolder) ++ byName (visible.filter fun e => e.2.isFolder)

/-- The files that a walk meets at an entry: none if it is ignored, else itself or what is inside. -/
def filesAt (rules : RuleSet) (here : Path) (e : Text × Node) : List Path :=
  if rules.isIgnored (here.child e.1) e.2.isFolder then []
  else match e.2 with
    | .file _ => [here.child e.1]
    | .folder inside => files rules (here.child e.1) inside

section Entries

variable {rules : RuleSet} {here : Path} {folder : Folder} {entries : List (Text × Node)}

theorem mem_ordered {e : Text × Node} (h : e ∈ ordered folder) : e ∈ folder.entries := by
  have hvisible : e ∈ folder.entries.filter fun e => !isHidden e.1 := by
    cases List.mem_append.1 h with
    | inl hfile => exact List.mem_of_mem_filter (List.mem_mergeSort.1 hfile)
    | inr hfolder => exact List.mem_of_mem_filter (List.mem_mergeSort.1 hfolder)
  exact List.mem_of_mem_filter hvisible

theorem isDir_stopOf (e : Text × Node) : (stopOf rules here e).visit.isDir = e.2.isFolder := by
  cases e with
  | mk name node =>
      cases node with
      | file content => rfl
      | folder inside => rfl

/-- Stops and the entries they stand for are sorted alike. -/
theorem sorted_map_stopOf (rules : RuleSet) (here : Path) (entries : List (Text × Node)) :
    sorted (entries.map (stopOf rules here)) = (byName entries).map (stopOf rules here) := by
  symm
  apply List.map_mergeSort
  intro a _ b _
  rw [name_stopOf, name_stopOf]

/-- Stops are chosen as the entries they stand for are. -/
theorem sorted_filter_stops (rules : RuleSet) (here : Path) (folder : Folder) (q : Bool → Bool) :
    sorted ((stops rules here folder).filter fun s => q s.visit.isDir) =
      (byName ((folder.entries.filter fun e => !isHidden e.1).filter fun e => q e.2.isFolder)).map
        (stopOf rules here) := by
  have hchosen : ((fun s : Stop => q s.visit.isDir) ∘ stopOf rules here) =
      fun e : Text × Node => q e.2.isFolder :=
    funext fun e => congrArg q (isDir_stopOf e)
  rw [stops_eq, List.filter_map, hchosen, sorted_map_stopOf]

theorem filesOf_visit_of (rules : RuleSet) (path : Path) :
    filesOf [Visit.of rules path false] = if rules.isIgnored path false then [] else [path] := by
  have hchosen : (!(Visit.of rules path false).isDir && (Visit.of rules path false).isKept) =
      !rules.isIgnored path false := isKept_of rules path false
  unfold filesOf
  rw [List.filter_cons, hchosen]
  cases rules.isIgnored path false with
  | true => rfl
  | false => rfl

theorem filesOf_map_stopOf (h : ∀ e ∈ entries, e.2.isFolder = false) :
    filesOf ((entries.map (stopOf rules here)).map (·.visit)) =
      entries.flatMap (filesAt rules here) := by
  induction entries with
  | nil => rfl
  | cons e entries ih =>
      have hrest := ih fun e he => h e (List.mem_cons_of_mem _ he)
      have hfirst : filesOf [(stopOf rules here e).visit] = filesAt rules here e := by
        cases e with
        | mk name node =>
            cases node with
            | folder inside => cases h _ (List.mem_cons_self ..)
            | file content => exact filesOf_visit_of rules (here.child name)
      calc filesOf (((e :: entries).map (stopOf rules here)).map (·.visit))
          = filesOf [(stopOf rules here e).visit] ++
              filesOf ((entries.map (stopOf rules here)).map (·.visit)) :=
            filesOf_append [(stopOf rules here e).visit] _
        _ = (e :: entries).flatMap (filesAt rules here) := by
            rw [hfirst, hrest, List.flatMap_cons]

theorem flatMap_inside_stopOf (h : ∀ e ∈ entries, e.2.isFolder = true) :
    ((entries.map (stopOf rules here)).flatMap fun s => filesOf s.inside) =
      entries.flatMap (filesAt rules here) := by
  rw [List.flatMap_map]
  apply List.flatMap_congr
  intro e he
  cases e with
  | mk name node =>
      cases node with
      | file content => cases h _ he
      | folder inside => exact filesOf_inside_stopOf rules here name inside

/-- The files of a folder are those of its entries, one after the other. -/
theorem files_eq_flatMap (rules : RuleSet) (here : Path) (folder : Folder) :
    files rules here folder = (ordered folder).flatMap (filesAt rules here) := by
  have hmem : ∀ {q : Text × Node → Bool} {e} {l : List (Text × Node)},
      e ∈ byName (l.filter q) → q e = true :=
    fun h => List.of_mem_filter (List.mem_mergeSort.1 h)
  have hfiles := sorted_filter_stops rules here folder fun b => !b
  have hfolders := sorted_filter_stops rules here folder fun b => b
  unfold ordered
  rw [files_eq, hfiles, hfolders, List.flatMap_append, filesOf_map_stopOf, flatMap_inside_stopOf]
  · intro e he
    exact hmem he
  · intro e he
    have hfile := hmem he
    simpa using hfile

end Entries

end Walk

/-! ## More is ignored -/

/-- One set ignores whatever the other ignores. -/
def RuleSet.Covers (s a : RuleSet) : Prop :=
  ∀ p isDir, a.isIgnored p isDir = true → s.isIgnored p isDir = true

section Covers

variable {s a : RuleSet}

/-- An entry gives a part of the files that it gives when less is ignored, provided that the folders
inside it do. -/
theorem Walk.filesAt_sublist {here : Path} {e : Text × Node} (h : s.Covers a)
    (hinside : ∀ inside, e.2 = .folder inside →
      (files s (here.child e.1) inside).Sublist (files a (here.child e.1) inside)) :
    (filesAt s here e).Sublist (filesAt a here e) := by
  unfold filesAt
  cases hs : s.isIgnored (here.child e.1) e.2.isFolder with
  | true => exact List.nil_sublist _
  | false =>
      -- What is kept when more is ignored is kept when less is.
      have ha : a.isIgnored (here.child e.1) e.2.isFolder = false := by
        apply Bool.eq_false_iff.2
        intro hignored
        rw [h _ _ hignored] at hs
        cases hs
      rw [ha]
      cases hnode : e.2 with
      | file content => exact .refl _
      | folder inside => exact hinside inside hnode

/-- Of the files of a folder a part is left when more is ignored, in the same order. -/
theorem Walk.files_sublist (h : s.Covers a) (here : Path) (folder : Folder) :
    (files s here folder).Sublist (files a here folder) := by
  induction folder using Folder.nested_induction generalizing here with
  | step folder ih =>
      -- Both walks go through the same entries in the same order.
      rw [files_eq_flatMap, files_eq_flatMap]
      apply List.Sublist.flatMap_right
      intro e he
      apply filesAt_sublist h
      intro inside hfolder
      apply ih e.1 inside
      rw [← hfolder]
      exact mem_ordered he

/-- Of the files that a walk meets a part is left when more is ignored, in the same order. -/
theorem World.walk_sublist (h : s.Covers a) (w : World) (root : Path) :
    (w.walk s root).1.Sublist (w.walk a root).1 := by
  cases hfolder : w.files.folder root with
  | ok folder =>
      rw [walk_fst hfolder, walk_fst hfolder]
      exact Walk.files_sublist h root folder
  | error e =>
      unfold walk visits
      rw [hfolder]

end Covers

end IgnoreRules
