import IgnoreRules.Statistics
import IgnoreRules.Proofs.FileSystem.Folder
import IgnoreRules.Proofs.RuleSet.Verdict
import Mathlib.Data.List.Pairwise

/-!
# The files of a walk

A walk keeps a file if neither its own name nor that of a directory on the way to it is hidden, and the
rules ignore neither it nor a directory on the way.  It meets the files it keeps in an order that
depends on their names alone: the files of a directory before what is inside its subdirectories, and
both by name.

* `Walk.Kept` : what it takes for a file to be kept;
* `Walk.Precedes` : which of two files comes first;
* `Walk.stops_eq` : the stops of a folder, entry by entry;
* `Walk.mem_files_iff`, `Walk.pairwise_files` : which files are met, and in which order.
-/

namespace IgnoreRules

/-! ## The order of names -/

namespace Text

theorem le_iff {a b : Text} : le a b = true ↔ ¬b < a := by
  simp [le]

theorem lt_of_not_lt_of_ne {a b : Text} (hle : ¬b < a) (hne : a ≠ b) : a < b := by
  by_contra hlt
  exact hne (List.le_antisymm (List.not_lt.1 hle) (List.not_lt.1 hlt))

theorem le_trans (a b c : Text) (hab : le a b = true) (hbc : le b c = true) : le a c = true := by
  have hab' := List.not_lt.1 (le_iff.1 hab)
  have hbc' := List.not_lt.1 (le_iff.1 hbc)
  exact le_iff.2 (List.not_lt.2 (List.le_trans hab' hbc'))

theorem le_total (a b : Text) : (le a b || le b a) = true := by
  rw [Bool.or_eq_true, le_iff, le_iff, List.not_lt, List.not_lt]
  exact List.le_total a b

end Text

/-- What some names lead to from a path. -/
def Path.below (here : Path) (names : List Text) : Path :=
  ⟨here.anchor, here.parts ++ names⟩

theorem Path.below_injective {here : Path} {as bs : List Text} (h : here.below as = here.below bs) :
    as = bs :=
  List.append_cancel_left (congrArg Path.parts h)

theorem Path.below_child (here : Path) (name : Text) (names : List Text) :
    (here.child name).below names = here.below (name :: names) := by
  unfold Path.below Path.child
  rw [List.append_assoc]
  rfl

namespace Walk

/-! ## Before and behind -/

/-- The order in which files are met, by the names that lead to them: in a directory its own files come
first, then what its subdirectories hold, each by name. -/
inductive Precedes : List Text → List Text → Prop
  | files {a b : Text} : a < b → Precedes [a] [b]
  | fileFirst {a b b' : Text} {bs : List Text} : Precedes [a] (b :: b' :: bs)
  | folders {a a' b b' : Text} {as bs : List Text} :
      a < b → Precedes (a :: a' :: as) (b :: b' :: bs)
  | inside {a : Text} {as bs : List Text} : Precedes as bs → Precedes (a :: as) (a :: bs)

theorem Precedes.ne_nil {as bs : List Text} (h : Precedes as bs) : as ≠ [] ∧ bs ≠ [] := by
  cases h with
  | files _ => exact ⟨List.cons_ne_nil _ _, List.cons_ne_nil _ _⟩
  | fileFirst => exact ⟨List.cons_ne_nil _ _, List.cons_ne_nil _ _⟩
  | folders _ => exact ⟨List.cons_ne_nil _ _, List.cons_ne_nil _ _⟩
  | inside _ => exact ⟨List.cons_ne_nil _ _, List.cons_ne_nil _ _⟩

/-- Of two files only one precedes the other. -/
theorem Precedes.asymm {as bs : List Text} (h : Precedes as bs) : ¬Precedes bs as := by
  induction h with
  | files hab =>
      intro hback
      cases hback with
      | files hba => exact List.lt_asymm hab hba
      | inside hnil => exact hnil.ne_nil.1 rfl
  | fileFirst =>
      intro hback
      cases hback with
      | inside hnil => exact hnil.ne_nil.2 rfl
  | folders hab =>
      intro hback
      cases hback with
      | folders hba => exact List.lt_asymm hab hba
      | inside _ => exact List.lt_irrefl _ hab
  | inside hinside ih =>
      intro hback
      cases hback with
      | files haa => exact List.lt_irrefl _ haa
      | fileFirst => exact hinside.ne_nil.2 rfl
      | folders haa => exact List.lt_irrefl _ haa
      | inside hback => exact ih hback

/-- The same order on the paths that the names lead to from a directory. -/
def Before (here p q : Path) : Prop :=
  ∃ as bs, p = here.below as ∧ q = here.below bs ∧ Precedes as bs

theorem Before.asymm {here p q : Path} (h : Before here p q) : ¬Before here q p := by
  intro hback
  obtain ⟨as, bs, rfl, rfl, hab⟩ := h
  obtain ⟨bs', as', hbs, has, hba⟩ := hback
  rw [← Path.below_injective hbs, ← Path.below_injective has] at hba
  exact hab.asymm hba

theorem Before.of_child {here p q : Path} {name : Text} (h : Before (here.child name) p q) :
    Before here p q := by
  obtain ⟨as, bs, rfl, rfl, hab⟩ := h
  exact ⟨name :: as, name :: bs, Path.below_child here name as, Path.below_child here name bs,
    .inside hab⟩

/-! ## Files that are kept -/

/-- The file that some directories and then a name lead to is kept: it is there, it is neither hidden
nor ignored, and neither is a directory on the way. -/
structure Kept (rules : RuleSet) (here : Path) (folder : Folder) (dirs : List Text) (name : Text) :
    Prop where
  file : ∃ content, folder.nodeAt? (dirs ++ [name]) = some (.file content)
  visible : isHidden name = false
  unignored : rules.isIgnored (here.below (dirs ++ [name])) false = false
  through : ∀ front d, front ++ [d] <+: dirs →
    isHidden d = false ∧ rules.isIgnored (here.below (front ++ [d])) true = false

section Kept

variable {rules : RuleSet} {here : Path} {folder : Folder} {dirs : List Text} {name d : Text}

/-- A file of the folder itself has no directory on the way. -/
theorem kept_nil_iff :
    Kept rules here folder [] name ↔ (∃ content, folder.find? name = some (.file content)) ∧
      isHidden name = false ∧ rules.isIgnored (here.child name) false = false := by
  constructor
  · rintro ⟨⟨content, hfile⟩, hvisible, hunignored, -⟩
    rw [List.nil_append, Folder.nodeAt?_singleton] at hfile
    exact ⟨⟨content, hfile⟩, hvisible, hunignored⟩
  · rintro ⟨⟨content, hfile⟩, hvisible, hunignored⟩
    refine ⟨⟨content, (folder.nodeAt?_singleton name).trans hfile⟩, hvisible, hunignored, ?_⟩
    intro front d hway
    exact absurd (List.prefix_nil.1 hway) (List.append_ne_nil_of_right_ne_nil _ (List.cons_ne_nil d []))

/-- A file further down is kept in the first directory on the way to it, which is kept itself. -/
theorem kept_cons_iff :
    Kept rules here folder (d :: dirs) name ↔ ∃ inside, folder.find? d = some (.folder inside) ∧
      isHidden d = false ∧ rules.isIgnored (here.child d) true = false ∧
        Kept rules (here.child d) inside dirs name := by
  have hway : ∀ (front : List Text) (e : Text), front ++ [e] <+: d :: dirs ↔
      front = [] ∧ e = d ∨ ∃ rest, front = d :: rest ∧ rest ++ [e] <+: dirs := by
    intro front e
    cases front with
    | nil => simp
    | cons first rest => simp [List.cons_prefix_cons, and_comm, eq_comm]
  constructor
  · rintro ⟨⟨content, hfile⟩, hvisible, hunignored, hthrough⟩
    have hfirst := hthrough [] d ((hway [] d).2 (Or.inl ⟨rfl, rfl⟩))
    rw [List.cons_append, Folder.nodeAt?] at hfile
    cases hfound : folder.find? d with
    | none =>
        rw [hfound] at hfile
        cases hfile
    | some node =>
        rw [hfound] at hfile
        cases node with
        | file bytes => simp at hfile
        | folder inside =>
            refine ⟨inside, rfl, hfirst.1, hfirst.2, ⟨content, hfile⟩, hvisible, ?_, ?_⟩
            · rw [Path.below_child]
              exact hunignored
            · intro front e hfront
              rw [Path.below_child]
              exact hthrough (d :: front) e ((hway _ e).2 (Or.inr ⟨front, rfl, hfront⟩))
  · rintro ⟨inside, hfound, hdvisible, hdunignored, ⟨content, hfile⟩, hvisible, hunignored, hthrough⟩
    refine ⟨⟨content, ?_⟩, hvisible, ?_, ?_⟩
    · rw [List.cons_append, Folder.nodeAt?, hfound]
      exact hfile
    · rw [Path.below_child] at hunignored
      exact hunignored
    · intro front e hfront
      rcases (hway front e).1 hfront with ⟨rfl, rfl⟩ | ⟨rest, rfl, hrest⟩
      · exact ⟨hdvisible, hdunignored⟩
      · have hrest' := hthrough rest e hrest
        rw [Path.below_child] at hrest'
        exact hrest'

end Kept

/-! ## Stops -/

/-- The stop at an entry. -/
def stopOf (rules : RuleSet) (here : Path) : Text × Node → Stop
  | (name, .file _) => ⟨name, Visit.of rules (here.child name) false, []⟩
  | (name, .folder inside) =>
      let own := Visit.of rules (here.child name) true
      ⟨name, own, if own.isKept then visits rules (here.child name) inside else []⟩

section Stops

variable {rules : RuleSet} {here : Path} {folder : Folder} {stop : Stop} {p : Path}

/-- A folder is walked through entry by entry, hidden ones left out. -/
theorem stops_eq (rules : RuleSet) (here : Path) (folder : Folder) :
    stops rules here folder =
      (folder.entries.filter fun e => !isHidden e.1).map (stopOf rules here) := by
  have hcons : ∀ (e : Text × Node) (rest : List (Text × Node)),
      ((e :: rest).filter fun e => !isHidden e.1).map (stopOf rules here) =
        if isHidden e.1 then (rest.filter fun e => !isHidden e.1).map (stopOf rules here)
        else stopOf rules here e :: (rest.filter fun e => !isHidden e.1).map (stopOf rules here) := by
    intro e rest
    rw [List.filter_cons]
    cases isHidden e.1 with
    | true => rfl
    | false => rfl
  induction folder with
  | empty => rfl
  | file name content rest ih =>
      rw [stops, Folder.entries, hcons, ih]
      rfl
  | folder name inside rest _ ih =>
      rw [stops, Folder.entries, hcons, ih]
      rfl

theorem mem_stops_iff :
    stop ∈ stops rules here folder ↔
      ∃ name node, (name, node) ∈ folder.entries ∧ isHidden name = false ∧
        stop = stopOf rules here (name, node) := by
  rw [stops_eq, List.mem_map]
  constructor
  · rintro ⟨⟨name, node⟩, hmem, rfl⟩
    rcases List.mem_filter.1 hmem with ⟨hentry, hvisible⟩
    exact ⟨name, node, hentry, Bool.not_eq_true' _ ▸ hvisible, rfl⟩
  · rintro ⟨name, node, hentry, hvisible, rfl⟩
    exact ⟨(name, node), List.mem_filter.2 ⟨hentry, by rw [hvisible]; rfl⟩, rfl⟩

theorem name_stopOf (e : Text × Node) : (stopOf rules here e).name = e.1 := by
  rcases e with ⟨name, node⟩
  cases node with
  | file content => rfl
  | folder inside => rfl

theorem path_of_mem_stops (h : stop ∈ stops rules here folder) :
    stop.visit.path = here.below [stop.name] := by
  obtain ⟨name, node, -, -, rfl⟩ := mem_stops_iff.1 h
  cases node with
  | file content => rfl
  | folder inside => rfl

theorem isKept_of (rules : RuleSet) (path : Path) (isDir : Bool) :
    (Visit.of rules path isDir).isKept = !rules.isIgnored path isDir := by
  unfold Visit.of Visit.isKept RuleSet.isIgnored
  cases rules.deciding? path isDir with
  | none => rfl
  | some found => exact (Bool.not_not _).symm

/-- Stops in the order of their names, of which none stands twice, are in strict order. -/
theorem pairwise_sorted {l : List Stop} (h : (l.map (·.name)).Nodup) :
    (sorted l).Pairwise fun a b => a.name < b.name := by
  have hle : (sorted l).Pairwise fun a b => Text.le a.name b.name = true :=
    List.pairwise_mergeSort (fun a b c => Text.le_trans a.name b.name c.name)
      (fun a b => Text.le_total a.name b.name) l
  have hne : (sorted l).Pairwise fun a b => a.name ≠ b.name := by
    have hperm : ((sorted l).map (·.name)).Nodup := ((List.mergeSort_perm l _).map _).nodup_iff.2 h
    exact List.pairwise_map.1 hperm
  exact (hle.and hne).imp fun hab => Text.lt_of_not_lt_of_ne (Text.le_iff.1 hab.1) hab.2

theorem nodup_names_stops (h : folder.Distinct) :
    ((stops rules here folder).map (·.name)).Nodup := by
  have hnames : (stops rules here folder).map (·.name) =
      (folder.entries.filter fun e => !isHidden e.1).map (·.1) := by
    rw [stops_eq, List.map_map]
    exact List.map_congr_left fun e _ => name_stopOf e
  rw [hnames]
  exact h.nodup_names.sublist (List.filter_sublist.map _)

end Stops

/-! ## Which files are met, and in which order -/

section Files

variable {rules : RuleSet} {here : Path} {folder : Folder} {p : Path}

theorem filesOf_append (a b : List Visit) : filesOf (a ++ b) = filesOf a ++ filesOf b := by
  unfold filesOf
  rw [List.filter_append, List.map_append]

theorem mem_filesOf_iff {vs : List Visit} :
    p ∈ filesOf vs ↔ ∃ v ∈ vs, v.isDir = false ∧ v.isKept = true ∧ v.path = p := by
  unfold filesOf
  simp only [List.mem_map, List.mem_filter, Bool.and_eq_true, Bool.not_eq_true', and_assoc]

theorem filesOf_flatMap (l : List Stop) :
    filesOf (l.flatMap (·.inside)) = l.flatMap fun s => filesOf s.inside := by
  induction l with
  | nil => rfl
  | cons s l ih => rw [List.flatMap_cons, filesOf_append, ih, List.flatMap_cons]

/-- The verdicts on the subdirectories, which come first, give no file. -/
theorem filesOf_folders (l : List Stop) :
    filesOf ((l.filter (·.visit.isDir)).map (·.visit)) = [] := by
  rw [List.eq_nil_iff_forall_not_mem]
  intro p hp
  obtain ⟨v, hv, hfile, -, -⟩ := mem_filesOf_iff.1 hp
  obtain ⟨s, hs, rfl⟩ := List.mem_map.1 hv
  have hdir : s.visit.isDir = true := (List.mem_filter.1 hs).2
  rw [hfile] at hdir
  cases hdir

/-- The files of a directory come first, what is inside its subdirectories follows. -/
theorem files_eq (rules : RuleSet) (here : Path) (folder : Folder) :
    files rules here folder =
      filesOf ((sorted ((stops rules here folder).filter fun s => !s.visit.isDir)).map (·.visit)) ++
        (sorted ((stops rules here folder).filter (·.visit.isDir))).flatMap fun s =>
          filesOf s.inside := by
  unfold files visits arrange
  simp only
  rw [filesOf_append, filesOf_append, filesOf_folders, List.nil_append, filesOf_flatMap]

/-- A stop at a file that is kept is a file that is listed, neither hidden nor ignored. -/
theorem exists_fileStop_iff :
    (∃ s ∈ stops rules here folder,
        s.visit.isDir = false ∧ s.visit.isKept = true ∧ s.visit.path = p) ↔
      ∃ name content, (name, Node.file content) ∈ folder.entries ∧ isHidden name = false ∧
        rules.isIgnored (here.child name) false = false ∧ p = here.child name := by
  constructor
  · rintro ⟨s, hs, hfile, hkept, hpath⟩
    obtain ⟨name, node, hentry, hvisible, rfl⟩ := mem_stops_iff.1 hs
    cases node with
    | folder inside => cases hfile
    | file content =>
        have hunignored : (!rules.isIgnored (here.child name) false) = true := by
          rw [← isKept_of]
          exact hkept
        exact ⟨name, content, hentry, hvisible, by simpa using hunignored, hpath.symm⟩
  · rintro ⟨name, content, hentry, hvisible, hunignored, rfl⟩
    refine ⟨_, mem_stops_iff.2 ⟨name, .file content, hentry, hvisible, rfl⟩, rfl, ?_, rfl⟩
    have hkept : (Visit.of rules (here.child name) false).isKept = true := by
      rw [isKept_of, hunignored]
      rfl
    exact hkept

/-- Inside the stop at a subdirectory are the files below it, unless it is ignored. -/
theorem filesOf_inside_stopOf (rules : RuleSet) (here : Path) (name : Text) (inside : Folder) :
    filesOf (stopOf rules here (name, .folder inside)).inside =
      if rules.isIgnored (here.child name) true then [] else files rules (here.child name) inside := by
  unfold stopOf
  simp only [isKept_of]
  cases rules.isIgnored (here.child name) true with
  | true => rfl
  | false => rfl

/-- A file inside a stop is a file of a subdirectory that is neither hidden nor ignored. -/
theorem exists_insideStop_iff :
    (∃ s ∈ stops rules here folder, s.visit.isDir = true ∧ p ∈ filesOf s.inside) ↔
      ∃ name inside, (name, Node.folder inside) ∈ folder.entries ∧ isHidden name = false ∧
        rules.isIgnored (here.child name) true = false ∧
          p ∈ files rules (here.child name) inside := by
  have hinside : ∀ name inside, p ∈ filesOf (stopOf rules here (name, .folder inside)).inside ↔
      rules.isIgnored (here.child name) true = false ∧ p ∈ files rules (here.child name) inside := by
    intro name inside
    rw [filesOf_inside_stopOf]
    cases rules.isIgnored (here.child name) true with
    | true => simp
    | false => simp
  constructor
  · rintro ⟨s, hs, hdir, hp⟩
    obtain ⟨name, node, hentry, hvisible, rfl⟩ := mem_stops_iff.1 hs
    cases node with
    | file content => cases hdir
    | folder inside =>
        obtain ⟨hunignored, hp⟩ := (hinside name inside).1 hp
        exact ⟨name, inside, hentry, hvisible, hunignored, hp⟩
  · rintro ⟨name, inside, hentry, hvisible, hunignored, hp⟩
    exact ⟨_, mem_stops_iff.2 ⟨name, .folder inside, hentry, hvisible, rfl⟩, rfl,
      (hinside name inside).2 ⟨hunignored, hp⟩⟩

/-- A file that is met is one of the directory itself or one inside a subdirectory that is kept. -/
theorem mem_files_step :
    p ∈ files rules here folder ↔
      (∃ name content, (name, Node.file content) ∈ folder.entries ∧ isHidden name = false ∧
        rules.isIgnored (here.child name) false = false ∧ p = here.child name) ∨
      ∃ name inside, (name, Node.folder inside) ∈ folder.entries ∧ isHidden name = false ∧
        rules.isIgnored (here.child name) true = false ∧
          p ∈ files rules (here.child name) inside := by
  -- Sorting and setting files and subdirectories apart loses no stop and adds none.
  rw [← exists_fileStop_iff, ← exists_insideStop_iff, files_eq, List.mem_append, mem_filesOf_iff]
  simp only [List.mem_map, List.mem_flatMap, sorted, List.mem_mergeSort, List.mem_filter]
  constructor
  · rintro (⟨_, ⟨s, ⟨hs, -⟩, rfl⟩, hfile⟩ | ⟨s, ⟨hs, hdir⟩, hp⟩)
    · exact Or.inl ⟨s, hs, hfile⟩
    · exact Or.inr ⟨s, hs, hdir, hp⟩
  · rintro (⟨s, hs, hfile⟩ | ⟨s, hs, hdir, hp⟩)
    · exact Or.inl ⟨s.visit, ⟨s, ⟨hs, by rw [hfile.1]; rfl⟩, rfl⟩, hfile⟩
    · exact Or.inr ⟨s, ⟨hs, hdir⟩, hp⟩

/-- A walk meets exactly the files that are kept. -/
theorem mem_files_iff (h : folder.Distinct) :
    p ∈ files rules here folder ↔
      ∃ dirs name, p = here.below (dirs ++ [name]) ∧ Kept rules here folder dirs name := by
  -- The directory is arbitrary, for what is inside a subdirectory lies below another path.
  induction folder using Folder.nested_induction generalizing here with
  | step folder ih =>
      rw [mem_files_step]
      constructor
      · rintro (⟨name, content, hentry, hvisible, hunignored, rfl⟩ |
          ⟨d, inside, hentry, hvisible, hunignored, hp⟩)
        · have hfile := (Folder.find?_eq_some_iff h).2 hentry
          exact ⟨[], name, rfl, kept_nil_iff.2 ⟨⟨content, hfile⟩, hvisible, hunignored⟩⟩
        · obtain ⟨dirs, name, rfl, hkept⟩ := (ih d inside hentry (h.of_mem hentry)).1 hp
          have hfolder := (Folder.find?_eq_some_iff h).2 hentry
          exact ⟨d :: dirs, name, Path.below_child here d (dirs ++ [name]),
            kept_cons_iff.2 ⟨inside, hfolder, hvisible, hunignored, hkept⟩⟩
      · rintro ⟨dirs, name, rfl, hkept⟩
        cases dirs with
        | nil =>
            obtain ⟨⟨content, hfile⟩, hvisible, hunignored⟩ := kept_nil_iff.1 hkept
            exact Or.inl ⟨name, content, Folder.mem_of_find? hfile, hvisible, hunignored, rfl⟩
        | cons d dirs =>
            obtain ⟨inside, hfolder, hvisible, hunignored, hkept⟩ := kept_cons_iff.1 hkept
            have hentry := Folder.mem_of_find? hfolder
            have hp := (ih d inside hentry (h.of_mem hentry)).2
              ⟨dirs, name, (Path.below_child here d (dirs ++ [name])).symm, hkept⟩
            exact Or.inr ⟨d, inside, hentry, hvisible, hunignored, hp⟩

/-- Where a file inside a stop lies. -/
theorem exists_below_of_mem_inside {s : Stop} (h : folder.Distinct)
    (hs : s ∈ stops rules here folder) (hdir : s.visit.isDir = true) (hp : p ∈ filesOf s.inside) :
    ∃ a as, p = here.below (s.name :: a :: as) := by
  obtain ⟨name, node, hentry, -, rfl⟩ := mem_stops_iff.1 hs
  cases node with
  | file content => cases hdir
  | folder inside =>
      have hfile : p ∈ files rules (here.child name) inside := by
        rw [filesOf_inside_stopOf] at hp
        split at hp
        · cases hp
        · exact hp
      obtain ⟨dirs, last, hpath, -⟩ := (mem_files_iff (h.of_mem hentry)).1 hfile
      rw [Path.below_child] at hpath
      cases dirs with
      | nil => exact ⟨last, [], hpath⟩
      | cons d dirs => exact ⟨d, dirs ++ [last], hpath⟩

/-- A walk meets the files one before the other. -/
theorem pairwise_files (h : folder.Distinct) :
    (files rules here folder).Pairwise (Before here) := by
  induction folder using Folder.nested_induction generalizing here with
  | step folder ih =>
      have hsorted : ∀ q : Stop → Bool,
          (sorted ((stops rules here folder).filter q)).Pairwise fun s t => s.name < t.name :=
        fun q => pairwise_sorted ((nodup_names_stops h).sublist (List.filter_sublist.map _))
      have hmem : ∀ q : Stop → Bool, ∀ s ∈ sorted ((stops rules here folder).filter q),
          s ∈ stops rules here folder ∧ q s = true := by
        intro q s hs
        exact List.mem_filter.1 (List.mem_mergeSort.1 hs)
      rw [files_eq, List.pairwise_append]
      refine ⟨?_, List.pairwise_flatMap.2 ⟨?_, ?_⟩, ?_⟩
      · -- Files of the directory itself.
        unfold filesOf
        rw [List.pairwise_map, List.pairwise_filter, List.pairwise_map]
        refine (hsorted _).imp_of_mem ?_
        intro s t hs ht hst _ _
        exact ⟨[s.name], [t.name], path_of_mem_stops (hmem _ s hs).1,
          path_of_mem_stops (hmem _ t ht).1, .files hst⟩
      · -- Files inside one subdirectory.
        intro s hs
        obtain ⟨hstop, hdir⟩ := hmem _ s hs
        obtain ⟨name, node, hentry, -, rfl⟩ := mem_stops_iff.1 hstop
        cases node with
        | file content => cases hdir
        | folder inside =>
            rw [filesOf_inside_stopOf]
            split
            · exact .nil
            · exact (ih name inside hentry (h.of_mem hentry)).imp Before.of_child
      · -- Files inside two subdirectories.
        refine (hsorted _).imp_of_mem ?_
        intro s t hs ht hst p hp q hq
        obtain ⟨a, as, rfl⟩ := exists_below_of_mem_inside h (hmem _ s hs).1 (hmem _ s hs).2 hp
        obtain ⟨b, bs, rfl⟩ := exists_below_of_mem_inside h (hmem _ t ht).1 (hmem _ t ht).2 hq
        exact ⟨_, _, rfl, rfl, .folders hst⟩
      · -- A file of the directory itself and one inside a subdirectory.
        intro p hp q hq
        obtain ⟨v, hv, -, -, rfl⟩ := mem_filesOf_iff.1 hp
        obtain ⟨s, hs, rfl⟩ := List.mem_map.1 hv
        obtain ⟨t, ht, hq⟩ := List.mem_flatMap.1 hq
        obtain ⟨b, bs, rfl⟩ := exists_below_of_mem_inside h (hmem _ t ht).1 (hmem _ t ht).2 hq
        exact ⟨[s.name], _, path_of_mem_stops (hmem _ s hs).1, rfl, .fileFirst⟩

/-- A walk meets no file twice. -/
theorem nodup_files (h : folder.Distinct) : (files rules here folder).Nodup := by
  refine (pairwise_files h).imp ?_
  rintro p _ hbefore rfl
  exact hbefore.asymm hbefore

/-- Which names lead to files decides what is met, and in which order. -/
theorem files_congr {folder' : Folder} (h : folder.Distinct) (h' : folder'.Distinct)
    (hsame : ∀ names, (∃ content, folder'.nodeAt? names = some (.file content)) ↔
      ∃ content, folder.nodeAt? names = some (.file content)) :
    files rules here folder' = files rules here folder := by
  have hkept : ∀ dirs name, Kept rules here folder' dirs name ↔ Kept rules here folder dirs name := by
    intro dirs name
    constructor
    · rintro ⟨hfile, hvisible, hunignored, hthrough⟩
      exact ⟨(hsame _).1 hfile, hvisible, hunignored, hthrough⟩
    · rintro ⟨hfile, hvisible, hunignored, hthrough⟩
      exact ⟨(hsame _).2 hfile, hvisible, hunignored, hthrough⟩
  have hmem : ∀ p, p ∈ files rules here folder' ↔ p ∈ files rules here folder := by
    intro p
    simp only [mem_files_iff h, mem_files_iff h', hkept]
  have hperm : (files rules here folder').Perm (files rules here folder) :=
    (List.perm_ext_iff_of_nodup (nodup_files h') (nodup_files h)).2 hmem
  -- Two lists with the same members in one strict order are the same list.
  exact hperm.eq_of_pairwise (fun p q _ _ hpq hqp => absurd hqp hpq.asymm)
    (pairwise_files h') (pairwise_files h)

end Files

end Walk

namespace World

variable {w : World} {rules : RuleSet} {root : Path} {folder : Folder}

theorem walk_fst (h : w.files.folder root = .ok folder) :
    (w.walk rules root).1 = Walk.files rules root folder := by
  unfold walk visits
  rw [h]
  rfl

/-- A walk through a directory meets every file that is kept once and nothing else, each file before
those that come after it by name.  The names alone decide: wherever the same names lead to files, in
whatever order they are listed, the walk is the same. -/
theorem walk_exact (h : w.files.folder root = .ok folder) (hd : folder.Distinct) :
    (∀ p, p ∈ (w.walk rules root).1 ↔
      ∃ dirs name, p = root.below (dirs ++ [name]) ∧ Walk.Kept rules root folder dirs name) ∧
    (w.walk rules root).1.Nodup ∧
    (w.walk rules root).1.Pairwise (Walk.Before root) ∧
    ∀ (w' : World) (folder' : Folder), w'.files.folder root = .ok folder' → folder'.Distinct →
      (∀ names, (∃ content, folder'.nodeAt? names = some (.file content)) ↔
        ∃ content, folder.nodeAt? names = some (.file content)) →
      (w'.walk rules root).1 = (w.walk rules root).1 := by
  rw [walk_fst h]
  refine ⟨fun p => Walk.mem_files_iff hd, Walk.nodup_files hd, Walk.pairwise_files hd, ?_⟩
  intro w' folder' h' hd' hsame
  rw [walk_fst h']
  exact Walk.files_congr hd hd' hsame

/-- A negated rule for a file keeps it where it is looked at, but does not bring it back from an
ignored directory. -/
theorem walk_exact_pruned :
    ∃ (w : World) (s : RuleSet),
      RuleSet.ofLines (Path.parse "/r".toList) ["b/".toList, "!b/x".toList] = .ok s ∧
      s.isIgnored (Path.parse "/r/b/x".toList) false = false ∧
      Path.parse "/r/b/x".toList ∉ (w.walk s (Path.parse "/r".toList)).1 ∧
      Path.parse "/r/x".toList ∈ (w.walk s (Path.parse "/r".toList)).1 := by
  obtain ⟨w, hfiles⟩ : ∃ w : World, w.files = ⟨.folder "r".toList
      (.folder "b".toList (.file "x".toList .empty .empty) (.file "x".toList .empty .empty))
      .empty, []⟩ :=
    ⟨.ofFiles _, rfl⟩
  have hfolder : w.files.folder (Path.parse "/r".toList) =
      .ok (.folder "b".toList (.file "x".toList .empty .empty) (.file "x".toList .empty .empty)) := by
    rw [hfiles]
    rfl
  have hdistinct : (Folder.folder "b".toList (.file "x".toList .empty .empty)
      (.file "x".toList .empty .empty)).Distinct := by
    simp [Folder.Distinct, Folder.names, Folder.entries]
  have hrules : Rule.ofLines ["b/".toList, "!b/x".toList] =
      [⟨"**/b".toList, false, true, false⟩, ⟨"**/b/x".toList, true, false, true⟩] := by decide
  have hvalid : ∀ r ∈ Rule.ofLines ["b/".toList, "!b/x".toList], ∃ g, Glob.parse r.pattern = .ok g := by
    have hdir : Glob.parse "**/b".toList = .ok [.token .anyDirs, .token (.char 'b')] := by
      decide +kernel
    have hfile : Glob.parse "**/b/x".toList =
        .ok (.token .anyDirs :: "b/x".toList.map (.token <| .char ·)) := by
      decide +kernel
    rw [hrules, List.forall_mem_cons, List.forall_mem_singleton]
    exact ⟨⟨_, hdir⟩, _, hfile⟩
  obtain ⟨s, hs⟩ : ∃ s, RuleSet.ofLines (Path.parse "/r".toList) ["b/".toList, "!b/x".toList] = .ok s :=
    RuleSet.exists_ofRules_eq_ok_iff.2 hvalid
  obtain ⟨hroot, hsrules⟩ := RuleSet.rules_of_ofLines hs
  have hdir : s.isIgnored (Path.parse "/r/b".toList) true = true := by
    rw [RuleSet.isIgnored_eq_overriding, RuleSet.candidate, hroot, hsrules]
    decide +kernel
  have hinside : s.isIgnored (Path.parse "/r/b/x".toList) false = false := by
    rw [RuleSet.isIgnored_eq_overriding, RuleSet.candidate, hroot, hsrules]
    decide +kernel
  have hbeside : s.isIgnored (Path.parse "/r/x".toList) false = false := by
    rw [RuleSet.isIgnored_eq_overriding, RuleSet.candidate, hroot, hsrules]
    decide +kernel
  have hmem : ∀ p, p ∈ (w.walk s (Path.parse "/r".toList)).1 ↔ _ := (walk_exact hfolder hdistinct).1
  refine ⟨w, s, hs, hinside, ?_, ?_⟩
  · rw [hmem]
    rintro ⟨dirs, name, hpath, hkept⟩
    -- The only names that lead there go through the directory that is ignored.
    have hparts : ["r".toList] ++ (["b".toList] ++ ["x".toList]) = ["r".toList] ++ (dirs ++ [name]) :=
      congrArg Path.parts hpath
    have hnames := List.append_cancel_left hparts
    obtain ⟨rfl, -⟩ := List.append_inj' hnames rfl
    have hunignored := (hkept.through [] "b".toList List.prefix_rfl).2
    exact absurd hdir (Bool.eq_false_iff.1 hunignored)
  · exact (hmem _).2 ⟨[], "x".toList, rfl, Walk.kept_nil_iff.2 ⟨⟨.empty, rfl⟩, rfl, hbeside⟩⟩

end World

end IgnoreRules
