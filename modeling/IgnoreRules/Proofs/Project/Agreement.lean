import IgnoreRules.Proofs.FileSystem.Writing
import IgnoreRules.Proofs.Project.Run
import IgnoreRules.Proofs.Project.Spelling
import IgnoreRules.Proofs.Walk.Files

/-!
# Checking a file and walking to it

A walk does not go into an ignored directory, so it keeps a file only if no directory on the way is
ignored.  Checking a file asks the rules once, about the file itself.  The two agree on a file that is
not hidden as far as this goes: the walk keeps it exactly if neither checking the file nor checking a
directory on the way to it finds it ignored.

* `FileSystem.exists_folder_front`, `FileSystem.nodeAt?_of_node_below` : the way to a file;
* `Session.check_of_node` : what checking says about something that is there;
* `Session.check_agrees_with_walk`, `Session.check_inside_ignored` : where checking and walking agree,
  and where they do not.
-/

namespace IgnoreRules

/-! ## Spelling -/

namespace Path

variable {path : Text} {names : List Text} {dir : Path}

/-- What can be the components behind a directory in a path that was read. -/
theorem part_of_append (hpath : dir.append (parse path) = dir.below names) {part : Text}
    (hpart : part ∈ names) : part ≠ [] ∧ '/' ∉ part := by
  apply part_of_parse (t := path)
  cases habsolute : (parse path).isAbsolute with
  | true =>
      have hparse : parse path = dir.below names := by rwa [append_of_absolute habsolute] at hpath
      simp [hparse, below, hpart]
  | false =>
      rw [append_of_relative (anchor_of_relative habsolute)] at hpath
      have hnames : (parse path).parts = names := below_injective hpath
      simpa [hnames] using hpart

end Path

/-! ## The way to a file -/

namespace FileSystem

variable {fs : FileSystem} {p : Path} {front rest names : List Text} {n : Node}

/-- What lies on the way to something is a folder, and can be looked up. -/
theorem exists_folder_front (h : fs.node (p.below (front ++ rest)) = .ok n) (hrest : rest ≠ []) :
    ∃ inside, fs.node (p.below front) = .ok (.folder inside) := by
  obtain ⟨hcheck, l, hfollow, -⟩ := node_eq_ok_iff.1 h
  have hparts : (p.below (front ++ rest)).parts = (p.below front).parts ++ rest := by
    simp [Path.below]
  rw [hparts] at hfollow
  obtain ⟨here, hfront, hgo⟩ := follow_append_iff.1 hfollow
  -- The first component behind the front starts from a folder.
  obtain ⟨next, later, rfl⟩ := List.exists_cons_of_ne_nil hrest
  obtain ⟨after, hleads, -⟩ := follow_cons_iff.1 hgo
  obtain ⟨inside, hinside, -⟩ := hleads.folder
  have hanchor : (p.below front).anchor = (p.below (front ++ next :: later)).anchor := rfl
  have hcheck' : checkPath (p.below front) = .ok () := checkPath_of_front hanchor hparts hcheck
  exact ⟨inside, node_eq_ok_iff.2 ⟨hcheck', here, hfront, hinside⟩⟩

/-- Names that are not `..` lead to the same from a directory as inside it. -/
theorem nodeAt?_of_node_below (h : fs.node (p.below names) = .ok n) (hnames : names ≠ [])
    (hdown : ∀ part ∈ names, part ≠ ['.', '.']) :
    ∃ inside, fs.folder p = .ok inside ∧ inside.nodeAt? names = some n := by
  have hdir : ∃ inside, fs.node (p.below []) = .ok (.folder inside) := exists_folder_front h hnames
  have hself : p.below [] = p := by simp [Path.below]
  rw [hself] at hdir
  obtain ⟨inside, hinside⟩ := hdir
  obtain ⟨-, here, hhere, hfolder⟩ := node_eq_ok_iff.1 hinside
  obtain ⟨-, l, hfollow, hnode⟩ := node_eq_ok_iff.1 h
  obtain ⟨here', hhere', hgo⟩ := follow_append_iff.1 hfollow
  obtain rfl : here = here' := Except.ok.inj (hhere.symm.trans hhere')
  refine ⟨inside, folder_eq_ok_iff.2 hinside, ?_⟩
  rw [← hnode, eq_append_of_follow hgo hdown, Folder.nodeAt?_append hfolder]

end FileSystem

namespace Walk

variable {rules : RuleSet} {here : Path} {folder : Folder} {dirs : List Text} {name : Text}

/-- A walk meets what some names lead to if it is kept. -/
theorem below_mem_files_iff (h : folder.Distinct) :
    here.below (dirs ++ [name]) ∈ files rules here folder ↔ Kept rules here folder dirs name := by
  rw [mem_files_iff h]
  constructor
  · rintro ⟨dirs', name', hsame, hkept⟩
    obtain ⟨rfl, hname⟩ := List.append_inj' (Path.below_injective hsame) rfl
    simpa [List.singleton_inj.1 hname] using hkept
  · exact fun hkept => ⟨dirs, name, rfl, hkept⟩

theorem ne_of_not_hidden {part : Text} (h : isHidden part = false) :
    part ≠ ['.'] ∧ part ≠ ['.', '.'] := by
  constructor
  · rintro rfl
    exact absurd h (by decide)
  · rintro rfl
    exact absurd h (by decide)

end Walk

/-! ## Checking -/

namespace Session

variable {s : Session} {rules : RuleSet} {path : Text} {full : Path} {n : Node}
  {dirs : List Text} {name : Text} {content : ByteArray}

/-- Of something that is there, the rules are asked about what it is. -/
theorem check_of_node (hfull : s.project.dir.append (Path.parse path) = full)
    (hnode : s.world.files.node full = .ok n) :
    (s.check path).1 = .ok ⟨true, n.isFolder, s.verdict full n.isFolder⟩ := by
  have hfound : s.world.files.exists? full = .ok true := by
    simp [FileSystem.exists?, FileSystem.ask, hnode]
  have hfolder : s.world.files.isFolder full = .ok n.isFolder := by
    simp [FileSystem.isFolder, FileSystem.ask, hnode]
  cases hrules : s.project.rules with
  | none => simp [check, hfull, hfound, hfolder, hrules, verdict]
  | some rules => simp [check, hfull, hfound, hfolder, hrules, verdict, not_isKept_of]

/-- A directory on the way to a file is found, and judged as a directory. -/
theorem check_on_the_way (hfile : s.world.files.node (s.project.dir.below (dirs ++ [name])) = .ok n)
    (hplain : ∀ part ∈ dirs ++ [name], part ≠ [] ∧ part ≠ ['.'] ∧ '/' ∉ part)
    {front : List Text} (hfront : front <+: dirs) :
    (s.check (List.intercalate ['/'] front)).1 =
      .ok ⟨true, true, s.verdict (s.project.dir.below front) true⟩ := by
  obtain ⟨rest, rfl⟩ := hfront
  have hparse : Path.parse (List.intercalate ['/'] front) = ⟨.relative, front⟩ :=
    Path.parse_intercalate fun part hpart => hplain part (by simp [hpart])
  have hfull : s.project.dir.append (Path.parse (List.intercalate ['/'] front)) =
      s.project.dir.below front := by
    rw [hparse]
    exact Path.append_of_relative rfl
  rw [List.append_assoc] at hfile
  obtain ⟨inside, hinside⟩ := FileSystem.exists_folder_front hfile (by simp)
  exact check_of_node hfull hinside

/-- For a file below the directory of a project, spelled in any way, with no hidden component: a walk
by the rules of the project keeps it exactly if checking it does not find it ignored, nor checking any
directory on the way to it. -/
theorem check_agrees_with_walk (hrules : s.project.rules = some rules)
    (hdistinct : s.world.files.root.Distinct)
    (hpath : s.project.dir.append (Path.parse path) = s.project.dir.below (dirs ++ [name]))
    (hfile : s.world.files.node (s.project.dir.below (dirs ++ [name])) = .ok (.file content))
    (hvisible : ∀ part ∈ dirs ++ [name], Walk.isHidden part = false) :
    ∃ f, (s.check path).1 = .ok f ∧ f.found = true ∧ f.isDir = false ∧
      (s.project.dir.below (dirs ++ [name]) ∈ (s.world.walk rules s.project.dir).1 ↔
        f.isIgnored = false ∧ ∀ front d, front ++ [d] <+: dirs →
          ∃ g, (s.check (List.intercalate ['/'] (front ++ [d]))).1 = .ok g ∧
            g.found = true ∧ g.isDir = true ∧ g.isIgnored = false) := by
  have hplain : ∀ part ∈ dirs ++ [name], part ≠ [] ∧ part ≠ ['.'] ∧ '/' ∉ part := by
    intro part hpart
    obtain ⟨hne, hslash⟩ := Path.part_of_append hpath hpart
    exact ⟨hne, (Walk.ne_of_not_hidden (hvisible part hpart)).1, hslash⟩
  obtain ⟨inside, hinside, hnode⟩ : ∃ inside, s.world.files.folder s.project.dir = .ok inside ∧
      inside.nodeAt? (dirs ++ [name]) = some (.file content) :=
    FileSystem.nodeAt?_of_node_below hfile (by simp) fun part hpart =>
      (Walk.ne_of_not_hidden (hvisible part hpart)).2
  have hverdict : ∀ full isDir, s.verdict full isDir = rules.isIgnored full isDir :=
    fun full isDir => verdict_of_some hrules
  have hway : ∀ front d, front ++ [d] <+: dirs →
      (s.check (List.intercalate ['/'] (front ++ [d]))).1 =
        .ok ⟨true, true, rules.isIgnored (s.project.dir.below (front ++ [d])) true⟩ := by
    intro front d hfront
    rw [← hverdict]
    exact check_on_the_way hfile hplain hfront
  refine ⟨_, check_of_node hpath hfile, rfl, rfl, ?_⟩
  rw [World.walk_fst hinside,
    Walk.below_mem_files_iff (FileSystem.distinct_of_folder hdistinct hinside)]
  constructor
  · intro hkept
    refine ⟨(hverdict _ _).trans hkept.unignored, fun front d hfront => ?_⟩
    exact ⟨_, hway front d hfront, rfl, rfl, (hkept.through front d hfront).2⟩
  · rintro ⟨hunignored, hthrough⟩
    refine ⟨⟨content, hnode⟩, hvisible name (by simp), (hverdict _ _).symm.trans hunignored, ?_⟩
    intro front d hfront
    obtain ⟨g, hg, -, -, hkept⟩ := hthrough front d hfront
    obtain rfl := Except.ok.inj ((hway front d hfront).symm.trans hg)
    obtain ⟨rest, rfl⟩ := hfront
    exact ⟨hvisible d (by simp), hkept⟩

/-! ### A file in a subdirectory -/

/-- A tree with a file in a subdirectory of a directory. -/
def tree : FileSystem :=
  ⟨.folder "p".toList (.folder "b".toList (.file "x".toList .empty .empty) .empty) .empty, []⟩

/-- The project of that directory, with a text for its rules. -/
def nested (text : Text) : Session :=
  (setText ⟨⟨Path.parse "/p".toList, false, [], none, none, none, none, none⟩, .ofFiles tree⟩ text false).2

theorem nested_spec (text : Text) : (nested text).project.dir = Path.parse "/p".toList ∧
    (nested text).world.files = tree ∧ ∃ rules, (nested text).project.rules = some rules := by
  have hone : (some ([] ++ [Json.string text])).getD [] = [text].map .string := rfl
  obtain ⟨rules, hproject, -⟩ := project_setTexts
    ⟨⟨Path.parse "/p".toList, false, [], none, none, none, none, none⟩, .ofFiles tree⟩ hone
  exact ⟨congrArg Project.dir hproject, files_setTexts .., rules, congrArg Project.rules hproject⟩

theorem distinct_tree : tree.root.Distinct := by
  simp [tree, Folder.Distinct, Folder.names, Folder.entries]

/-- A rule for a file of that name in the directory itself has no part in the file further down. -/
theorem check_agrees_with_walk_nested :
    ∃ rules, (nested "/x".toList).project.rules = some rules ∧
      ((nested "/x".toList).check "b/x".toList).1.toOption = some ⟨true, false, false⟩ ∧
      (nested "/x".toList).project.dir.below ["b".toList, "x".toList] ∈
        ((nested "/x".toList).world.walk rules (nested "/x".toList).project.dir).1 := by
  obtain ⟨hdir, hfiles, rules, hrules⟩ := nested_spec "/x".toList
  have hdistinct : (nested "/x".toList).world.files.root.Distinct := by
    rw [hfiles]
    exact distinct_tree
  have hpath : (nested "/x".toList).project.dir.append (Path.parse "b/x".toList) =
      (nested "/x".toList).project.dir.below (["b".toList] ++ ["x".toList]) := by
    rw [hdir]
    decide
  have hnode : (nested "/x".toList).world.files.node
      ((nested "/x".toList).project.dir.below (["b".toList] ++ ["x".toList])) =
        .ok (.file .empty) := by
    rw [hdir, hfiles]
    rfl
  have hfile : ((nested "/x".toList).check "b/x".toList).1.toOption = some ⟨true, false, false⟩ := by
    decide +kernel
  have hfolder : ((nested "/x".toList).check "b".toList).1.toOption = some ⟨true, true, false⟩ := by
    decide +kernel
  have hvisible : ∀ part ∈ ["b".toList] ++ ["x".toList], Walk.isHidden part = false := by decide
  obtain ⟨f, hf, -, -, hwalk⟩ := check_agrees_with_walk hrules hdistinct hpath hnode hvisible
  refine ⟨rules, hrules, hfile, hwalk.2 ⟨?_, fun front d hway => ?_⟩⟩
  · rw [hf] at hfile
    exact congrArg Finding.isIgnored (Option.some.inj hfile)
  · -- The subdirectory is the only directory on the way.
    obtain ⟨rfl, rfl⟩ : front = [] ∧ d = "b".toList := by
      cases front with
      | nil => simpa using hway
      | cons first rest => simp at hway
    cases hcheck : ((nested "/x".toList).check "b".toList).1 with
    | error e =>
        rw [hcheck] at hfolder
        cases hfolder
    | ok g =>
        rw [hcheck] at hfolder
        obtain rfl := Option.some.inj hfolder
        exact ⟨_, hcheck, rfl, rfl, rfl⟩

/-- With a rule for the subdirectory, checking the file does not find it ignored, and the walk does not
keep it. -/
theorem check_inside_ignored :
    ∃ rules, (nested "b/".toList).project.rules = some rules ∧
      (nested "b/".toList).project.dir.isAbsolute = true ∧
      ((nested "b/".toList).check "b/x".toList).1.toOption = some ⟨true, false, false⟩ ∧
      ((nested "b/".toList).check "b".toList).1.toOption = some ⟨true, true, true⟩ ∧
      (nested "b/".toList).project.dir.below ["b".toList, "x".toList] ∉
        ((nested "b/".toList).world.walk rules (nested "b/".toList).project.dir).1 := by
  obtain ⟨hdir, hfiles, rules, hrules⟩ := nested_spec "b/".toList
  have hfile : ((nested "b/".toList).check "b/x".toList).1.toOption = some ⟨true, false, false⟩ := by
    decide +kernel
  have hfolder : ((nested "b/".toList).check "b".toList).1.toOption = some ⟨true, true, true⟩ := by
    decide +kernel
  have hverdict : (nested "b/".toList).verdict ((Path.parse "/p".toList).below ["b".toList]) true =
      true := by
    decide +kernel
  rw [verdict_of_some hrules] at hverdict
  have hinside : (nested "b/".toList).world.files.folder (Path.parse "/p".toList) =
      .ok (.folder "b".toList (.file "x".toList .empty .empty) .empty) := by
    rw [hfiles]
    rfl
  have hdistinct : (Folder.folder "b".toList (.file "x".toList .empty .empty) .empty).Distinct := by
    simp [Folder.Distinct, Folder.names, Folder.entries]
  rw [hdir]
  refine ⟨rules, hrules, rfl, hfile, hfolder, ?_⟩
  rw [World.walk_fst hinside]
  intro hwalk
  have hkept : Walk.Kept rules (Path.parse "/p".toList) _ ["b".toList] "x".toList :=
    (Walk.below_mem_files_iff hdistinct).1 hwalk
  have hunignored := (hkept.through [] "b".toList List.prefix_rfl).2
  exact absurd hverdict (Bool.eq_false_iff.1 hunignored)

end Session

end IgnoreRules
