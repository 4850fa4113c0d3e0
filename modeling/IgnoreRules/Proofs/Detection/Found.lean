import IgnoreRules.Project.Basic
import IgnoreRules.Proofs.Path
import Mathlib.Data.List.Basic

/-!
# What detectors find

A detector finds something among some entries if one of them is a file and carries one of its markers.
Nothing else about the entries matters: neither their order nor how often an entry stands there nor
which other entries there are.  So the keys for several entries are those for each of them alone, and
the keys for a directory are those that its files are given by their names.

* `Marker.IsOn`, `Detector.Finds` : when a detector reports its key;
* `Detectors.detect_eq`, `Detectors.mem_detect_iff` : the keys reported;
* `Detector.Finds.mono`, `Detector.finds_iff_exists` : how what is found depends on the entries;
* `Folder.HasFile`, `DirEntry.ofPath_child` : the entries of a directory, which are those of their names;
* `Detectors.detect_by_files` : entries, and the files of a directory.
-/

namespace IgnoreRules

/-! ## Markers on entries -/

/-- The marker is the exact name of the entry, or its extension. -/
def Marker.IsOn (e : DirEntry) : Marker → Prop
  | .name t => e.name = t
  | .extension t => e.extension = some t

/-- Some file among the entries carries one of the markers. -/
def Detector.Finds (d : Detector) (entries : List DirEntry) : Prop :=
  ∃ e ∈ entries, e.isFile = true ∧ ∃ m ∈ d.markers, m.IsOn e

section Entries

variable {m : Marker} {d : Detector} {e : DirEntry} {entries others : List DirEntry}

theorem Marker.marks_iff : m.marks e = true ↔ e.isFile = true ∧ m.IsOn e := by
  cases m with
  | name t => simp [marks, IsOn]
  | extension t => simp [marks, IsOn]

/-- The search goes marker by marker; in the end it is a file for some marker. -/
theorem Detector.detects_iff : d.detects entries = true ↔ d.Finds entries := by
  constructor
  · intro h
    simp only [detects, List.any_eq_true, Marker.marks_iff] at h
    rcases h with ⟨m, hm, e, he, hfile, hon⟩
    exact ⟨e, he, hfile, m, hm, hon⟩
  · intro h
    rcases h with ⟨e, he, hfile, m, hm, hon⟩
    simp only [detects, List.any_eq_true, Marker.marks_iff]
    exact ⟨m, hm, e, he, hfile, hon⟩

instance (d : Detector) (entries : List DirEntry) : Decidable (d.Finds entries) :=
  decidable_of_iff _ d.detects_iff

/-! ## More entries and fewer -/

theorem Detector.Finds.mono (h : entries ⊆ others) (hfinds : d.Finds entries) : d.Finds others := by
  rcases hfinds with ⟨e, he, hcarries⟩
  exact ⟨e, h he, hcarries⟩

theorem Detector.finds_singleton : d.Finds [e] ↔ e.isFile = true ∧ ∃ m ∈ d.markers, m.IsOn e := by
  simp [Finds]

/-- Something is found among some entries if it is found on one of them. -/
theorem Detector.finds_iff_exists : d.Finds entries ↔ ∃ e ∈ entries, d.Finds [e] := by
  simp only [finds_singleton]
  exact Iff.rfl

end Entries

namespace Detectors

variable {ds : Detectors} {entries others : List DirEntry} {key : Text}

/-! ## The keys reported -/

/-- The keys are those of the detectors that find something, in the order of the table. -/
theorem detect_eq (ds : Detectors) (entries : List DirEntry) :
    ds.detect entries = (ds.filter (·.Finds entries)).map (·.template) := by
  have hsame : ∀ d : Detector, d.detects entries = decide (d.Finds entries) := by
    intro d
    rw [Bool.eq_iff_iff, d.detects_iff, decide_eq_true_iff]
  simp [detect, hsame]

theorem mem_detect_iff : key ∈ ds.detect entries ↔ ∃ d ∈ ds, d.template = key ∧ d.Finds entries := by
  simp only [detect_eq, List.mem_map, List.mem_filter, decide_eq_true_eq]
  constructor
  · intro h
    rcases h with ⟨d, ⟨hd, hfinds⟩, hkey⟩
    exact ⟨d, hd, hkey, hfinds⟩
  · intro h
    rcases h with ⟨d, hd, hkey, hfinds⟩
    exact ⟨d, ⟨hd, hfinds⟩, hkey⟩

/-- Detectors that find the same report the same. -/
theorem detect_congr (h : ∀ d ∈ ds, d.Finds entries ↔ d.Finds others) :
    ds.detect entries = ds.detect others := by
  rw [detect_eq, detect_eq]
  congr 1
  apply List.filter_congr
  intro d hd
  simp [h d hd]

/-- Among more entries no key is lost. -/
theorem detect_sublist (h : entries ⊆ others) : (ds.detect entries).Sublist (ds.detect others) := by
  rw [detect_eq, detect_eq]
  apply List.Sublist.map
  apply List.monotone_filter_right
  intro d hfinds
  simp only [decide_eq_true_eq] at hfinds ⊢
  exact hfinds.mono h

theorem mem_detect_iff_exists : key ∈ ds.detect entries ↔ ∃ e ∈ entries, key ∈ ds.detect [e] := by
  simp only [mem_detect_iff]
  constructor
  · intro h
    rcases h with ⟨d, hd, hkey, hfinds⟩
    rcases Detector.finds_iff_exists.1 hfinds with ⟨e, he, hon⟩
    exact ⟨e, he, d, hd, hkey, hon⟩
  · intro h
    rcases h with ⟨e, he, d, hd, hkey, hon⟩
    exact ⟨d, hd, hkey, Detector.finds_iff_exists.2 ⟨e, he, hon⟩⟩

end Detectors

/-! ## Entries of a directory -/

/-- The folder lists a file under this name. -/
def Folder.HasFile (f : Folder) (name : Text) : Prop :=
  ∃ content, (name, Node.file content) ∈ f.entries

section Directory

variable {ds : Detectors} {d : Detector} {path : Path} {folder : Folder} {name key : Text}

/-- An entry of a directory has its own name, and the extension of that name. -/
theorem DirEntry.ofPath_child_eq (path : Path) (name : Text) (isFile : Bool) :
    ofPath (path.child name) isFile = ofPath ⟨.relative, [name]⟩ isFile := by
  have hname : (path.child name).name = name := by simp [Path.name, Path.child]
  have hsuffix : (path.child name).suffix = Path.suffix ⟨.relative, [name]⟩ :=
    Path.suffix_append path.anchor .relative path.parts (List.cons_ne_nil name [])
  simp only [ofPath, extensionOf, hname, hsuffix]
  rfl

theorem Path.parse_name (h : name ≠ [] ∧ name ≠ ['.'] ∧ '/' ∉ name) :
    parse name = ⟨.relative, [name]⟩ := by
  have hparts : ∀ part ∈ [name], part ≠ [] ∧ part ≠ ['.'] ∧ '/' ∉ part := by simpa using h
  simpa using parse_intercalate hparts

/-- What can be the name of a file gives the same entry by itself as in a directory. -/
theorem DirEntry.ofPath_child (h : name ≠ [] ∧ name ≠ ['.'] ∧ '/' ∉ name) (path : Path) (isFile : Bool) :
    ofPath (path.child name) isFile = ofName name isFile := by
  rw [ofPath_child_eq, ofName, Path.parse_name h]
  rfl

/-- A file alone is looked at by its name. -/
theorem Detectors.detectFile_name (h : name ≠ [] ∧ name ≠ ['.'] ∧ '/' ∉ name) :
    ds.detectFile (Path.parse name) = ds.detect [DirEntry.ofName name true] := by
  simp [detectFile, Path.parse_name h, Path.name]

/-- In a directory something is found on one of the files; what is in them and what the directory's own
path is has no part in it. -/
theorem Detector.finds_dirEntries_iff : d.Finds (World.dirEntries path folder) ↔
    ∃ name, folder.HasFile name ∧ d.Finds [DirEntry.ofPath ⟨.relative, [name]⟩ true] := by
  simp only [finds_singleton]
  constructor
  · intro h
    rcases h with ⟨e, he, hfile, hon⟩
    rcases List.mem_map.1 he with ⟨⟨name, node⟩, hmem, rfl⟩
    -- A directory is no file, so what carries a marker is not one.
    cases node with
    | folder inside => simp [DirEntry.ofPath, Node.isFolder] at hfile
    | file content =>
        refine ⟨name, ⟨content, hmem⟩, rfl, ?_⟩
        simpa [DirEntry.ofPath_child_eq, Node.isFolder] using hon
  · intro h
    rcases h with ⟨name, ⟨content, hmem⟩, -, hon⟩
    refine ⟨DirEntry.ofPath (path.child name) true, ?_, rfl, ?_⟩
    · exact List.mem_map.2 ⟨(name, .file content), hmem, rfl⟩
    · simpa [DirEntry.ofPath_child_eq] using hon

theorem World.detect_of_folder {w : World} (h : w.files.folder path = .ok folder) :
    (w.detect ds path).1 = .ok (ds.detect (World.dirEntries path folder)) := by
  simp [detect, h]

theorem Detectors.mem_detect_dirEntries_iff
    (hnames : ∀ entry ∈ folder.entries, entry.1 ≠ [] ∧ entry.1 ≠ ['.'] ∧ '/' ∉ entry.1) :
    key ∈ ds.detect (World.dirEntries path folder) ↔
      ∃ name, folder.HasFile name ∧ key ∈ ds.detectFile (Path.parse name) := by
  have hfile : ∀ name, folder.HasFile name →
      ds.detectFile (Path.parse name) = ds.detect [DirEntry.ofPath ⟨.relative, [name]⟩ true] := by
    intro name hlisted
    rcases hlisted with ⟨content, hmem⟩
    have hname := hnames _ hmem
    rw [detectFile_name hname, ← DirEntry.ofPath_child hname path, DirEntry.ofPath_child_eq]
  rw [mem_detect_iff]
  constructor
  · intro h
    rcases h with ⟨d, hd, hkey, hfinds⟩
    rcases Detector.finds_dirEntries_iff.1 hfinds with ⟨name, hlisted, hon⟩
    refine ⟨name, hlisted, ?_⟩
    rw [hfile name hlisted, mem_detect_iff]
    exact ⟨d, hd, hkey, hon⟩
  · intro h
    rcases h with ⟨name, hlisted, hin⟩
    rw [hfile name hlisted, mem_detect_iff] at hin
    rcases hin with ⟨d, hd, hkey, hon⟩
    exact ⟨d, hd, hkey, Detector.finds_dirEntries_iff.2 ⟨name, hlisted, hon⟩⟩

end Directory

namespace Detectors

/-- The keys are those of the detectors for which a file carries one of the markers, in the order of the
table.  They depend only on which entries there are, none is lost when there are more, and each is
reported for one of the entries alone.  So a directory gives the keys that the names of its files give,
and directories with files of the same names give the same keys in the same order. -/
theorem detect_by_files (ds : Detectors) :
    (∀ entries, ds.detect entries = (ds.filter (·.Finds entries)).map (·.template)) ∧
    (∀ entries others, (∀ e, e ∈ entries ↔ e ∈ others) → ds.detect entries = ds.detect others) ∧
    (∀ entries others, entries ⊆ others → (ds.detect entries).Sublist (ds.detect others)) ∧
    (∀ entries key, key ∈ ds.detect entries ↔ ∃ e ∈ entries, key ∈ ds.detect [e]) ∧
    ∀ (w : World) (path : Path) (folder : Folder), w.files.folder path = .ok folder →
      (∀ entry ∈ folder.entries, entry.1 ≠ [] ∧ entry.1 ≠ ['.'] ∧ '/' ∉ entry.1) →
      ∃ keys, (w.detect ds path).1 = .ok keys ∧
        (∀ key, key ∈ keys ↔
          ∃ name, folder.HasFile name ∧ key ∈ ds.detectFile (Path.parse name)) ∧
        ∀ (w' : World) (path' : Path) (folder' : Folder), w'.files.folder path' = .ok folder' →
          (∀ name, folder'.HasFile name ↔ folder.HasFile name) →
          (w'.detect ds path').1 = .ok keys := by
  refine ⟨ds.detect_eq, ?_, fun _ _ => detect_sublist, fun _ _ => mem_detect_iff_exists, ?_⟩
  · intro entries others hsame
    apply detect_congr
    intro d _
    exact ⟨Detector.Finds.mono fun e => (hsame e).1, Detector.Finds.mono fun e => (hsame e).2⟩
  · intro w path folder hfolder hnames
    refine ⟨_, World.detect_of_folder hfolder, fun key => mem_detect_dirEntries_iff hnames, ?_⟩
    intro w' path' folder' hfolder' hsame
    rw [World.detect_of_folder hfolder']
    congr 1
    apply detect_congr
    intro d _
    -- Only the names of the files have a part in what is found.
    simp only [Detector.finds_dirEntries_iff, hsame]

/-- A directory with two marker files, one of them told by its extension, and a directory that is named
like a marker. -/
theorem detect_by_files_sample :
    ∃ (w : World) (keys : List Text), (w.detect standard (Path.parse "p".toList)).1 = .ok keys ∧
      "rust".toList ∈ keys ∧ "ruby".toList ∈ keys ∧ "go".toList ∉ keys := by
  let folder : Folder := .file "x.gemspec".toList .empty (.folder "go.mod".toList .empty
    (.file "Cargo.toml".toList .empty .empty))
  rcases (⟨.ofFiles ⟨.folder "p".toList folder .empty, []⟩, rfl⟩ :
    ∃ w : World, w.files = ⟨.folder "p".toList folder .empty, []⟩) with ⟨w, hfiles⟩
  have hfolder : w.files.folder (Path.parse "p".toList) = .ok folder := by
    rw [hfiles]
    rfl
  have hnames : ∀ entry ∈ folder.entries, entry.1 ≠ [] ∧ entry.1 ≠ ['.'] ∧ '/' ∉ entry.1 := by
    simp [folder, Folder.entries]
  have hspec := (detect_by_files standard).2.2.2.2 w (Path.parse "p".toList) folder hfolder hnames
  rcases hspec with ⟨keys, hkeys, hmem, -⟩
  refine ⟨w, keys, hkeys, ?_, ?_, ?_⟩
  · exact (hmem _).2 ⟨"Cargo.toml".toList, ⟨.empty, by simp [folder, Folder.entries]⟩, by decide⟩
  · exact (hmem _).2 ⟨"x.gemspec".toList, ⟨.empty, by simp [folder, Folder.entries]⟩, by decide⟩
  · rw [hmem]
    rintro ⟨name, ⟨content, hlisted⟩, hkey⟩
    simp only [folder, Folder.entries, List.mem_cons, Prod.mk.injEq, Node.file.injEq, reduceCtorEq,
      and_false, List.not_mem_nil, or_false, false_or] at hlisted
    rcases hlisted with ⟨rfl, -⟩ | ⟨rfl, -⟩
    · exact absurd hkey (by decide)
    · exact absurd hkey (by decide)

end Detectors

end IgnoreRules
