import IgnoreRules.Proofs.FileSystem.Absolute
import IgnoreRules.Proofs.Project.Run
import IgnoreRules.Proofs.Rule.Depth
import IgnoreRules.Proofs.RuleSet.Candidate

/-!
# Two spellings of a path

A path below the directory of a project can be given from that directory or from the root.  When the
project knows its directory from the root, both are one path and every question about them has one
answer.  When it knows its directory from the working directory, the files are still the same, but the
rules are asked about two texts: the path from the root is not cut at a directory that does not begin
at the root.

* `Session.finding_of_check` : what is known about a path;
* `Session.Spelled` : what a path seen from the root has to do with the path seen from the directory;
* `Session.check_spelling` : the two spellings of a path.
-/

namespace IgnoreRules

namespace Session

variable {s : Session} {p q path text : Text} {f g : Finding} {rules : RuleSet}

/-! ## Questions about a path -/

/-- The verdict of the project's rules, if it has any. -/
def verdict (s : Session) (full : Path) (isDir : Bool) : Bool :=
  match s.project.rules with
  | none => false
  | some rules => rules.isIgnored full isDir

theorem verdict_of_none {full : Path} {isDir : Bool} (h : s.project.rules = none) :
    s.verdict full isDir = false := by
  unfold verdict
  rw [h]

theorem verdict_of_some {rules : RuleSet} {full : Path} {isDir : Bool}
    (h : s.project.rules = some rules) : s.verdict full isDir = rules.isIgnored full isDir := by
  unfold verdict
  rw [h]

theorem not_isKept_of (rules : RuleSet) (full : Path) (isDir : Bool) :
    (!(Visit.of rules full isDir).isKept) = rules.isIgnored full isDir := by
  unfold Visit.of Visit.isKept RuleSet.isIgnored
  cases rules.deciding? full isDir with
  | none => rfl
  | some found => rfl

/-- What is known about a path: the files say whether something is there, the files or the suffix say
whether it is a directory, and the rules say the rest. -/
theorem finding_of_check (h : (s.check path).1 = .ok f) :
    ∃ found isFolder,
      s.world.files.exists? (s.project.dir.append (Path.parse path)) = .ok found ∧
      s.world.files.isFolder (s.project.dir.append (Path.parse path)) = .ok isFolder ∧
      f.found = found ∧
      f.isDir = (if found then isFolder else decide ((Path.parse path).suffix = [])) ∧
      f.isIgnored = s.verdict (s.project.dir.append (Path.parse path)) f.isDir := by
  unfold check at h
  dsimp only at h
  split at h
  · cases h
  · cases h
  · next found isFolder hfound hfolder =>
      refine ⟨found, isFolder, hfound, hfolder, ?_⟩
      split at h
      · next hrules =>
          cases h
          exact ⟨rfl, rfl, (verdict_of_none hrules).symm⟩
      · next rules hrules =>
          cases h
          exact ⟨rfl, rfl, (not_isKept_of rules _ _).trans (verdict_of_some hrules).symm⟩

/-- One path, spelled in two ways, has one answer. -/
theorem check_congr (hfull : s.project.dir.append (Path.parse q) = s.project.dir.append (Path.parse p))
    (hsuffix : (Path.parse q).suffix = (Path.parse p).suffix) : s.check q = s.check p := by
  unfold check
  rw [hfull, hsuffix]

/-- A directory known from the root: both spellings are one path. -/
theorem check_of_absolute (hp : (Path.parse p).anchor = .relative) (hparts : (Path.parse p).parts ≠ [])
    (hdir : s.project.dir.isAbsolute = true)
    (hq : Path.parse q = s.project.dir.append (Path.parse p)) : s.check q = s.check p := by
  have hfull : s.project.dir.append (Path.parse p) =
      ⟨s.project.dir.anchor, s.project.dir.parts ++ (Path.parse p).parts⟩ :=
    Path.append_of_relative hp
  have habsolute : (Path.parse q).isAbsolute = true := by
    rw [hq, hfull]
    exact hdir
  refine check_congr ((Path.append_of_absolute habsolute).trans hq) ?_
  rw [hq, hfull]
  exact Path.suffix_append _ _ _ hparts

/-! ## A directory known from the working directory -/

section Relative

variable {parts : List Text}

/-- The components of a path seen from the root. -/
def fromRoot (s : Session) (parts : List Text) : List Text :=
  s.world.files.workingDirectory ++ (s.project.dir.parts ++ parts)

/-- What a path seen from the root has to do with the same path seen from the directory. -/
structure Spelled (s : Session) (p q : Text) : Prop where
  relative : (Path.parse p).anchor = .relative
  parts_ne_nil : (Path.parse p).parts ≠ []
  dir : s.project.dir.isAbsolute = false
  resides : s.world.files.Resides
  whole : Path.parse q = s.world.files.absolute (s.project.dir.append (Path.parse p))

theorem Spelled.full (h : Spelled s p q) :
    s.project.dir.append (Path.parse p) = ⟨.relative, s.project.dir.parts ++ (Path.parse p).parts⟩ := by
  rw [Path.append_of_relative h.relative, Path.anchor_of_relative h.dir]

theorem Spelled.parse_eq (h : Spelled s p q) :
    Path.parse q = ⟨.root, s.fromRoot (Path.parse p).parts⟩ := by
  rw [h.whole, h.full, FileSystem.absolute_of_relative rfl]
  rfl

theorem Spelled.append_eq (h : Spelled s p q) :
    s.project.dir.append (Path.parse q) = Path.parse q := by
  refine Path.append_of_absolute ?_
  rw [h.parse_eq]
  rfl

theorem Spelled.parts_fromRoot (h : Spelled s p q) :
    ∀ part ∈ s.fromRoot (Path.parse p).parts, part ≠ [] ∧ '/' ∉ part := by
  have hparts : (Path.parse q).parts = s.fromRoot (Path.parse p).parts := by rw [h.parse_eq]
  rw [← hparts]
  exact fun _ => Path.part_of_parse

/-- The files have the same to say about both spellings. -/
theorem Spelled.same_files (h : Spelled s p q) (hf : (s.check p).1 = .ok f)
    (hg : (s.check q).1 = .ok g) : f.found = g.found ∧ f.isDir = g.isDir := by
  obtain ⟨found, isFolder, hfound, hfolder, rfl, hdir, -⟩ := finding_of_check hf
  obtain ⟨found', isFolder', hfound', hfolder', rfl, hdir', -⟩ := finding_of_check hg
  rw [h.append_eq, h.whole] at hfound' hfolder'
  have hsame : f.found = g.found := FileSystem.ask_absolute h.resides hfound hfound'
  -- The suffix is that of the last component, which both spellings share.
  have hsuffix : (Path.parse q).suffix = (Path.parse p).suffix := by
    rw [h.parse_eq, fromRoot, ← List.append_assoc]
    exact Path.suffix_append _ _ _ h.parts_ne_nil
  refine ⟨hsame, ?_⟩
  rw [hdir, hdir', hsuffix, hsame, FileSystem.ask_absolute h.resides hfolder hfolder']

/-- The rules are asked about the components below the directory, and about those below the root. -/
theorem Spelled.verdicts (h : Spelled s p q) (hf : (s.check p).1 = .ok f)
    (hg : (s.check q).1 = .ok g) (hrules : s.project.rules = some rules)
    (hroot : rules.root = s.project.dir) :
    f.isIgnored = Rule.overriding (List.intercalate ['/'] (Path.parse p).parts) f.isDir rules.rules false ∧
    g.isIgnored = Rule.overriding (List.intercalate ['/'] (s.fromRoot (Path.parse p).parts)) g.isDir
      rules.rules false := by
  obtain ⟨-, -, -, -, -, -, hf⟩ := finding_of_check hf
  obtain ⟨-, -, -, -, -, -, hg⟩ := finding_of_check hg
  have hown : ∀ part ∈ (Path.parse p).parts, part ≠ [] ∧ '/' ∉ part := fun _ => Path.part_of_parse
  have hall := h.parts_fromRoot
  have hne : s.fromRoot (Path.parse p).parts ≠ [] := fun hnil =>
    h.parts_ne_nil (List.append_eq_nil_iff.1 (List.append_eq_nil_iff.1 hnil).2).2
  have hanchor : rules.root.anchor = .relative := by
    rw [hroot]
    exact Path.anchor_of_relative h.dir
  -- The root of the rules is relative: it is in front of the one path, and not of the other.
  have hbelow := RuleSet.candidate_below (s := rules) hown
  rw [hanchor, hroot] at hbelow
  have helsewhere := RuleSet.candidate_elsewhere hanchor hne hall
  constructor
  · rw [hf, h.full, verdict_of_some hrules, RuleSet.isIgnored_eq_overriding, hbelow,
      if_neg (Path.intercalate_ne_nil h.parts_ne_nil hown)]
  · rw [hg, h.append_eq, h.parse_eq, verdict_of_some hrules, RuleSet.isIgnored_eq_overriding,
      helsewhere, if_neg (Path.intercalate_ne_nil hne hall)]

/-! ## A text that tells the spellings apart -/

/-- A text that builds rules makes them the rules of the project. -/
theorem rules_setText (h : RuleSet.ofText s.project.dir text = .ok rules) :
    (s.setText text false).2.project.rules = some rules ∧
      (s.setText text false).2.project.dir = s.project.dir ∧
      (s.setText text false).2.world.files = s.world.files := by
  have hjoined : joinTexts [text] = text := List.intercalate_singleton
  have hset : s.setText text false = s.setTexts (some [.string text]) := rfl
  have hone : (some [Json.string text]).getD [] = [text].map .string := rfl
  rw [hset, setTexts_of_texts hone]
  unfold build
  dsimp only
  rw [hjoined, h]
  exact ⟨rfl, rfl, rfl⟩

/-- With the rule for the depth of a path below the directory, the path is ignored when it is spelled
from the directory, and kept when it is spelled from the root. -/
theorem Spelled.exists_text (h : Spelled s p q)
    (hdir : s.world.files.workingDirectory ++ s.project.dir.parts ≠ []) :
    ∃ text, ∀ f g, ((s.setText text false).2.check p).1 = .ok f →
      ((s.setText text false).2.check q).1 = .ok g → f.isIgnored = true ∧ g.isIgnored = false := by
  obtain ⟨n, hn⟩ : ∃ n, (Path.parse p).parts.length = n + 1 :=
    ⟨_, (Nat.succ_pred_eq_of_pos (List.length_pos_of_ne_nil h.parts_ne_nil)).symm⟩
  obtain ⟨rules, hrules, hroot, hsingle⟩ := RuleSet.exists_ofText_levels s.project.dir n
  obtain ⟨hset, hsame, hfiles⟩ := rules_setText hrules
  refine ⟨'/' :: Rule.levels n, fun f g hf hg => ?_⟩
  have h' : Spelled (s.setText ('/' :: Rule.levels n) false).2 p q := by
    refine ⟨h.relative, h.parts_ne_nil, ?_, ?_, ?_⟩
    · rw [hsame]
      exact h.dir
    · rw [hfiles]
      exact h.resides
    · rw [hfiles, hsame]
      exact h.whole
  obtain ⟨hown, hall⟩ := h'.verdicts hf hg hset (hroot.trans hsame.symm)
  rw [hsingle] at hown hall
  constructor
  · rw [hown, Rule.overriding_atDepth,
      List.splitOn_intercalate '/' (fun _ hpart => (Path.part_of_parse hpart).2) h.parts_ne_nil]
    exact hn
  · have hne : (s.setText ('/' :: Rule.levels n) false).2.fromRoot (Path.parse p).parts ≠ [] := fun hnil =>
      h.parts_ne_nil (List.append_eq_nil_iff.1 (List.append_eq_nil_iff.1 hnil).2).2
    rw [hall, ← Bool.not_eq_true, Rule.overriding_atDepth,
      List.splitOn_intercalate '/' (fun part hpart => (h'.parts_fromRoot part hpart).2) hne]
    -- The path from the root has the components of the directory as well.
    have hfront := List.length_pos_of_ne_nil hdir
    rw [List.length_append] at hfront
    rw [fromRoot, hfiles, hsame, List.length_append, List.length_append]
    omega

end Relative

/-- The two spellings of a path below the directory of a project.  Known from the root, the directory
makes them one path, with one answer.  Known from the working directory, it still leads both to the
same files, so what is there and whether that is a directory is the same; but the rules judge the
components below the directory in one spelling and all components from the root in the other, and
unless the directory is the root itself, some text makes the verdicts differ. -/
theorem check_spelling (hp : (Path.parse p).anchor = .relative) (hparts : (Path.parse p).parts ≠ []) :
    (s.project.dir.isAbsolute = true →
      Path.parse q = s.project.dir.append (Path.parse p) → s.check q = s.check p) ∧
    (s.project.dir.isAbsolute = false → s.world.files.Resides →
      Path.parse q = s.world.files.absolute (s.project.dir.append (Path.parse p)) →
        (∀ f g, (s.check p).1 = .ok f → (s.check q).1 = .ok g →
          f.found = g.found ∧ f.isDir = g.isDir ∧
          ∀ rules, s.project.rules = some rules → rules.root = s.project.dir →
            f.isIgnored = Rule.overriding (List.intercalate ['/'] (Path.parse p).parts) f.isDir
              rules.rules false ∧
            g.isIgnored = Rule.overriding (List.intercalate ['/'] (s.fromRoot (Path.parse p).parts))
              g.isDir rules.rules false) ∧
        (s.world.files.workingDirectory ++ s.project.dir.parts ≠ [] →
          ∃ text, ∀ f g, ((s.setText text false).2.check p).1 = .ok f →
            ((s.setText text false).2.check q).1 = .ok g → f.isIgnored = true ∧ g.isIgnored = false)) := by
  refine ⟨check_of_absolute hp hparts, fun hdir hresides hwhole => ?_⟩
  have h : Spelled s p q := ⟨hp, hparts, hdir, hresides, hwhole⟩
  refine ⟨fun f g hf hg => ?_, h.exists_text⟩
  obtain ⟨hfound, hisDir⟩ := h.same_files hf hg
  exact ⟨hfound, hisDir, fun rules hrules hroot => h.verdicts hf hg hrules hroot⟩

/-! ### A file in a directory -/

/-- A project with a file in its directory, below a working directory, and a text for its rules. -/
def sample (directory text : Text) : Session :=
  let tree := Folder.folder "r".toList
    (.folder "p".toList (.file "a.txt".toList .empty .empty) .empty) .empty
  (setText ⟨⟨Path.parse directory, false, [], none, none, none, none, none⟩,
    .ofFiles ⟨tree, ["r".toList]⟩⟩ text false).2

/-- The file of the directory, known from the root and known from the working directory. -/
theorem check_spelling_file :
    (sample "/r/p".toList []).check "/r/p/a.txt".toList = (sample "/r/p".toList []).check "a.txt".toList ∧
      ∃ text, ∀ f g, (((sample "p".toList []).setText text false).2.check "a.txt".toList).1 = .ok f →
        (((sample "p".toList []).setText text false).2.check "/r/p/a.txt".toList).1 = .ok g →
          f.isIgnored = true ∧ g.isIgnored = false := by
  have hp : (Path.parse "a.txt".toList).anchor = .relative := by decide
  have hparts : (Path.parse "a.txt".toList).parts ≠ [] := by decide
  have hresides : (sample "p".toList []).world.files.Resides := ⟨by decide +kernel, by decide +kernel⟩
  obtain ⟨hroot, -⟩ := check_spelling (s := sample "/r/p".toList []) (q := "/r/p/a.txt".toList) hp hparts
  obtain ⟨-, hrelative⟩ := check_spelling (s := sample "p".toList []) (q := "/r/p/a.txt".toList) hp hparts
  refine ⟨hroot (by decide +kernel) (by decide +kernel), ?_⟩
  exact (hrelative (by decide +kernel) hresides (by decide +kernel)).2 (by decide +kernel)

/-- From a directory known from the working directory, the rule for the file ignores it under its path
from the directory and not under its path from the root. -/
theorem check_relative_directory :
    (sample "p".toList "/a.txt".toList).project.dir.isAbsolute = false ∧
      Path.parse "/r/p/a.txt".toList = (sample "p".toList "/a.txt".toList).world.files.absolute
        ((sample "p".toList "/a.txt".toList).project.dir.append (Path.parse "a.txt".toList)) ∧
      ((sample "p".toList "/a.txt".toList).check "a.txt".toList).1.toOption = some ⟨true, false, true⟩ ∧
      ((sample "p".toList "/a.txt".toList).check "/r/p/a.txt".toList).1.toOption =
        some ⟨true, false, false⟩ := by
  decide +kernel

end Session

end IgnoreRules
