import IgnoreRules.Proofs.Cli.Governed
import IgnoreRules.Proofs.Cli.Setup
import IgnoreRules.Proofs.Cli.SourceOptions

/-!
# The rules of a command

A command that uses rules takes them from templates, from the project's own ignore file and from the
files that it names, in this order, so that what comes later has the say over what came before.  If one
of the files cannot be read in full, the command ends with status 1 and writes nothing.  A template that
brings no text is a failure, and so is a threshold for the log that is no level.

* `RuleSources.texts`, `RuleSources.required` : the texts of the sources, and the files that have to be
  read in full;
* `Cli.applySources_of_complete`, `Cli.applySources_of_notText`, `Cli.applySources_refused` : taking the
  texts, and failing to;
* `Cli.run_rules` : what a command line with rules comes to.
-/

namespace IgnoreRules

/-! ## Texts in order -/

namespace RuleSources

/-- The first source: the contents of the templates that the directory calls for, or an empty text in
their place. -/
def brought (sources : RuleSources) (listing : Listing) (files : FileSystem) (dir : Path) : List Json :=
  if sources.templates then listing.called files dir else [.string []]

/-- The texts of the ignore files: of the directory's own, and of those that are named. -/
def fileTexts (sources : RuleSources) (files : FileSystem) (dir : Path) : List Text :=
  (if sources.ownFile then [IgnoreFile.textAt files (dir.child IgnoreFile.standardName)] else []) ++
    sources.files.map fun file => IgnoreFile.textAt files (Path.parse file)

/-- The texts that rules are taken from, in order, as far as what the templates bring is texts. -/
def texts (sources : RuleSources) (listing : Listing) (files : FileSystem) (dir : Path) : List Json :=
  sources.brought listing files dir ++ (sources.fileTexts files dir).map .string

/-- The files that have to be read in full: the directory's own if there is something of its name, and
those that are named. -/
def required (sources : RuleSources) (files : FileSystem) (dir : Path) : List Path :=
  (match sources.ownFile, files.exists? (dir.child IgnoreFile.standardName) with
    | false, _ => []
    | true, .ok false => []
    | true, _ => [dir.child IgnoreFile.standardName]) ++ sources.files.map Path.parse

theorem mem_required_iff {sources : RuleSources} {files : FileSystem} {dir path : Path} :
    path ∈ sources.required files dir ↔
      (sources.ownFile = true ∧ files.exists? (dir.child IgnoreFile.standardName) ≠ .ok false ∧
        path = dir.child IgnoreFile.standardName) ∨
      ∃ name ∈ sources.files, path = Path.parse name := by
  unfold required
  rw [List.mem_append, List.mem_map]
  apply or_congr
  · split
    · next hown => simp [hown]
    · next hown habsent => simp [habsent]
    · next hown hpresent =>
        rw [List.mem_singleton, hown, and_iff_right rfl, and_iff_right hpresent]
  · simp only [eq_comm]

end RuleSources

theorem Project.ofDirectory_spec {directory : Text} {store : Option TemplateStore}
    {detectors : Detectors} {files : FileSystem} {p : Project}
    (h : Project.ofDirectory directory store detectors files = .ok p) :
    p.dir = Path.parse directory ∧ p.store = store ∧ p.detectors = detectors ∧
      files.exists? p.dir = .ok true := by
  unfold Project.ofDirectory at h
  dsimp only at h
  split at h
  · cases h
  · cases h
  · next hexists =>
      split at h
      · cases h
      · cases h
        exact ⟨rfl, rfl, rfl, hexists⟩

namespace Cli

/-! ## Taking the texts -/

section Applying

variable {s τ υ : Session} {dir : Path} {files : FileSystem} {texts : List Text} {name : Text}
variable {names : List Text} {sources : RuleSources} {store : TemplateStore} {listing : Listing}

theorem addFiles_cons (s : Session) (name : Text) (names : List Text) :
    addFiles s (name :: names) =
      match s.addIgnoreFile (Path.parse name) with
      | (.error e, s) => (.error e, s)
      | (.ok (), s) => addFiles s names := by
  rfl

theorem addFiles_cons_of_ok (h : (s.addIgnoreFile (Path.parse name)).1 = .ok ()) :
    addFiles s (name :: names) = addFiles (s.addIgnoreFile (Path.parse name)).2 names := by
  rw [addFiles_cons, Prod.fst_eq_iff.1 h]

/-- Files that are all read in full are taken one after the other. -/
theorem addFiles_of_complete (h : s.Has dir files texts)
    (hcomplete : ∀ name ∈ names, IgnoreFile.completeAt files (Path.parse name) = true) :
    (addFiles s names).1 = .ok () ∧ (addFiles s names).2.Has dir files
      (texts ++ names.map fun name => IgnoreFile.textAt files (Path.parse name)) := by
  induction names generalizing s texts with
  | nil =>
      rw [List.map_nil, List.append_nil]
      exact ⟨rfl, h⟩
  | cons name names ih =>
      obtain ⟨hfirst, hothers⟩ := List.forall_mem_cons.1 hcomplete
      obtain ⟨hdone, hnext⟩ := h.addIgnoreFile hfirst
      rw [addFiles_cons_of_ok hdone, List.map_cons, List.append_cons]
      exact ih hnext hothers

/-- One file that is not read in full is enough for a failure, whatever stands in front of it. -/
theorem addFiles_refused (h : s.Has dir files texts)
    (hnot : ∃ name ∈ names, IgnoreFile.completeAt files (Path.parse name) = false) :
    ∃ e, (addFiles s names).1 = .error e := by
  induction names generalizing s texts with
  | nil =>
      obtain ⟨name, hname, -⟩ := hnot
      cases hname
  | cons name names ih =>
      cases hfirst : IgnoreFile.completeAt files (Path.parse name) with
      | false =>
          obtain ⟨e, he⟩ := h.addIgnoreFile_refused hfirst
          rw [addFiles_cons, Prod.fst_eq_iff.1 he]
          exact ⟨e, rfl⟩
      | true =>
          obtain ⟨hdone, hnext⟩ := h.addIgnoreFile hfirst
          rw [addFiles_cons_of_ok hdone]
          -- This file is read in full, so the one that is not is among those behind it.
          apply ih hnext
          obtain ⟨other, hother, hbad⟩ := hnot
          cases List.mem_cons.1 hother with
          | inl hsame =>
              rw [hsame, hfirst] at hbad
              cases hbad
          | inr hrest => exact ⟨other, hrest, hbad⟩

/-- The first source is set for the texts. -/
theorem exists_first (sources : RuleSources) (hstore : s.project.store = some store)
    (hlisting : store.listing = some listing) (hdetectors : s.project.detectors = Detectors.standard)
    (hexists : s.world.files.exists? s.project.dir = .ok true) :
    ∃ (s' : Session) (chosen : Option (List Json)), s'.project.dir = s.project.dir ∧
      s'.world.files = s.world.files ∧
      chosen.getD [] = sources.brought listing s.world.files s.project.dir ∧
      (if sources.templates then s.parse else s.setText [] false) = s'.setTexts chosen := by
  unfold RuleSources.brought
  cases sources.templates with
  | true => exact Session.parse_of_listing hstore hlisting hdetectors hexists
  | false => exact ⟨s, some [.string []], rfl, rfl, rfl, rfl⟩

/-- The project's own file is no obstacle: it is not used, or not there, or read in full. -/
def OwnFileUsable (sources : RuleSources) (files : FileSystem) (dir : Path) : Prop :=
  sources.ownFile = true → files.exists? (dir.child IgnoreFile.standardName) = .ok false ∨
    IgnoreFile.completeAt files (dir.child IgnoreFile.standardName) = true

/-- The second source: the project's own file, if it is used. -/
theorem exists_second (h : τ.Has dir files texts) (husable : OwnFileUsable sources files dir) :
    ∃ υ, (if sources.ownFile then τ.useIgnoreFile true else (.ok (), τ)) = (.ok (), υ) ∧
      υ.Has dir files (texts ++
        if sources.ownFile then [IgnoreFile.textAt files (dir.child IgnoreFile.standardName)] else []) := by
  cases hown : sources.ownFile with
  | false => exact ⟨τ, rfl, (List.append_nil texts).symm ▸ h⟩
  | true =>
      obtain ⟨hdone, hhas⟩ := h.useIgnoreFile (husable hown)
      exact ⟨(τ.useIgnoreFile true).2, Prod.fst_eq_iff.1 hdone, hhas⟩

theorem second_refused (h : τ.Has dir files texts) (hnot : ¬OwnFileUsable sources files dir) :
    ∃ e, (if sources.ownFile then τ.useIgnoreFile true else (.ok (), τ)).1 = .error e := by
  unfold OwnFileUsable at hnot
  rw [Classical.not_imp, not_or, Bool.not_eq_true] at hnot
  obtain ⟨hown, hpresent, hbad⟩ := hnot
  rw [if_pos hown]
  exact h.useIgnoreFile_refused hpresent hbad

theorem applySources_eq
    (hfirst : (if sources.templates then s.parse else s.setText [] false) = (.ok (), τ))
    (hsecond : (if sources.ownFile then τ.useIgnoreFile true else (.ok (), τ)) = (.ok (), υ)) :
    applySources s sources = addFiles υ sources.files := by
  unfold applySources
  rw [hfirst]
  dsimp only
  rw [hsecond]

theorem applySources_of_first {e : Failure}
    (hfirst : (if sources.templates then s.parse else s.setText [] false).1 = .error e) :
    (applySources s sources).1 = .error e := by
  unfold applySources
  rw [Prod.fst_eq_iff.1 hfirst]

theorem applySources_of_second {e : Failure}
    (hfirst : (if sources.templates then s.parse else s.setText [] false) = (.ok (), τ))
    (hsecond : (if sources.ownFile then τ.useIgnoreFile true else (.ok (), τ)).1 = .error e) :
    (applySources s sources).1 = .error e := by
  unfold applySources
  rw [hfirst]
  dsimp only
  rw [Prod.fst_eq_iff.1 hsecond]

section Ready

variable (hstore : s.project.store = some store) (hlisting : store.listing = some listing)
variable (hdetectors : s.project.detectors = Detectors.standard)
variable (hexists : s.world.files.exists? s.project.dir = .ok true)

include hstore hlisting hdetectors hexists

/-- Where the first source brings texts, the project goes on with them. -/
theorem has_of_first
    (hbrought : sources.brought listing s.world.files s.project.dir = texts.map .string) :
    ∃ τ, (if sources.templates then s.parse else s.setText [] false) = (.ok (), τ) ∧
      τ.Has s.project.dir s.world.files texts := by
  obtain ⟨s', chosen, hdir, hfiles, hchosen, hfirst⟩ :=
    exists_first sources hstore hlisting hdetectors hexists
  obtain ⟨hdone, hhas⟩ := Session.has_setTexts hdir hfiles (hchosen.trans hbrought)
  exact ⟨(s'.setTexts chosen).2, hfirst.trans (Prod.fst_eq_iff.1 hdone), hhas⟩

/-- A template that brings no text is a failure, before any file is looked at. -/
theorem applySources_of_notText {e : Json.NotText}
    (h : Json.textsFrom 0 (sources.brought listing s.world.files s.project.dir) = .error e) :
    (applySources s sources).1 = .error (.notText e) := by
  obtain ⟨s', chosen, -, -, hchosen, hfirst⟩ :=
    exists_first sources hstore hlisting hdetectors hexists
  apply applySources_of_first
  rw [hfirst, Session.fst_setTexts, hchosen, h]
  rfl

/-- Where all files are read in full, the texts of the sources are taken in order. -/
theorem applySources_of_complete
    (hbrought : sources.brought listing s.world.files s.project.dir = texts.map .string)
    (hcomplete : ∀ path ∈ sources.required s.world.files s.project.dir,
      IgnoreFile.completeAt s.world.files path = true) :
    (applySources s sources).1 = .ok () ∧ (applySources s sources).2.Has s.project.dir s.world.files
      (texts ++ sources.fileTexts s.world.files s.project.dir) := by
  have husable : OwnFileUsable sources s.world.files s.project.dir := by
    intro hown
    by_contra hnot
    rw [not_or] at hnot
    exact hnot.2 (hcomplete _ (RuleSources.mem_required_iff.2 (Or.inl ⟨hown, hnot.1, rfl⟩)))
  obtain ⟨τ, hfirst, hτ⟩ := has_of_first hstore hlisting hdetectors hexists hbrought
  obtain ⟨υ, hsecond, hυ⟩ := exists_second hτ husable
  -- With the first two sources behind, the named files are what is left.
  rw [applySources_eq hfirst hsecond]
  have hnamed := addFiles_of_complete hυ fun name hname =>
    hcomplete _ (RuleSources.mem_required_iff.2 (Or.inr ⟨name, hname, rfl⟩))
  rw [List.append_assoc] at hnamed
  exact hnamed

/-- Where one file is not read in full, taking the texts fails. -/
theorem applySources_refused
    (hnot : ∃ path ∈ sources.required s.world.files s.project.dir,
      IgnoreFile.completeAt s.world.files path = false) :
    ∃ e, (applySources s sources).1 = .error e := by
  obtain ⟨path, hpath, hbad⟩ := hnot
  cases hbrought : Json.textsFrom 0 (sources.brought listing s.world.files s.project.dir) with
  | error e => exact ⟨_, applySources_of_notText hstore hlisting hdetectors hexists hbrought⟩
  | ok texts =>
      obtain ⟨τ, hfirst, hτ⟩ :=
        has_of_first hstore hlisting hdetectors hexists (Json.textsFrom_eq_ok_iff.1 hbrought)
      by_cases husable : OwnFileUsable sources s.world.files s.project.dir
      · -- The project's own file is no obstacle, so the file that is not read in full is a named one.
        obtain ⟨υ, hsecond, hυ⟩ := exists_second hτ husable
        rw [applySources_eq hfirst hsecond]
        apply addFiles_refused hυ
        cases RuleSources.mem_required_iff.1 hpath with
        | inr hnamed =>
            obtain ⟨name, hname, rfl⟩ := hnamed
            exact ⟨name, hname, hbad⟩
        | inl hown =>
            obtain ⟨hown, hpresent, rfl⟩ := hown
            cases husable hown with
            | inl habsent => exact absurd habsent hpresent
            | inr hgood =>
                rw [hbad] at hgood
                cases hgood
      · obtain ⟨e, he⟩ := second_refused hτ husable
        exact ⟨e, applySources_of_second hfirst he⟩

end Ready

end Applying

/-! ## Whole runs -/

/-- A command that takes its rules from these sources, for this directory, and then does this. -/
inductive Uses : Command → Text → RuleSources → (Session → Except Failure Report × World) → Prop
  | check (directory : Text) (paths : List Text) (sources : RuleSources) (json : Bool) :
      Uses (.check directory paths sources json) directory sources (checkPaths paths json)
  | stats (directory : Text) (sources : RuleSources) (json : Bool) :
      Uses (.stats directory sources json) directory sources (countLanguages json)

section Runs

variable {w : World} {line : List Text} {i : Invocation} {command : Command} {directory : Text}
variable {sources : RuleSources} {next : Session → Except Failure Report × World}
variable {store : TemplateStore} {listing : Listing}

theorem Uses.sources_eq (h : Uses command directory sources next) : command.sources? = some sources := by
  cases h with
  | check directory paths sources json => rfl
  | stats directory sources json => rfl

theorem Uses.runCommand_eq (h : Uses command directory sources next) (store : Option TemplateStore)
    (w : World) : runCommand store w command = loadProject directory sources store w next := by
  cases h with
  | check directory paths sources json => rfl
  | stats directory sources json => rfl

/-- A failure leads to status 1 and to nothing on standard output, whether the command expects it or
not. -/
theorem outcomeOf_error (setup : Log.Setup) (e : Failure) (w : World) :
    exitStatus (outcomeOf setup (.error e) w) = 1 ∧
      standardOutput (outcomeOf setup (.error e) w) = .text [] := by
  cases e with
  | project cause => exact ⟨rfl, rfl⟩
  | _ => exact ⟨rfl, rfl⟩

/-- Opening a project and taking its rules, where all files are read in full. -/
theorem loadProject_of_complete {p : Project} {texts : List Text}
    (next : Session → Except Failure Report × World) (hlisting : store.listing = some listing)
    (hopened : Project.ofDirectory directory (some store) Detectors.standard w.files = .ok p)
    (htexts : sources.texts listing w.files (Path.parse directory) = texts.map .string)
    (hcomplete : ∀ path ∈ sources.required w.files (Path.parse directory),
      IgnoreFile.completeAt w.files path = true) :
    ∃ s : Session, s.Has (Path.parse directory) w.files texts ∧
      loadProject directory sources (some store) w next = next s := by
  obtain ⟨hdir, hstore, hdetectors, hexists⟩ := Project.ofDirectory_spec hopened
  rw [← hdir] at htexts hcomplete ⊢
  obtain ⟨front, hbrought, rfl⟩ := Json.exists_of_append_map_string htexts
  obtain ⟨hdone, hhas⟩ :=
    applySources_of_complete (s := ⟨p, w⟩) hstore hlisting hdetectors hexists hbrought hcomplete
  refine ⟨(applySources ⟨p, w⟩ sources).2, hhas, ?_⟩
  unfold loadProject withProject
  rw [hopened]
  dsimp only
  rw [Prod.fst_eq_iff.1 hdone]

theorem loadProject_of_error {p : Project} {e : Failure}
    (next : Session → Except Failure Report × World)
    (hopened : Project.ofDirectory directory (some store) Detectors.standard w.files = .ok p)
    (he : (applySources ⟨p, w⟩ sources).1 = .error e) :
    (loadProject directory sources (some store) w next).1 = .error e := by
  unfold loadProject withProject
  rw [hopened]
  dsimp only
  rw [Prod.fst_eq_iff.1 he]

/-- Opening a project and taking its rules fails where one file is not read in full, whether or not
there is such a directory. -/
theorem loadProject_refused (next : Session → Except Failure Report × World)
    (hlisting : store.listing = some listing)
    (hnot : ∃ path ∈ sources.required w.files (Path.parse directory),
      IgnoreFile.completeAt w.files path = false) :
    ∃ e, (loadProject directory sources (some store) w next).1 = .error e := by
  cases hopened : Project.ofDirectory directory (some store) Detectors.standard w.files with
  | error e =>
      refine ⟨e, ?_⟩
      unfold loadProject withProject
      rw [hopened]
  | ok p =>
      obtain ⟨hdir, hstore, hdetectors, hexists⟩ := Project.ofDirectory_spec hopened
      rw [← hdir] at hnot
      obtain ⟨e, he⟩ := applySources_refused (s := ⟨p, w⟩) hstore hlisting hdetectors hexists hnot
      exact ⟨e, loadProject_of_error next hopened he⟩

/-- A command line that asks for rules, with templates at hand.  The sources are those that its words
ask for, in their order.  If every file among them is read in full, the rules in force are those of the
texts of the sources; the command goes on with them.  If one is not, the command ends with status 1 and
writes nothing to standard output.  All this is so where every template brings a text and the threshold
for the log is a level; otherwise the run fails, for the template or for the threshold. -/
theorem run_rules (hline : Invocation.parse line = .ok i) (hcommand : i.command = some command)
    (huses : Uses command directory sources next) (hlisting : store.listing = some listing) :
    (∃ front name arguments words, line = front ++ name :: arguments ∧
      Grammar.classify Invocation.ruleFlags arguments = .ok words ∧
      sources = RuleSources.ofOptions (SourceOption.ofWords words)) ∧
    (∀ setup p, (Log.configure { level := i.logLevel } w).1 = .ok setup →
      Project.ofDirectory directory (some store) Detectors.standard w.files = .ok p →
      (∀ texts, sources.texts listing w.files (Path.parse directory) = texts.map .string →
        (∀ path ∈ sources.required w.files (Path.parse directory),
          IgnoreFile.completeAt w.files path = true) →
        ∃ s rules, s.project.dir = Path.parse directory ∧ s.world.files = w.files ∧
          s.Governed texts rules ∧
          (run (some store) w line).1 = outcomeOf setup (next s).1 (next s).2) ∧
      ∀ e, Json.textsFrom 0 (sources.texts listing w.files (Path.parse directory)) = .error e →
        (run (some store) w line).1 = .error (.notText e)) ∧
    ((∃ path ∈ sources.required w.files (Path.parse directory),
        IgnoreFile.completeAt w.files path = false) →
      exitStatus (run (some store) w line).1 = 1 ∧
        standardOutput (run (some store) w line).1 = .text []) ∧
    ∀ e, (Log.configure { level := i.logLevel } w).1 = .error e →
      (run (some store) w line).1 = .error (.level e) ∧
        (Text.upper (Log.levelName { level := i.logLevel } w.env) = "BASIC_FORMAT".toList ∨
          Text.upper (Log.levelName { level := i.logLevel } w.env) = "_STYLES".toList) := by
  refine ⟨Invocation.sources_of_parse hline hcommand huses.sources_eq, ?_, ?_, ?_⟩
  · intro setup p hsetup hopened
    obtain ⟨v, hfiles, hrun⟩ := run_of_setup hline hcommand (some store) hsetup
    rw [huses.runCommand_eq] at hrun
    rw [← hfiles] at hopened ⊢
    refine ⟨fun texts htexts hcomplete => ?_, fun e he => ?_⟩
    · obtain ⟨s, hs, hloaded⟩ := loadProject_of_complete next hlisting hopened htexts hcomplete
      obtain ⟨rules, hgoverned⟩ := hs.governed
      rw [hloaded] at hrun
      exact ⟨s, rules, hs.dir_eq, hs.files_eq, hgoverned, hrun⟩
    · obtain ⟨hdir, hstore, hdetectors, hexists⟩ := Project.ofDirectory_spec hopened
      -- The texts of the files have no part in the failure.
      unfold RuleSources.texts at he
      rw [Json.textsFrom_append_map_string, ← hdir] at he
      have happlied := applySources_of_notText (s := ⟨p, v⟩) hstore hlisting hdetectors hexists he
      rw [hrun, loadProject_of_error next hopened happlied]
      rfl
  · -- A run that fails for the threshold has status 1 and writes nothing either.
    intro hnot
    cases hsetup : (Log.configure { level := i.logLevel } w).1 with
    | error e =>
        rw [run_of_levelError hline (some store) hsetup]
        exact ⟨rfl, rfl⟩
    | ok setup =>
        obtain ⟨v, hfiles, hrun⟩ := run_of_setup hline hcommand (some store) hsetup
        rw [huses.runCommand_eq] at hrun
        rw [← hfiles] at hnot
        obtain ⟨e, he⟩ := loadProject_refused next hlisting hnot
        rw [hrun, he]
        exact outcomeOf_error _ e _
  · intro e he
    exact ⟨run_of_levelError hline (some store) he,
      (Log.configure_eq_error_iff.1 he).imp And.left And.left⟩

/-- A store with a template for projects with packages. -/
def sampleStore : TemplateStore :=
  .ofListing ⟨[], .here, 1000⟩ ⟨[("node".toList, .ofText "node".toList "node_modules/".toList)]⟩

/-- A directory with packages and an ignore file, and beside it another ignore file. -/
def sampleWorld : World :=
  .ofFiles ⟨.folder "p".toList
    (.file "package.json".toList .empty (.file ".gitignore".toList (Text.encode "*.log".toList) .empty))
    (.file "x".toList (Text.encode "!keep.log".toList) .empty), []⟩

theorem ofDirectory_sample :
    Project.ofDirectory "p".toList (some sampleStore) Detectors.standard sampleWorld.files =
      .ok { dir := Path.parse "p".toList, isGit := false, detectors := Detectors.standard,
            store := some sampleStore } :=
  rfl

/-- The rules of a template, of the directory's own file and of another file, in this order; and a file
that is not there. -/
theorem run_rules_sample :
    (∃ setup s rules, (Log.configure {} sampleWorld).1 = .ok setup ∧
      s.Governed ["node_modules/".toList, "*.log".toList, "!keep.log".toList] rules ∧
      (run (some sampleStore) sampleWorld
          ["check".toList, "p".toList, "--ignore-file=x".toList, "keep.log".toList]).1 =
        outcomeOf setup (checkPaths ["keep.log".toList] false s).1
          (checkPaths ["keep.log".toList] false s).2) ∧
    exitStatus (run (some sampleStore) sampleWorld
      ["stats".toList, "p".toList, "--ignore".toList, "y".toList]).1 = 1 ∧
    standardOutput (run (some sampleStore) sampleWorld
      ["stats".toList, "p".toList, "--ignore".toList, "y".toList]).1 = .text [] := by
  have hcheck : Invocation.parse ["check".toList, "p".toList, "--ignore-file=x".toList, "keep.log".toList] =
      .ok { command := some (.check "p".toList ["keep.log".toList] { files := ["x".toList] } false) } := rfl
  have hstats : Invocation.parse ["stats".toList, "p".toList, "--ignore".toList, "y".toList] =
      .ok { command := some (.stats "p".toList { files := ["y".toList] } false) } := rfl
  obtain ⟨setup, hsetup⟩ : ∃ setup, (Log.configure {} sampleWorld).1 = .ok setup := ⟨_, rfl⟩
  have hcomplete : ∀ path ∈ ({ files := ["x".toList] } : RuleSources).required sampleWorld.files
      (Path.parse "p".toList), IgnoreFile.completeAt sampleWorld.files path = true := by
    decide +kernel
  have hmissing : ∃ path ∈ ({ files := ["y".toList] } : RuleSources).required sampleWorld.files
      (Path.parse "p".toList), IgnoreFile.completeAt sampleWorld.files path = false := by
    decide +kernel
  have htexts : ({ files := ["x".toList] } : RuleSources).texts
      ⟨[("node".toList, .ofText "node".toList "node_modules/".toList)]⟩ sampleWorld.files
      (Path.parse "p".toList) =
        ["node_modules/".toList, "*.log".toList, "!keep.log".toList].map .string := rfl
  have hlisting : sampleStore.listing =
      some ⟨[("node".toList, .ofText "node".toList "node_modules/".toList)]⟩ := rfl
  obtain ⟨-, hforce, -⟩ := run_rules (w := sampleWorld) hcheck rfl (.check _ _ _ _) hlisting
  obtain ⟨-, -, hrefused, -⟩ := run_rules (w := sampleWorld) hstats rfl (.stats _ _ _) hlisting
  obtain ⟨hgoverns, -⟩ := hforce setup _ hsetup ofDirectory_sample
  obtain ⟨s, rules, -, -, hgoverned, hrun⟩ := hgoverns _ htexts hcomplete
  exact ⟨⟨setup, s, rules, hsetup, hgoverned, hrun⟩, hrefused hmissing⟩

/-- With the name of a format for the threshold, the rules of a directory whose files are all read in full
are never in force: the run fails, where with the name of a level it shows the path. -/
theorem run_without_level :
    (∀ path ∈ ({} : RuleSources).required sampleWorld.files (Path.parse "p".toList),
      IgnoreFile.completeAt sampleWorld.files path = true) ∧
    (∃ i, Invocation.parse ["--log-level".toList, "BASIC_FORMAT".toList, "check".toList, "p".toList,
        "a.log".toList] = .ok i ∧ i.command = some (.check "p".toList ["a.log".toList] {} false)) ∧
    (run (some sampleStore) sampleWorld ["--log-level".toList, "BASIC_FORMAT".toList, "check".toList,
      "p".toList, "a.log".toList]).1 = .error (.level (.unknown Log.basicFormat)) ∧
    standardOutput (run (some sampleStore) sampleWorld ["--log-level".toList, "INFO".toList,
      "check".toList, "p".toList, "a.log".toList]).1 = .text "ignored\ta.log\n".toList := by
  refine ⟨by decide +kernel, ⟨_, rfl, rfl⟩, rfl, ?_⟩
  decide +kernel

end Runs

end Cli

end IgnoreRules
