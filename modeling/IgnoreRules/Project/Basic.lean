import IgnoreRules.Detection.Table
import IgnoreRules.IgnoreFile.Loader
import IgnoreRules.Statistics
import IgnoreRules.Template.Store

/-!
# Projects

A project is a directory with the ignore rules that apply to it.  Its rules come from a list of texts:
each change to the texts builds the rules anew from all of them, and texts that do not compile leave a
set that ignores nothing.  What a template brings is taken for a text unseen; if it is none, the rules
are not built and those there are stay.  Operations take a project together with the world it is in; an
operation that fails keeps the changes it made before.

## Main definitions

* `Project`, `Session` : a project, and a project in a world.
* `Project.ofDirectory` : a project for a directory that exists.
* `Session.parse` : languages, and the rules of their templates.
* `Session.setText`, `Session.useIgnoreFile` : more texts, or others.
* `Session.check` : what is known about a path.
* `Session.countLines` : statistics of the files that are kept.
-/

namespace IgnoreRules

/-- A directory and the rules that apply to it. -/
structure Project where
  dir : Path
  /-- Whether the directory is the root of a repository. -/
  isGit : Bool
  detectors : Detectors
  /-- Where templates come from, once that is known. -/
  store : Option TemplateStore
  languages : Option (List Text) := none
  /-- What the rules are made from.  A template may have brought something that is no text. -/
  texts : Option (List Json) := none
  rules : Option RuleSet := none
  statistics : Option Statistics := none

/-- A project in the world it is in. -/
structure Session where
  project : Project
  world : World

/-- What is known about a path. -/
structure Finding where
  found : Bool
  isDir : Bool
  isIgnored : Bool
  deriving DecidableEq, Repr

/-! ## Opening -/

/-- The project of a directory. -/
def Project.ofDirectory (directory : Text) (store : Option TemplateStore) (detectors : Detectors)
    (files : FileSystem) : Except Failure Project :=
  let dir := Path.parse directory
  match files.exists? dir with
  | .error e => .error (.file e)
  | .ok false => .error (.project (.noDirectory directory))
  | .ok true =>
      match files.exists? (dir.child ".git".toList) with
      | .error e => .error (.file e)
      | .ok isGit => .ok { dir := dir, isGit := isGit, detectors := detectors, store := store }

/-- The project as it is shown. -/
def Project.describe (p : Project) : String :=
  let languages := match p.languages with
    | none => "None"
    | some languages => Text.quotedList languages
  let rules := match p.rules with
    | none => "None"
    | some rules => rules.describe
  s!"Project(dir={Text.quoted p.dir.text}, langs={languages}, " ++
    s!"is_git={Text.shownBool p.isGit}, ruleset={rules})"

namespace World

/-! ## Languages of a directory -/

/-- The entries that a path to a directory lists. -/
def dirEntries (path : Path) (folder : Folder) : List DirEntry :=
  folder.entries.map fun (name, node) => DirEntry.ofPath (path.child name) (!node.isFolder)

/-- The languages that some detectors find in a directory. -/
def detect (w : World) (detectors : Detectors) (path : Path) :
    Except FileError (List Text) × World :=
  match w.files.folder path with
  | .ok folder =>
      let languages := detectors.detect (dirEntries path folder)
      let shown := if languages.isEmpty then "none" else Text.quotedList languages
      (.ok languages,
        w.note .info Log.Component.detection s!"Detected languages in {path.shown}: {shown}")
  | .error e =>
      if e.meansAbsent then
        (.ok [], w.note .warning Log.Component.detection
          s!"Not a directory, skipping language detection: {path.shown}")
      else
        (.error e, w)

/-! ## Building rules -/

/-- Notes that rules were built. -/
def noteRules (w : World) (rules : RuleSet) : World :=
  (w.note .debug Log.Component.globs s!"Compiled {rules.size} globs into one matcher").note
    .debug Log.Component.rules s!"Built ruleset with {rules.size} rules for {rules.root.shown}"

end World

namespace Session

/-! ## The rules of the texts -/

/-- The text that several texts are read as: an empty line stands between neighbours. -/
def joinTexts (texts : List Text) : Text :=
  List.intercalate ['\n', '\n'] texts

/-- Builds the rules from some texts. -/
def build (s : Session) (texts : List Text) : Session :=
  let (rules, world) :=
    match RuleSet.ofText s.project.dir (joinTexts texts) with
    | .ok rules => (rules, s.world.noteRules rules)
    | .error e =>
        let none := RuleSet.empty s.project.dir
        (none, (s.world.note .error Log.Component.project
          s!"Invalid ignore rules for {s.project.dir.shown}, ignoring nothing: {e.message}").noteRules
            none)
  { project := { s.project with rules := some rules }
    world := world.noteWith .debug Log.Component.project "Rebuilt ignore rules"
      [("project".toList, .string s.project.dir.text), ("rules".toList, Json.ofNat rules.size),
        ("blocks".toList, Json.ofNat texts.length)] }

/-- Builds the rules from the texts of the project; if one of them is no text, the rules stay. -/
def rebuild (s : Session) : Except Failure Unit × Session :=
  match Json.textsFrom 0 (s.project.texts.getD []) with
  | .error e => (.error (.notText e), s)
  | .ok texts => (.ok (), s.build texts)

/-- Sets the texts and builds the rules from them. -/
def setTexts (s : Session) (texts : Option (List Json)) : Except Failure Unit × Session :=
  rebuild { s with project := { s.project with texts := texts } }

/-- Adds a text behind those there are, or puts it in their place. -/
def setText (s : Session) (text : Text) (keepExisting : Bool) : Except Failure Unit × Session :=
  let existing := if keepExisting then s.project.texts.getD [] else []
  s.setTexts (some (existing ++ [.string text]))

/-! ## Templates -/

/-- The store of the project; without one the environment says where templates come from. -/
def storeOf (s : Session) : Except Failure TemplateStore :=
  match s.project.store with
  | some store => .ok store
  | none =>
      match TemplateConfig.ofEnvironment s.world.env with
      | .error e => .error (.config e)
      | .ok config => .ok ⟨config, true, none⟩

/-- The session with the store and the world that an operation on the store left. -/
def afterStore (s : Session) (store : TemplateStore) (world : World) : Session :=
  { project := { s.project with store := some store }, world := world }

/-- The contents of the templates for some languages; templates that cannot be had are none. -/
def templateTexts (s : Session) (languages : List Text) : Except Failure (List Json) × Session :=
  match s.storeOf with
  | .error e => (.error e, s)
  | .ok store =>
      match store.textsFor languages s.world with
      | (.ok texts, store, world) => (.ok texts, s.afterStore store world)
      | (.error (.template e), store, world) =>
          (.ok [], s.afterStore store (world.note .error Log.Component.project
            s!"Could not load ignore templates: {e.message}"))
      | (.error e, store, world) => (.error e, s.afterStore store world)

/-- Detects the languages and takes the texts of their templates for the rules. -/
def parse (s : Session) : Except Failure Unit × Session :=
  match s.world.detect s.project.detectors s.project.dir with
  | (.error e, world) => (.error (.file e), { s with world := world })
  | (.ok languages, world) =>
      let s : Session := { project := { s.project with languages := some languages }, world := world }
      match s.templateTexts languages with
      | (.error e, s) => (.error e, s)
      | (.ok texts, s) => s.setTexts (if texts.isEmpty then none else some texts)

/-! ## Ignore files -/

/-- The text that a loaded file contributes, unless it was not read in full. -/
def textOf (f : IgnoreFile) : Except Failure Text :=
  match f.fatalProblems with
  | [] => .ok f.text
  | problem :: _ => .error (.project (.incompleteFile f.path problem.cause.message))

/-- Loads a file that has to be there and adds its text. -/
def addIgnoreFile (s : Session) (path : Path) : Except Failure Unit × Session :=
  match IgnoreFile.load path s.world with
  | (.error e, world) => (.error (.file e), { s with world := world })
  | (.ok f, world) =>
      let s := { s with world := world }
      match textOf f with
      | .error e => (.error e, s)
      | .ok text => s.setText text true

/-- Adds the text of the project's own ignore file, or puts it in place of the texts there are.  A
missing file contributes an empty text. -/
def useIgnoreFile (s : Session) (keepExisting : Bool) : Except Failure Unit × Session :=
  match IgnoreFile.load (s.project.dir.child IgnoreFile.standardName) s.world with
  | (.error e, world) => (.error (.file e), { s with world := world })
  | (.ok f, world) =>
      let s := { s with world := world }
      if f.isMissing then s.setText [] keepExisting
      else
        match textOf f with
        | .error e => (.error e, s)
        | .ok text => s.setText text keepExisting

/-! ## Questions -/

/-- What is known about a path, seen from the directory of the project unless it is absolute.  What
exists is what it is; of what does not, a path without a suffix is taken for a directory. -/
def check (s : Session) (path : Text) : Except Failure Finding × Session :=
  let full := s.project.dir.append (Path.parse path)
  match s.world.files.exists? full, s.world.files.isFolder full with
  | .error e, _ => (.error (.file e), s)
  | _, .error e => (.error (.file e), s)
  | .ok found, .ok isFolder =>
      let isDir := if found then isFolder else (Path.parse path).suffix = []
      let world :=
        if found then s.world
        else s.world.note .debug Log.Component.project
          s!"{full.shown} does not exist, guessing is_dir={Text.shownBool isDir}"
      match s.project.rules with
      | none => (.ok ⟨found, isDir, false⟩, { s with world := world })
      | some rules =>
          let visit := Visit.of rules full isDir
          (.ok ⟨found, isDir, !visit.isKept⟩, { s with world := world.noteVisit visit })

/-- The rules to count by.  A set without rules is built anew. -/
def rulesForCounting (s : Session) : RuleSet × World :=
  let none := RuleSet.empty s.project.dir
  match s.project.rules with
  | some rules => if rules.size = 0 then (none, s.world.noteRules none) else (rules, s.world)
  | _ => (none, s.world.noteRules none)

/-- Counts the lines of all files that are kept. -/
def countLines (s : Session) : Statistics × Session :=
  let (rules, world) := s.rulesForCounting
  let (counts, world) := world.statistics rules s.project.dir
  (counts, { project := { s.project with statistics := some counts }, world := world })

end Session

end IgnoreRules
