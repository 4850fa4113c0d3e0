import IgnoreRules.Cli.Options
import IgnoreRules.Json.Printer
import IgnoreRules.Log.Setup
import IgnoreRules.Project.Basic

/-!
# Running a command

Carrying out a command line in a world.  A project that cannot be used ends the command with status 1
and nothing on standard output; whatever else goes wrong is a failure of the run itself.

## Main definitions

* `Cli.Outcome` : what a command shows and its exit status.
* `Cli.loadProject` : a project with the rules that a command asks for.
* `Cli.run` : a whole command line.
* `Cli.exitStatus`, `Cli.standardOutput` : what a run comes to.
-/

namespace IgnoreRules

namespace Cli

/-! ## Outcomes -/

/-- What goes to standard output. -/
inductive Output
  | usage
  | text (t : Text)
  deriving DecidableEq, Repr

/-- A line on the error stream. -/
inductive ErrorLine
  /-- The usage, because the command line was not understood. -/
  | usage
  | record (r : Log.Record)
  | message (text : String)

/-- What a command shows and its exit status. -/
structure Outcome where
  status : Nat
  output : Output
  errors : List ErrorLine
  /-- Whether records are shown as values. -/
  structured : Bool := false

/-- A status and lines for standard output. -/
structure Report where
  status : Nat
  lines : List Text

/-- Lines as one text, each with its ending. -/
def Report.text (r : Report) : Text :=
  r.lines.flatMap fun line => line ++ ['\n']

/-! ## Projects -/

/-- Adds the texts of ignore files, up to the first that cannot be used. -/
def addFiles (s : Session) : List Text → Except Failure Unit × Session
  | [] => (.ok (), s)
  | file :: files =>
      match s.addIgnoreFile (Path.parse file) with
      | (.error e, s) => (.error e, s)
      | (.ok (), s) => addFiles s files

/-- Takes the rules from where a command says. -/
def applySources (s : Session) (sources : RuleSources) : Except Failure Unit × Session :=
  let (outcome, s) :=
    if sources.templates then s.parse else s.setText [] false
  match outcome with
  | .error e => (.error e, s)
  | .ok () =>
      let (outcome, s) := if sources.ownFile then s.useIgnoreFile true else (.ok (), s)
      match outcome with
      | .error e => (.error e, s)
      | .ok () => addFiles s sources.files

/-- Opens a project and carries on with it. -/
def withProject (directory : Text) (store : Option TemplateStore) (w : World)
    (next : Session → Except Failure Report × World) : Except Failure Report × World :=
  match Project.ofDirectory directory store Detectors.standard w.files with
  | .error e => (.error e, w)
  | .ok project => next ⟨project, w⟩

/-- Opens a project, takes its rules from where a command says, and carries on with it. -/
def loadProject (directory : Text) (sources : RuleSources) (store : Option TemplateStore)
    (w : World) (next : Session → Except Failure Report × World) : Except Failure Report × World :=
  withProject directory store w fun s =>
    match applySources s sources with
    | (.error e, s) => (.error e, s.world)
    | (.ok (), s) => next s

/-! ## Checking paths -/

/-- What is known about some paths, each path once. -/
def checkAll (s : Session) (found : List (Text × Finding)) :
    List Text → Except Failure (List (Text × Finding)) × Session
  | [] => (.ok found, s)
  | path :: paths =>
      match s.check path with
      | (.error e, s) => (.error e, s)
      | (.ok finding, s) =>
          let found :=
            if found.any (·.1 = path) then
              found.map fun f => if f.1 = path then (path, finding) else f
            else
              found ++ [(path, finding)]
          checkAll s found paths

/-- The findings as a value. -/
def findingsValue (findings : List (Text × Finding)) : Json :=
  .object <| findings.map fun (path, f) =>
    (path, .object [("ignored".toList, .bool f.isIgnored), ("is_dir".toList, .bool f.isDir),
      ("exists".toList, .bool f.found)])

/-- A finding as a line. -/
def findingLine (path : Text) (f : Finding) : Text :=
  (if f.isIgnored then "ignored" else "kept").toList ++ '\t' :: path

/-- The findings as they are shown. -/
def findingsReport (findings : List (Text × Finding)) (json : Bool) : Report :=
  ⟨0, if json then [(findingsValue findings).pretty]
    else findings.map fun (path, f) => findingLine path f⟩

/-! ## Statistics -/

/-- A count as a value. -/
def countValue (n : LineCount) : Json :=
  .object [("code".toList, Json.ofInt n.code), ("comment".toList, Json.ofInt n.comment),
    ("blank".toList, Json.ofInt n.blank), ("lines".toList, Json.ofInt n.lines)]

/-- A text with blanks behind it up to a width. -/
def padRight (width : Nat) (t : Text) : Text :=
  t ++ List.replicate (width - t.length) ' '

/-- A text with blanks in front of it up to a width. -/
def padLeft (width : Nat) (t : Text) : Text :=
  List.replicate (width - t.length) ' ' ++ t

/-- A row of the table of counts. -/
def tableRow (first : Text) (others : List Text) : Text :=
  padRight 16 first ++ others.flatMap (padLeft 10)

/-- The row of a language. -/
def countRow (language : Text) (n : LineCount) : Text :=
  tableRow language ([n.lines, n.code, n.comment, n.blank].map fun k => (toString k).toList)

/-- The head of the table of counts. -/
def tableHead : Text :=
  tableRow "Language".toList (["Lines", "Code", "Comment", "Blank"].map (·.toList))

/-- The counts as they are shown. -/
def countsReport (counts : Statistics) (json : Bool) : Report :=
  ⟨0, if json then
      [(Json.object (counts.sorted.map fun (language, n) => (language, countValue n))).pretty]
    else tableHead :: counts.sorted.map fun (language, n) => countRow language n⟩

/-! ## Validating -/

/-- A remark on a line of a file. -/
def remark (f : IgnoreFile) (line : Nat) (kind message : String) (pattern : Text) : Text :=
  s!"{f.place line}: {kind}: {message} ({String.ofList pattern})".toList

/-- The problems and doubts of a file as they are shown. -/
def validationReport (f : IgnoreFile) : Report :=
  let problems := f.problems.map fun p => remark f p.line "error" p.cause.message p.pattern
  let doubts := f.doubts.map fun d => remark f d.line "warning" d.concern.message d.pattern
  if f.isValid then
    ⟨0, problems ++ doubts ++ [s!"{f.path.shown}: {f.tally.pattern} patterns OK".toList]⟩
  else
    ⟨1, problems ++ doubts⟩

/-! ## Commands -/

/-- Shows which of some paths are ignored. -/
def checkPaths (paths : List Text) (json : Bool) (s : Session) : Except Failure Report × World :=
  match checkAll s [] paths with
  | (.error e, s) => (.error e, s.world)
  | (.ok findings, s) => (.ok (findingsReport findings json), s.world)

/-- Shows the counts by language. -/
def countLanguages (json : Bool) (s : Session) : Except Failure Report × World :=
  let (counts, s) := s.countLines
  (.ok (countsReport counts json), s.world)

/-- Carries out a command. -/
def runCommand (store : Option TemplateStore) (w : World) :
    Command → Except Failure Report × World
  | .check directory paths sources json =>
      loadProject directory sources store w (checkPaths paths json)
  | .detect directory =>
      withProject directory store w fun s =>
        match s.world.detect Detectors.standard s.project.dir with
        | (.error e, w) => (.error (.file e), w)
        | (.ok languages, w) => (.ok ⟨0, languages⟩, w)
  | .stats directory sources json =>
      loadProject directory sources store w (countLanguages json)
  | .validate file =>
      match IgnoreFile.load (Path.parse file) w with
      | (.error e, w) => (.error (.file e), w)
      | (.ok f, w) => (.ok (validationReport f), w)

/-- The program's name and version. -/
def versionLine : Text :=
  "projignore 0.3.0\n".toList

/-- What a run shows once its command is carried out. -/
def outcomeOf (setup : Log.Setup) (result : Except Failure Report) (w : World) :
    Except Failure Outcome :=
  let records := (setup.shown w).map ErrorLine.record
  match result with
  | .ok report => .ok ⟨report.status, .text report.text, records, setup.structured⟩
  | .error (.project e) =>
      .ok ⟨1, .text [], records ++ [.message s!"Error: {e.message}"], setup.structured⟩
  | .error e => .error e

/-- Carries out what a command line asks for.  The log is set up before anything else. -/
def runInvocation (store : Option TemplateStore) (w : World) (i : Invocation) :
    Except Failure Outcome × World :=
  match Log.configure { level := i.logLevel } w with
  | (.error e, w) => (.error (.level e), w)
  | (.ok setup, w) =>
      match i.command with
      | none => (.ok ⟨0, .usage, (setup.shown w).map .record, setup.structured⟩, w)
      | some command =>
          let (result, w) := runCommand store w command
          (outcomeOf setup result w, w)

/-- Carries out a command line. -/
def run (store : Option TemplateStore) (w : World) (line : List Text) :
    Except Failure Outcome × World :=
  match Invocation.parse line with
  | .ok i => runInvocation store w i
  | .error .help => (.ok ⟨0, .usage, [], false⟩, w)
  | .error .version => (.ok ⟨0, .text versionLine, [], false⟩, w)
  | .error .misuse => (.ok ⟨2, .text [], [.usage], false⟩, w)

/-! ## Results -/

/-- The exit status that a run comes to; a failure that no command expects counts as status 1. -/
def exitStatus : Except Failure Outcome → Nat
  | .ok o => o.status
  | .error _ => 1

/-- What a run writes to standard output; a failure that no command expects writes nothing. -/
def standardOutput : Except Failure Outcome → Output
  | .ok o => o.output
  | .error _ => .text []

end Cli

end IgnoreRules
