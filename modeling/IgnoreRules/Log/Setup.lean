import IgnoreRules.Text.Quoted
import IgnoreRules.World

/-!
# Setting up the log

Which records are shown, where, and in what form.  The threshold is asked for on the command line or by
the environment; records below it are not shown anywhere.

## Main definitions

* `Log.Request` : what is asked for.
* `Log.Setup` : what is in force.
* `Log.configure` : from one to the other.
* `Log.Setup.openFiles` : the files that take records.
* `Log.Setup.shown` : the records of a journal that are shown.
-/

namespace IgnoreRules

namespace Log

/-- What is asked for. -/
structure Request where
  /-- The name of the threshold. -/
  level : Option Text := none
  /-- A file that also takes the records. -/
  file : Option Text := none
  /-- Whether the file is changed for a new one when it has grown large. -/
  rotate : Bool := true
  /-- Whether the libraries for the web only show warnings. -/
  quietLibraries : Bool := true

/-- Where records go to. -/
inductive Sink
  | errorStream
  | rotatingFile (path : Path)
  | plainFile (path : Path)
  deriving DecidableEq, Repr

/-- The file of a sink. -/
def Sink.path? : Sink → Option Path
  | errorStream => none
  | rotatingFile path | plainFile path => some path

/-- What is in force. -/
structure Setup where
  threshold : Nat
  /-- Whether the error stream shows records as values. -/
  structured : Bool
  sinks : List Sink
  /-- The threshold of the libraries for the web, if they have their own. -/
  libraryThreshold : Option Nat
  deriving DecidableEq, Repr

/-- Whether a variable is set to one of the words for yes. -/
def isFlagSet (env : Environment) (name : String) : Bool :=
  let value := Text.lower ((env.get? name).getD [])
  ["1", "true", "yes", "on"].any fun word => word.toList = value

/-- The first text that is not empty. -/
def firstGiven (texts : List (Option Text)) (default : Text) : Text :=
  ((texts.filterMap id).find? (· != [])).getD default

/-- The name of the threshold that is in force.  A variable of the surroundings counts even when it is
set to nothing. -/
def levelName (request : Request) (env : Environment) : Text :=
  firstGiven [request.level, env.get? "PROJIGNORE_LOG_LEVEL"]
    ((env.get? "LOG_LEVEL").getD "WARNING".toList)

/-- The sinks that are asked for. -/
def sinks (request : Request) : List Sink :=
  match request.file with
  | none | some [] => [.errorStream]
  | some file =>
      let path := Path.parse file
      [.errorStream, if request.rotate then .rotatingFile path else .plainFile path]

/-- What is asked for comes into force, which is noted.  A name that stands for something else than a
level is a failure. -/
def configure (request : Request) (w : World) : Except LevelError Setup × World :=
  let name := levelName request w.env
  let structured := isFlagSet w.env "PROJIGNORE_LOG_JSON"
  match threshold name with
  | .error e => (.error e, w)
  | .ok n =>
      let setup : Setup :=
        { threshold := n
          structured := structured
          sinks := sinks request
          libraryThreshold := if request.quietLibraries then some Level.warning.number else none }
      (.ok setup, w.note .debug Component.application
        s!"Logging configured - Level: {String.ofList (Text.upper name)}, JSON: {Text.shownBool structured}")

/-! ## Files -/

/-- The files that take records. -/
def Setup.files (s : Setup) : List Path :=
  s.sinks.filterMap Sink.path?

/-- Opens a file for records, making the folders on the way; what it holds already stays. -/
def openFile (files : FileSystem) (path : Path) : Except FileError FileSystem :=
  match files.makeFolders path.parent with
  | (some e, _) => .error e
  | (none, files) => files.makeFile path

/-- Opens the files that take records. -/
def Setup.openFiles (s : Setup) (files : FileSystem) : Except FileError FileSystem :=
  s.files.foldlM openFile files

/-! ## Showing -/

/-- Whether a record is shown. -/
def Setup.shows (s : Setup) (r : Record) : Bool :=
  decide (s.threshold ≤ r.level.number)

/-- The records of a world that are shown, in order. -/
def Setup.shown (s : Setup) (w : World) : List Record :=
  w.records.filter s.shows

end Log

end IgnoreRules
