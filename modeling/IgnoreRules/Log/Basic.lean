import IgnoreRules.Json.Basic
import IgnoreRules.Text.Letter
import IgnoreRules.Text.Quoted

/-!
# Log records

What the program reports about its own work.  A record has a level, the component that made it, a
message that is shown as it is, and fields for readers of structured logs.  Whether and how a record
is shown is decided elsewhere.

## Main definitions

* `Log.Level`, `Log.threshold` : levels, and the number that a name stands for if it names a level.
* `Log.Record` : a record, with its three forms `line`, `fileLine` and `value`.
-/

namespace IgnoreRules

namespace Log

/-! ## Levels -/

/-- How important a record is. -/
inductive Level
  | trace
  | debug
  | info
  | warning
  | error
  | critical
  deriving DecidableEq, Repr

namespace Level

/-- The number that levels are compared by. -/
def number : Level → Nat
  | trace => 5
  | debug => 10
  | info => 20
  | warning => 30
  | error => 40
  | critical => 50

/-- The name that a record shows. -/
def name : Level → String
  | trace => "TRACE"
  | debug => "DEBUG"
  | info => "INFO"
  | warning => "WARNING"
  | error => "ERROR"
  | critical => "CRITICAL"

end Level

/-- What a name stands for in the library that keeps the log. -/
inductive Meaning
  | number (n : Nat)
  | text (t : String)
  /-- A table, as it is shown. -/
  | table (shown : String)
  deriving DecidableEq, Repr

/-- The line that a record is written as unless something else is asked for. -/
def basicFormat : String := "%(levelname)s:%(name)s:%(message)s"

/-- The table of the ways to write a record, as it is shown. -/
def stylesShown : String :=
  "\x7b'%': (<class 'logging.PercentStyle'>, '%(levelname)s:%(name)s:%(message)s'), " ++
    "'\x7b': (<class 'logging.StrFormatStyle'>, '\x7blevelname\x7d:\x7bname\x7d:\x7bmessage\x7d'), " ++
    "'$': (<class 'logging.StringTemplateStyle'>, " ++
    "'$\x7blevelname\x7d:$\x7bname\x7d:$\x7bmessage\x7d')\x7d"

/-- The names in upper case that stand for something.  Not all of them name levels. -/
def meanings : List (String × Meaning) :=
  [("TRACE", .number 5), ("NOTSET", .number 0), ("DEBUG", .number 10), ("INFO", .number 20),
    ("WARN", .number 30), ("WARNING", .number 30), ("ERROR", .number 40), ("FATAL", .number 50),
    ("CRITICAL", .number 50), ("BASIC_FORMAT", .text basicFormat), ("_STYLES", .table stylesShown)]

/-- What a name in any letter case stands for; an unknown name stands for `INFO`. -/
def meaning (name : Text) : Meaning :=
  match meanings.find? fun entry => entry.1.toList = Text.upper name with
  | some entry => entry.2
  | none => .number 20

/-- Why there is no threshold. -/
inductive LevelError
  /-- A text that names no level. -/
  | unknown (text : String)
  /-- What is neither a number nor a text. -/
  | noLevel (shown : String)
  deriving DecidableEq, Repr

/-- The wording of the reason. -/
def LevelError.message : LevelError → String
  | unknown text => s!"Unknown level: {Text.quoted text.toList}"
  | noLevel shown => s!"Level not an integer or a valid string: {shown}"

/-- The threshold that a name stands for. -/
def threshold (name : Text) : Except LevelError Nat :=
  match meaning name with
  | .number n => .ok n
  | .text t => .error (.unknown t)
  | .table shown => .error (.noLevel shown)

/-! ## Components -/

namespace Component

/-- The application as a whole. -/
def application : String := "projignore"

/-- What reads globs. -/
def globs : String := "projignore.ignore.compiler"

/-- What decides about paths. -/
def rules : String := "projignore.ignore.ruleset"

/-- What reads ignore files. -/
def files : String := "projignore.ignore.file_loader"

/-- What finds the languages of a project. -/
def detection : String := "projignore.project.detection"

/-- What counts lines. -/
def counting : String := "projignore.project.stats"

/-- What provides templates. -/
def templates : String := "projignore.project.templates"

/-- What keeps the rules of a project. -/
def project : String := "projignore.project.project"

end Component

/-! ## Records -/

/-- A log record. -/
structure Record where
  level : Level
  component : String
  message : String
  context : List (Text × Json) := []

namespace Record

/-- The record as a line for people. -/
def line (r : Record) : String :=
  s!"{r.level.name}: {r.message}"

/-- The record as a line of a log file, behind the time. -/
def fileLine (r : Record) : String :=
  s!"{r.component} - {r.level.name} - {r.message}"

/-- The record as a value; fields of the context come last and replace those of the same name. -/
def value (r : Record) : Json :=
  .object <| Json.mergeFields <|
    [("level".toList, Json.ofString r.level.name), ("component".toList, Json.ofString r.component),
      ("message".toList, Json.ofString r.message)] ++ r.context

end Record

end Log

end IgnoreRules
