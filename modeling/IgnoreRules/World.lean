import IgnoreRules.FileSystem.Basic
import IgnoreRules.Log.Basic
import IgnoreRules.Web.Basic

/-!
# The world around a project

Everything outside a project that its operations read or change: the files, the web, the environment
and the journal of log records.  Operations take a world and give the one they leave behind.
-/

namespace IgnoreRules

/-- Settings that come from outside. -/
structure Environment where
  /-- The variables that are set, each with its value. -/
  bindings : List (Text × Text)
  /-- The directory for temporary files. -/
  tempDir : Path
  /-- How many arrays and objects may be open at once in a JSON text that is read. -/
  nesting : Nat

/-- The value of a variable, if it is set. -/
def Environment.get? (env : Environment) (name : String) : Option Text :=
  env.bindings.lookup name.toList

/-- What a project works in. -/
structure World where
  files : FileSystem
  web : Web
  env : Environment
  /-- The log records made so far, latest first. -/
  journal : List Log.Record := []

namespace World

/-- A world with nothing but files. -/
def ofFiles (files : FileSystem) : World :=
  { files := files, web := .offline, env := ⟨[], .here, 1000⟩ }

/-- Adds a record to the journal. -/
def note (w : World) (level : Log.Level) (component message : String) : World :=
  { w with journal := ⟨level, component, message, []⟩ :: w.journal }

/-- Adds a record with a context to the journal. -/
def noteWith (w : World) (level : Log.Level) (component message : String)
    (context : List (Text × Json)) : World :=
  { w with journal := ⟨level, component, message, context⟩ :: w.journal }

/-- The records in the order they were made. -/
def records (w : World) : List Log.Record :=
  w.journal.reverse

end World

end IgnoreRules
