import IgnoreRules.IgnoreFile.Basic
import IgnoreRules.World

/-!
# Loading ignore files

Reading an ignore file from disk.  A file that is missing, too large, no file or not UTF-8 gives an
`IgnoreFile` that says so; all its problems and doubts go to the journal, except that a missing file is
not worth a record.
-/

namespace IgnoreRules

namespace IgnoreFile

/-- The usual name of an ignore file. -/
def standardName : Text :=
  ".gitignore".toList

/-- What is read from what a path leads to. -/
def ofNode (path : Path) : Node → IgnoreFile
  | .folder _ => failed path (.unreadable FileError.isFolder.message)
  | .file bytes =>
      if maxBytes < bytes.size then failed path (.tooLarge bytes.size)
      else
        match Text.decode? bytes with
        | none => failed path (.unreadable "not UTF-8")
        | some content => ofText path (Text.unifyReturns content)

/-- Reads a file; only a path that cannot be looked up is an error. -/
def read (files : FileSystem) (path : Path) : Except FileError IgnoreFile :=
  match files.node path with
  | .ok node => .ok (ofNode path node)
  | .error e => if e.meansAbsent then .ok (failed path (.notFound path)) else .error e

/-! ## Reporting -/

/-- A place in the file, as it is shown in records. -/
def place (f : IgnoreFile) (line : Nat) : String :=
  s!"{f.path.shown}:{line}"

/-- Whether the file was not there. -/
def isMissing (f : IgnoreFile) : Bool :=
  f.problems.any fun p =>
    match p.cause with
    | .notFound _ => true
    | _ => false

/-- Notes the problems and then the doubts. -/
def report (f : IgnoreFile) (w : World) : World :=
  if f.isMissing then w
  else
    let w := f.problems.foldl (fun w p =>
      w.note .error Log.Component.files s!"{f.place p.line}: {p.cause.message}") w
    f.doubts.foldl (fun w d =>
      w.note .warning Log.Component.files s!"{f.place d.line}: {d.concern.message}") w

/-- Reads a file and reports on it. -/
def load (path : Path) (w : World) : Except FileError IgnoreFile × World :=
  match read w.files path with
  | .error e => (.error e, w)
  | .ok f => (.ok f, f.report w)

end IgnoreFile

end IgnoreRules
