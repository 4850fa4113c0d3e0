import IgnoreRules.FileSystem.Folder
import IgnoreRules.Path
import IgnoreRules.Text.Utf8

/-!
# File systems

A file system is a tree of folders and a working directory.  Looking up a path goes through its
components one by one, so `..` leads out of an existing directory only, and the first obstacle met
decides the error.  There are no links and no permissions.

## Main definitions

* `FileError` : why an operation on a path fails.
* `FileSystem.node` : what a path leads to.
* `FileSystem.exists`, `FileSystem.isFolder`, `FileSystem.isFile` : questions about a path.
* `FileSystem.read`, `FileSystem.write`, `FileSystem.makeFolders`.
-/

namespace IgnoreRules

/-! ## Errors -/

/-- Why an operation on a path fails. -/
inductive FileError
  | notFound
  | notFolder
  | isFolder
  | alreadyExists
  | nameTooLong
  | nullCharacter
  deriving DecidableEq, Repr

namespace FileError

/-- The wording of an error. -/
def message : FileError → String
  | notFound => "No such file or directory"
  | notFolder => "Not a directory"
  | isFolder => "Is a directory"
  | alreadyExists => "File exists"
  | nameTooLong => "File name too long"
  | nullCharacter => "embedded null byte"

/-- Whether the error only says that nothing is there. -/
def meansAbsent : FileError → Bool
  | notFound | notFolder | nullCharacter => true
  | isFolder | alreadyExists | nameTooLong => false

end FileError

/-- A tree of folders and the names that lead to the working directory. -/
structure FileSystem where
  root : Folder
  workingDirectory : List Text

namespace FileSystem

/-! ## Looking up -/

/-- The most bytes a component may have. -/
def maxNameBytes : Nat := 255

/-- The bytes a path may not reach. -/
def maxPathBytes : Nat := 4096

/-- Goes on from the names in `location` through further components. -/
def follow (root : Folder) (location : List Text) : List Text → Except FileError (List Text)
  | [] => .ok location
  | part :: parts =>
      match root.nodeAt? location with
      | none => .error .notFound
      | some (.file _) => .error .notFolder
      | some (.folder inside) =>
          if part = ['.', '.'] then
            follow root location.dropLast parts
          else if maxNameBytes < Text.byteLength part then
            .error .nameTooLong
          else if (inside.find? part).isSome then
            follow root (location ++ [part]) parts
          else
            .error .notFound

/-- Where a path starts. -/
def start (fs : FileSystem) (p : Path) : List Text :=
  if p.isAbsolute then [] else fs.workingDirectory

/-- Refuses paths that cannot be looked up at all. -/
def checkPath (p : Path) : Except FileError Unit :=
  if p.text.contains '\x00' then .error .nullCharacter
  else if maxPathBytes ≤ Text.byteLength p.text then .error .nameTooLong
  else .ok ()

/-- The names that lead from the root to what the path means. -/
def locate (fs : FileSystem) (p : Path) : Except FileError (List Text) :=
  match checkPath p with
  | .error e => .error e
  | .ok () => follow fs.root (fs.start p) p.parts

/-- What a path leads to. -/
def node (fs : FileSystem) (p : Path) : Except FileError Node :=
  match fs.locate p with
  | .error e => .error e
  | .ok location =>
      match fs.root.nodeAt? location with
      | none => .error .notFound
      | some n => .ok n

/-! ## Questions -/

/-- The answer to a question about what is there, `false` when nothing is. -/
def ask (fs : FileSystem) (p : Path) (question : Node → Bool) : Except FileError Bool :=
  match fs.node p with
  | .ok n => .ok (question n)
  | .error e => if e.meansAbsent then .ok false else .error e

/-- Whether the path leads to something. -/
def exists? (fs : FileSystem) (p : Path) : Except FileError Bool :=
  fs.ask p fun _ => true

/-- Whether the path leads to a directory. -/
def isFolder (fs : FileSystem) (p : Path) : Except FileError Bool :=
  fs.ask p Node.isFolder

/-- Whether the path leads to a file. -/
def isFile (fs : FileSystem) (p : Path) : Except FileError Bool :=
  fs.ask p fun n => !n.isFolder

/-- The folder that a path leads to. -/
def folder (fs : FileSystem) (p : Path) : Except FileError Folder :=
  match fs.node p with
  | .error e => .error e
  | .ok (.file _) => .error .notFolder
  | .ok (.folder inside) => .ok inside

/-- The bytes of a file. -/
def read (fs : FileSystem) (p : Path) : Except FileError ByteArray :=
  match fs.node p with
  | .error e => .error e
  | .ok (.folder _) => .error .isFolder
  | .ok (.file content) => .ok content

/-! ## Changes -/

/-- The names that lead to an entry which need not exist, in a folder that does. -/
def locateEntry (fs : FileSystem) (p : Path) : Except FileError (List Text) :=
  match checkPath p with
  | .error e => .error e
  | .ok () =>
      match p.parts.getLast? with
      | none => .error .isFolder
      | some name =>
          match follow fs.root (fs.start p) p.parts.dropLast with
          | .error e => .error e
          | .ok location =>
              match fs.root.nodeAt? location with
              | none => .error .notFound
              | some (.file _) => .error .notFolder
              | some (.folder _) =>
                  if name = ['.', '.'] then .error .isFolder
                  else if maxNameBytes < Text.byteLength name then .error .nameTooLong
                  else .ok (location ++ [name])

/-- Writes a file, in place of the one that may be there. -/
def write (fs : FileSystem) (p : Path) (content : ByteArray) : Except FileError FileSystem :=
  match fs.locateEntry p with
  | .error e => .error e
  | .ok location =>
      match fs.root.nodeAt? location with
      | some (.folder _) => .error .isFolder
      | _ => .ok { fs with root := fs.root.putAt (.file content) location }

/-- Makes sure that a path leads to a folder, making it if nothing is there. -/
def makeFolder (fs : FileSystem) (p : Path) : Except FileError FileSystem :=
  match fs.node p with
  | .ok (.folder _) => .ok fs
  | .ok (.file _) => .error .alreadyExists
  | .error .notFound =>
      match fs.locateEntry p with
      | .error e => .error e
      | .ok location => .ok { fs with root := fs.root.putAt (.folder .empty) location }
  | .error e => .error e

/-- Makes sure that a path leads to a file; one that is not there starts out empty. -/
def makeFile (fs : FileSystem) (p : Path) : Except FileError FileSystem :=
  match fs.locateEntry p with
  | .error e => .error e
  | .ok location =>
      match fs.root.nodeAt? location with
      | some (.folder _) => .error .isFolder
      | some (.file _) => .ok fs
      | none => .ok { fs with root := fs.root.putAt (.file .empty) location }

/-- What stops a way of folders: a file at its end is there already, a file before is no folder. -/
def obstacle (e : FileError) (partsLeft : List Text) : FileError :=
  if e = .alreadyExists ∧ partsLeft ≠ [] then .notFolder else e

/-- Makes the folders on the way through `parts`, behind those already `passed`.  What was made before
an obstacle stays. -/
def makeFoldersFrom (fs : FileSystem) (passed : Path) : List Text → Option FileError × FileSystem
  | [] => (none, fs)
  | part :: parts =>
      let next := passed.child part
      match fs.makeFolder next with
      | .error e => (some (obstacle e parts), fs)
      | .ok fs => makeFoldersFrom fs next parts

/-- Makes a folder and every folder on the way to it. -/
def makeFolders (fs : FileSystem) (p : Path) : Option FileError × FileSystem :=
  match checkPath p with
  | .error e => (some e, fs)
  | .ok () => makeFoldersFrom fs ⟨p.anchor, []⟩ p.parts

end FileSystem

end IgnoreRules
