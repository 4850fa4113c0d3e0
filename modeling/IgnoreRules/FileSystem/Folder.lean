import IgnoreRules.Text.Basic

/-!
# Folders

The contents of a directory, as the entries it lists.  The order of the entries means nothing; whatever
depends on an order sorts the names.

## Main definitions

* `Folder` : entries, each a file with its bytes or a folder.
* `Folder.find?`, `Folder.put` : one entry.
* `Folder.nodeAt?`, `Folder.putAt` : an entry further down, by the names leading to it.
-/

namespace IgnoreRules

/-- What a directory holds, entry after entry. -/
inductive Folder
  | empty
  | file (name : Text) (content : ByteArray) (rest : Folder)
  | folder (name : Text) (inside : Folder) (rest : Folder)
  deriving Inhabited

/-- One thing in a file system. -/
inductive Node
  | file (content : ByteArray)
  | folder (inside : Folder)

/-- Whether the thing is a directory. -/
def Node.isFolder : Node → Bool
  | file _ => false
  | folder _ => true

namespace Folder

/-! ## One entry -/

/-- The entries in the order they are listed. -/
def entries : Folder → List (Text × Node)
  | empty => []
  | file name content rest => (name, .file content) :: rest.entries
  | folder name inside rest => (name, .folder inside) :: rest.entries

/-- The entry of that name. -/
def find? (name : Text) : Folder → Option Node
  | empty => none
  | file n content rest => if n = name then some (.file content) else rest.find? name
  | folder n inside rest => if n = name then some (.folder inside) else rest.find? name

/-- An entry in front of a folder. -/
def cons (name : Text) (node : Node) (rest : Folder) : Folder :=
  match node with
  | .file content => file name content rest
  | .folder inside => folder name inside rest

/-- Puts an entry in place of the one of that name, or behind all others. -/
def put (name : Text) (node : Node) : Folder → Folder
  | empty => cons name node empty
  | file n content rest =>
      if n = name then cons name node rest else file n content (rest.put name node)
  | folder n inside rest =>
      if n = name then cons name node rest else folder n inside (rest.put name node)

/-! ## Entries further down -/

/-- What the names lead to. -/
def nodeAt? (f : Folder) : List Text → Option Node
  | [] => some (.folder f)
  | name :: names =>
      match f.find? name with
      | none => none
      | some (.folder inside) => inside.nodeAt? names
      | some (.file content) => if names.isEmpty then some (.file content) else none

/-- Puts a thing where the names lead, if they lead through folders. -/
def putAt (f : Folder) (node : Node) : List Text → Folder
  | [] => f
  | [name] => f.put name node
  | name :: names =>
      match f.find? name with
      | some (.folder inside) => f.put name (.folder (inside.putAt node names))
      | _ => f

end Folder

end IgnoreRules
