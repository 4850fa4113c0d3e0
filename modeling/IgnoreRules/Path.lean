import IgnoreRules.Text.Basic

/-!
# Paths

A path is an anchor and the components below it.  Reading a path drops empty components and `.`;
`..` is kept, because what it means depends on the files.  Two leading separators are an anchor of
their own, three or more are the same as one.

## Main definitions

* `Path.parse`, `Path.text` : reading and writing.
* `Path.append` : a path below another, unless it is anchored itself.
* `Path.name`, `Path.suffix` : the last component and its extension.
* `Path.relativeTo` : the path relative to a directory, or unchanged when it is not inside it.
-/

namespace IgnoreRules

/-- What a path starts from. -/
inductive Anchor
  | relative
  | root
  | doubleRoot
  deriving DecidableEq, Repr

/-- The separators that an anchor is written as. -/
def Anchor.text : Anchor → Text
  | relative => []
  | root => ['/']
  | doubleRoot => ['/', '/']

/-- An anchor and the components below it. -/
structure Path where
  anchor : Anchor
  parts : List Text
  deriving DecidableEq, Repr

namespace Path

/-! ## Reading and writing -/

/-- The anchor of a text, by the number of separators it starts with. -/
def anchorOf (t : Text) : Anchor :=
  match (t.takeWhile (· == '/')).length with
  | 0 => .relative
  | 2 => .doubleRoot
  | _ => .root

/-- The components of a text: what stands between separators, less empty components and `.`. -/
def partsOf (t : Text) : List Text :=
  (t.splitOn '/').filter fun part => part != [] && part != ['.']

/-- Reads a path. -/
def parse (t : Text) : Path :=
  ⟨anchorOf t, partsOf t⟩

/-- The relative path without components. -/
def here : Path :=
  ⟨.relative, []⟩

/-- Writes a path; the relative path without components is `.`. -/
def text (p : Path) : Text :=
  if p = here then ['.'] else p.anchor.text ++ List.intercalate ['/'] p.parts

/-- A path as it is shown in messages. -/
def shown (p : Path) : String :=
  String.ofList p.text

/-! ## Building -/

/-- Whether the path does not depend on a working directory. -/
def isAbsolute (p : Path) : Bool :=
  p.anchor != .relative

/-- The second path below the first; an absolute path stays what it is. -/
def append (p q : Path) : Path :=
  if q.isAbsolute then q else ⟨p.anchor, p.parts ++ q.parts⟩

/-- The path with one more component. -/
def child (p : Path) (name : Text) : Path :=
  ⟨p.anchor, p.parts ++ [name]⟩

/-- The path without its last component. -/
def parent (p : Path) : Path :=
  ⟨p.anchor, p.parts.dropLast⟩

/-! ## The last component -/

/-- The last component, empty when there is none. -/
def name (p : Path) : Text :=
  p.parts.getLastD []

/-- The part of a name from its last dot, unless the dot is its first or its last character. -/
def suffixOf (name : Text) : Text :=
  let after := (name.reverse.takeWhile (· != '.')).reverse
  let before := name.length - after.length - 1
  if name.contains '.' && 0 < before && after != [] then '.' :: after else []

/-- The suffix of the last component. -/
def suffix (p : Path) : Text :=
  suffixOf p.name

/-! ## Relative paths -/

/-- The path relative to `dir`, or the path itself when it is not `dir` or inside it. -/
def relativeTo (p dir : Path) : Path :=
  if p.anchor = dir.anchor ∧ dir.parts <+: p.parts then
    ⟨.relative, p.parts.drop dir.parts.length⟩
  else
    p

/-- The text of a path without the separator it may start with. -/
def unrootedText (p : Path) : Text :=
  match p.text with
  | '/' :: rest => rest
  | t => t

end Path

end IgnoreRules
