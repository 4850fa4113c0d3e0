import IgnoreRules.Glob.Parser
import IgnoreRules.Glob.Matcher

/-!
# Sets of globs

A list of globs that is read as a whole: either every glob is well formed, or the first one that is
not is reported with its position.  A set tells which of its globs match a path; each glob answers on
its own.
-/

namespace IgnoreRules

/-- The first glob of a list that cannot be read. -/
structure CompileError where
  /-- The position of the glob in the list. -/
  index : Nat
  /-- The text of the glob. -/
  glob : Text
  /-- What is wrong with it. -/
  fault : Glob.Fault
  deriving DecidableEq, Repr

/-- The wording of a glob that cannot be read within a list. -/
def CompileError.message (e : CompileError) : String :=
  s!"rule {e.index} ('{String.ofList e.glob}') failed to compile: {e.fault.message}"

/-- The wording of a glob that cannot be read on its own. -/
def Glob.Fault.describe (fault : Glob.Fault) (glob : Text) : String :=
  s!"invalid glob '{String.ofList glob}': {fault.message}"

/-- Globs in order, each with what its wildcards may stand for. -/
structure GlobSet where
  members : List (Glob × WildcardScope)
  deriving DecidableEq, Repr

namespace GlobSet

/-- Reads the globs from position `index` on, adding them to those already `read` (latest first). -/
def compileFrom (index : Nat) (read : List (Glob × WildcardScope)) :
    List (Text × WildcardScope) → Except CompileError GlobSet
  | [] => .ok ⟨read.reverse⟩
  | (text, scope) :: rest =>
      match Glob.parse text with
      | .error fault => .error ⟨index, text, fault⟩
      | .ok glob => compileFrom (index + 1) ((glob, scope) :: read) rest

/-- Reads a list of globs, or reports the first one that is at fault. -/
def compile (globs : List (Text × WildcardScope)) : Except CompileError GlobSet :=
  compileFrom 0 [] globs

/-- The number of globs. -/
def size (s : GlobSet) : Nat :=
  s.members.length

/-- The positions of the globs that match the path, in ascending order. -/
def matchIndices (s : GlobSet) (path : Text) : List Nat :=
  s.members.zipIdx.filterMap fun ((glob, scope), i) =>
    if glob.isMatch scope path then some i else none

/-- Whether some glob matches the path. -/
def isMatch (s : GlobSet) (path : Text) : Bool :=
  !(s.matchIndices path).isEmpty

end GlobSet

end IgnoreRules
