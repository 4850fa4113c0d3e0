import IgnoreRules.FileSystem.Folder
import IgnoreRules.RuleSet

/-!
# Walking a tree

Going through a directory: first the verdicts on its subdirectories as they are listed, then its files,
then what is inside each subdirectory that is kept, both by name.  Hidden entries are passed over, and
nothing inside an ignored directory is looked at.  A walk goes from directory to directory and not by
their paths, so it takes no account of `FileSystem.maxPathBytes`: directories so deep that their paths
cannot be looked up any more are gone through like all others.

## Main definitions

* `Visit` : a path that was judged.
* `Walk.visits` : all visits of a walk, in order.
* `Walk.files` : the files that are kept.
-/

namespace IgnoreRules

/-- A path that was judged, with the rule that decides about it. -/
structure Visit where
  path : Path
  isDir : Bool
  ruling : Option Rule
  deriving DecidableEq, Repr

namespace Visit

/-- Whether the entry is kept. -/
def isKept (v : Visit) : Bool :=
  match v.ruling with
  | none => true
  | some r => r.negation

/-- A verdict as it is shown. -/
def describe (v : Visit) : String :=
  let ruling := match v.ruling with
    | none => "None"
    | some r => r.describe
  s!"Ignore check for {v.path.shown} (dir={Text.shownBool v.isDir}): " ++
    s!"{Text.shownBool (!v.isKept)} (rule: {ruling})"

/-- The verdict of some rules on a path. -/
def of (rules : RuleSet) (path : Path) (isDir : Bool) : Visit :=
  ⟨path, isDir, (rules.deciding? path isDir).map (·.2)⟩

end Visit

namespace Walk

/-- Whether a name is hidden. -/
def isHidden (name : Text) : Bool :=
  ['.'].isPrefixOf name

/-- An entry of a directory: its name, its visit, and the visits inside it. -/
structure Stop where
  name : Text
  visit : Visit
  inside : List Visit

/-- Stops in the order of their names. -/
def sorted (stops : List Stop) : List Stop :=
  stops.mergeSort fun a b => Text.le a.name b.name

/-- The visits of a directory with these entries. -/
def arrange (stops : List Stop) : List Visit :=
  let folders := stops.filter (·.visit.isDir)
  let files := stops.filter fun s => !s.visit.isDir
  folders.map (·.visit) ++ (sorted files).map (·.visit) ++ (sorted folders).flatMap (·.inside)

/-- The entries of a folder that lies at a path. -/
def stops (rules : RuleSet) (here : Path) : Folder → List Stop
  | .empty => []
  | .file name _ rest =>
      if isHidden name then stops rules here rest
      else ⟨name, Visit.of rules (here.child name) false, []⟩ :: stops rules here rest
  | .folder name inside rest =>
      if isHidden name then stops rules here rest
      else
        let own := Visit.of rules (here.child name) true
        let below := if own.isKept then arrange (stops rules (here.child name) inside) else []
        ⟨name, own, below⟩ :: stops rules here rest

/-- The visits of a walk through a folder that lies at a path. -/
def visits (rules : RuleSet) (here : Path) (folder : Folder) : List Visit :=
  arrange (stops rules here folder)

/-- The files that a walk keeps. -/
def filesOf (visits : List Visit) : List Path :=
  (visits.filter fun v => !v.isDir && v.isKept).map (·.path)

/-- The files below a path that are neither hidden nor ignored. -/
def files (rules : RuleSet) (here : Path) (folder : Folder) : List Path :=
  filesOf (visits rules here folder)

end Walk

end IgnoreRules
