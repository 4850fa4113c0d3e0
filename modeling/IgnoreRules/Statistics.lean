import IgnoreRules.Language.LineCount
import IgnoreRules.Walk
import IgnoreRules.World

/-!
# Statistics

The line counts of a project by language: every file that a walk keeps and whose language is known is
counted, and the counts of one language are summed.

## Main definitions

* `Statistics` : counts by language.
* `World.visits` : a walk through the files of the world.
* `World.countFile` : the count of one file.
* `World.statistics` : the counts of all files below a directory.
-/

namespace IgnoreRules

/-- Line counts by language, in the order the languages were first met. -/
structure Statistics where
  entries : List (Text × LineCount) := []
  deriving DecidableEq, Repr

namespace Statistics

/-- The count of a language. -/
def get? (s : Statistics) (language : Text) : Option LineCount :=
  s.entries.lookup language

/-- Adds to the count of a language. -/
def add (s : Statistics) (language : Text) (count : LineCount) : Statistics :=
  if s.entries.any (·.1 = language) then
    ⟨s.entries.map fun e => if e.1 = language then (language, e.2 + count) else e⟩
  else
    ⟨s.entries ++ [(language, count)]⟩

/-- The number of lines of all languages. -/
def totalLines (s : Statistics) : Int :=
  s.entries.foldl (fun total e => total + e.2.lines) 0

/-- The counts in the order of the names of the languages. -/
def sorted (s : Statistics) : List (Text × LineCount) :=
  s.entries.mergeSort fun a b => Text.le a.1 b.1

end Statistics

namespace World

/-- Notes a verdict. -/
def noteVisit (w : World) (v : Visit) : World :=
  w.note .trace Log.Component.rules v.describe

/-- The visits of a walk through what a path leads to; nothing is met where there is no directory. -/
def visits (w : World) (rules : RuleSet) (root : Path) : List Visit :=
  match w.files.folder root with
  | .error _ => []
  | .ok folder => Walk.visits rules root folder

/-- The files below a path that are neither hidden nor ignored; every verdict is noted. -/
def walk (w : World) (rules : RuleSet) (root : Path) : List Path × World :=
  let visits := w.visits rules root
  (Walk.filesOf visits, visits.foldl noteVisit w)

/-- The language and the count of a file, if its language is known and it can be read.  A file that
cannot be read is noted under the name it is `shown` by. -/
def countFileAs (w : World) (path : Path) (shown : String) : Option (Text × LineCount) × World :=
  match LanguageSyntax.ofPath? path with
  | none => (none, w)
  | some language =>
      match w.files.read path with
      | .error e => (none, w.note .warning Log.Component.counting s!"Cannot read {shown}: {e.message}")
      | .ok bytes =>
          (some (language.name, language.count (Text.unifyReturns (Text.decodeLossy bytes))), w)

/-- The language and the count of the file at a path. -/
def countFile (w : World) (path : Path) : Option (Text × LineCount) × World :=
  w.countFileAs path path.shown

/-- The language and the count of a file that is given as text and shown as it was given.  Only a text
that cannot be a path is an error, and only where a file would be read. -/
def countGiven (w : World) (given : Text) : Except FileError (Option (Text × LineCount)) × World :=
  let path := Path.parse given
  if (LanguageSyntax.ofPath? path).isSome && given.contains '\x00' then (.error .nullCharacter, w)
  else
    let (counted, w) := w.countFileAs path (String.ofList given)
    (.ok counted, w)

/-- Adds the count of a file. -/
def addFile (progress : Statistics × World) (path : Path) : Statistics × World :=
  match progress.2.countFile path with
  | (none, w) => (progress.1, w)
  | (some (language, count), w) => (progress.1.add language count, w)

/-- The counts of some files. -/
def countAll (w : World) (paths : List Path) : Statistics × World :=
  let (counts, w) := paths.foldl addFile ({}, w)
  (counts, w.note .info Log.Component.counting
    s!"Counted {counts.totalLines} lines in {counts.entries.length} languages")

/-- The counts of all files below a path that are neither hidden nor ignored. -/
def statistics (w : World) (rules : RuleSet) (root : Path) : Statistics × World :=
  let (paths, w) := w.walk rules root
  w.countAll paths

/-- The files below a directory that is given as text.  An empty text leads nowhere, and a text that
cannot be a path is an error. -/
def walkGiven (w : World) (rules : RuleSet) (given : Text) : Except FileError (List Path) × World :=
  if given.contains '\x00' then (.error .nullCharacter, w)
  else if given = [] then (.ok [], w)
  else
    let (paths, w) := w.walk rules (Path.parse given)
    (.ok paths, w)

end World

end IgnoreRules
