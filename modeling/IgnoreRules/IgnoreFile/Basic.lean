import IgnoreRules.FileSystem.Basic
import IgnoreRules.Glob.Parser
import IgnoreRules.Rule.Line
import IgnoreRules.Text.Lines

/-!
# Ignore files

What was read from an ignore file, and what is wrong or doubtful about it.  Nothing here fails: every
problem is recorded.  A problem is fatal when the file was not read in full; a pattern that is no glob
is a problem but not a fatal one.

## Main definitions

* `IgnoreFile` : lines, patterns, problems, doubts and a tally of the kinds of lines.
* `IgnoreFile.ofText` : inspecting the text of a file.
-/

namespace IgnoreRules

namespace IgnoreFile

/-! ## Limits -/

/-- The most bytes a file may have. -/
def maxBytes : Nat := 1024 * 1024

/-- The most patterns a file may have. -/
def maxPatterns : Nat := 10000

/-! ## Problems and doubts -/

/-- What is wrong with a file. -/
inductive Cause
  | notFound (path : Path)
  | tooLarge (bytes : Nat)
  | unreadable (reason : String)
  | tooManyPatterns
  | badPattern (fault : Glob.Fault)
  deriving DecidableEq, Repr

namespace Cause

/-- The wording of a cause. -/
def message : Cause → String
  | notFound path => s!"File not found: {path.shown}"
  | tooLarge bytes => s!"File too large: {bytes} bytes (max: {maxBytes})"
  | unreadable reason => s!"Error reading file: {reason}"
  | tooManyPatterns => s!"Too many patterns (max: {maxPatterns}), rest of file skipped"
  | badPattern fault => fault.message

/-- Whether the file was not read in full. -/
def isFatal : Cause → Bool
  | badPattern _ => false
  | _ => true

end Cause

/-- A problem, with its line; the line is 0 when it concerns the whole file. -/
structure Problem where
  line : Nat
  pattern : Text
  cause : Cause
  deriving DecidableEq, Repr

/-- What is doubtful about a pattern. -/
inductive Concern
  /-- It matches nearly everything. -/
  | veryBroad
  /-- Two stars stand together in this component but do not fill it. -/
  | partialRecursion (component : Text)
  deriving DecidableEq, Repr

/-- The wording of a concern. -/
def Concern.message : Concern → String
  | veryBroad => "Very broad pattern - will ignore most of the tree"
  | partialRecursion component =>
      s!"'{String.ofList component}' is not a full path component; '**' acts like '*' here"

/-- A doubt, with its line. -/
structure Doubt where
  line : Nat
  pattern : Text
  concern : Concern
  deriving DecidableEq, Repr

/-! ## Doubtful patterns -/

/-- The bodies that match nearly everything. -/
def broadBodies : List Text :=
  ["*".toList, "**".toList, "**/*".toList, "/*".toList, "/**".toList]

/-- Whether a component holds two stars together without consisting of just them. -/
def isPartialRecursion (component : Text) : Bool :=
  Text.hasPart ['*', '*'] component && component != ['*', '*']

/-- The concerns about a pattern as written and the rule it states. -/
def concerns (pattern : Text) (rule : Rule) : List Concern :=
  let body := Text.trim (pattern.dropWhile (· == '!'))
  let broad := if broadBodies.contains body then [Concern.veryBroad] else []
  let recursion := (rule.pattern.splitOn '/').find? isPartialRecursion
  broad ++ (recursion.map Concern.partialRecursion).toList

/-! ## Lines -/

/-- A line of a file, counted from 1. -/
structure Entry where
  number : Nat
  text : Text
  line : Line

namespace Entry

/-- The pattern as written, if the line states a rule. -/
def pattern? (e : Entry) : Option Text :=
  e.line.rule?.map fun _ => Text.trim e.text

/-- The problem with the line. -/
def problem? (e : Entry) : Option Problem :=
  match e.line with
  | .rule r =>
      match Glob.parse r.pattern with
      | .ok _ => none
      | .error fault => some ⟨e.number, Text.trim e.text, .badPattern fault⟩
  | _ => none

/-- The doubts about the line. -/
def doubts (e : Entry) : List Doubt :=
  match e.line with
  | .rule r =>
      let pattern := Text.trim e.text
      (concerns pattern r).map fun c => ⟨e.number, pattern, c⟩
  | _ => []

end Entry

/-- The lines of a text. -/
def entriesOf (content : Text) : List Entry :=
  (Text.splitLines content).zipIdx.map fun (line, i) => ⟨i + 1, line, Line.parse line⟩

/-- The position of the first rule after `allowance` others, counted from `position`. -/
def excess? (allowance position : Nat) : List Entry → Option Nat
  | [] => none
  | e :: rest =>
      match e.line with
      | .rule _ =>
          match allowance with
          | 0 => some position
          | allowance + 1 => excess? allowance (position + 1) rest
      | _ => excess? allowance (position + 1) rest

/-! ## Tallies -/

/-- How many lines a file has, and how many of each kind were read. -/
structure Tally where
  total : Nat := 0
  blank : Nat := 0
  comment : Nat := 0
  pattern : Nat := 0
  deriving DecidableEq, Repr

/-- Counts the kinds of some lines, out of `total`. -/
def tallyOf (total : Nat) (entries : List Entry) : Tally :=
  { total := total
    blank := entries.countP (·.line = .blank)
    comment := entries.countP (·.line = .comment)
    pattern := entries.countP (·.line.rule?.isSome) }

end IgnoreFile

/-! ## Files -/

/-- What was read from an ignore file. -/
structure IgnoreFile where
  path : Path
  lines : List Text := []
  patterns : List Text := []
  problems : List IgnoreFile.Problem := []
  doubts : List IgnoreFile.Doubt := []
  tally : IgnoreFile.Tally := {}

namespace IgnoreFile

/-- Whether nothing is wrong. -/
def isValid (f : IgnoreFile) : Bool :=
  f.problems.isEmpty

/-- The problems for which the file was not read in full. -/
def fatalProblems (f : IgnoreFile) : List Problem :=
  f.problems.filter (·.cause.isFatal)

/-- Whether every line was read. -/
def isComplete (f : IgnoreFile) : Bool :=
  f.fatalProblems.isEmpty

/-- Whether something is doubtful. -/
def hasDoubts (f : IgnoreFile) : Bool :=
  !f.doubts.isEmpty

/-- The lines that were read, as one text. -/
def text (f : IgnoreFile) : Text :=
  Text.joinLines f.lines

/-- A file that could not be read at all. -/
def failed (path : Path) (cause : Cause) : IgnoreFile :=
  { path := path, problems := [⟨0, [], cause⟩] }

/-- What a text says as the content of a file.  Reading stops at the first pattern too many. -/
def ofText (path : Path) (content : Text) : IgnoreFile :=
  let all := entriesOf content
  let cut := excess? maxPatterns 0 all
  let read := match cut with
    | none => all
    | some position => all.take position
  let overflow := match cut with
    | none => []
    | some position => [⟨position + 1, [], .tooManyPatterns⟩]
  { path := path
    lines := read.map (·.text)
    patterns := read.filterMap Entry.pattern?
    problems := read.filterMap Entry.problem? ++ overflow
    doubts := read.flatMap Entry.doubts
    tally := tallyOf all.length read }

end IgnoreFile

end IgnoreRules
