import IgnoreRules.Glob.Set
import IgnoreRules.Path
import IgnoreRules.Rule.Line
import IgnoreRules.Text.Lines
import IgnoreRules.Text.Quoted

/-!
# Rule sets

The rules of an ignore file together with the directory they are relative to.  A path is first made
relative to that directory; then the last rule that applies to it decides, and without such a rule the
path is kept.  A rule for directories does not apply to anything else.  The directory itself is never
ignored.

## Main definitions

* `RuleSet.ofLines`, `RuleSet.ofText` : building, which fails when a pattern is no glob.
* `RuleSet.candidate` : the text of a path that the globs are matched against.
* `RuleSet.deciding?` : the rule that decides, with its position.
* `RuleSet.isIgnored` : the verdict.
-/

namespace IgnoreRules

namespace Rule

/-- The globs of some rules. -/
def globs (rules : List Rule) : List (Text × WildcardScope) :=
  rules.map fun r => (r.pattern, r.scope)

/-- A rule as it is shown. -/
def describe (r : Rule) : String :=
  s!"Rule(pattern={Text.quoted r.pattern}, anchored={Text.shownBool r.anchored}, " ++
    s!"dir_only={Text.shownBool r.dirOnly}, negation={Text.shownBool r.negation})"

/-- Whether the rule is about this kind of path at all. -/
def concerns (r : Rule) (isDir : Bool) : Bool :=
  !r.dirOnly || isDir

end Rule

/-- Rules in order, the directory they are relative to, and their globs. -/
structure RuleSet where
  root : Path
  rules : List Rule
  globs : GlobSet
  /-- The globs are those of the rules. -/
  compiled : GlobSet.compile (Rule.globs rules) = .ok globs

namespace RuleSet

/-! ## Building -/

/-- The rules as a set, unless one of them is no glob. -/
def ofRules (root : Path) (rules : List Rule) : Except CompileError RuleSet :=
  match h : GlobSet.compile (Rule.globs rules) with
  | .error e => .error e
  | .ok globs => .ok ⟨root, rules, globs, h⟩

/-- The rules that some lines state. -/
def ofLines (root : Path) (lines : List Text) : Except CompileError RuleSet :=
  ofRules root (Rule.ofLines lines)

/-- The rules that the lines of a text state. -/
def ofText (root : Path) (content : Text) : Except CompileError RuleSet :=
  ofLines root (Text.splitLines content)

/-- The set that ignores nothing. -/
def empty (root : Path) : RuleSet :=
  ⟨root, [], ⟨[]⟩, rfl⟩

/-- The number of rules. -/
def size (s : RuleSet) : Nat :=
  s.rules.length

/-! ## Verdicts -/

/-- The text of a path relative to the directory of the rules; empty for that directory itself. -/
def candidate (s : RuleSet) (p : Path) : Text :=
  let relative := p.relativeTo s.root
  if relative = Path.here then [] else relative.unrootedText

/-- The rule at a position, if it is about this kind of path. -/
def concerning? (s : RuleSet) (isDir : Bool) (i : Nat) : Option (Nat × Rule) :=
  match s.rules[i]? with
  | none => none
  | some r => if r.concerns isDir then some (i, r) else none

/-- The last rule that applies to a path, with its position. -/
def deciding? (s : RuleSet) (p : Path) (isDir : Bool) : Option (Nat × Rule) :=
  let text := s.candidate p
  if text = [] then none
  else (s.globs.matchIndices text).reverse.findSome? (s.concerning? isDir)

/-- Whether a path is ignored. -/
def isIgnored (s : RuleSet) (p : Path) (isDir : Bool) : Bool :=
  match s.deciding? p isDir with
  | none => false
  | some (_, r) => !r.negation

/-- A set as it is shown in messages. -/
def describe (s : RuleSet) : String :=
  s!"<RuleSet {s.size} gitignore rules>"

end RuleSet

end IgnoreRules
