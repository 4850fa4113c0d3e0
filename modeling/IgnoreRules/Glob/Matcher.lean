import IgnoreRules.Glob.Basic

/-!
# Matching globs

A glob is matched against a whole path by going through its pieces from right to left while keeping,
for every end of the path, the verdict whether the pieces seen so far match exactly that end.  One
token costs one pass over the path, so no glob makes matching slow.

## Main definitions

* `Glob.Token.verdicts` : the pass of one token.
* `Glob.verdicts` : the verdicts of a whole glob.
* `Glob.isMatch` : whether a glob matches a path.

Verdicts of a path of `n` characters are `n + 1` booleans, the first for the path itself and the last
for the empty end.
-/

namespace IgnoreRules

namespace Glob

/-! ## Passes -/

/-- The pass of a token that stands for one character allowed by `p`. -/
def onePass (p : Char → Bool) : Text → List Bool → List Bool
  | [], _ => [false]
  | c :: path, verdicts =>
      let later := verdicts.tail
      (p c && later.headD false) :: onePass p path later

/-- The pass of a token that stands for any number of characters allowed by `p`. -/
def runPass (p : Char → Bool) : Text → List Bool → List Bool
  | [], verdicts => [verdicts.headD false]
  | c :: path, verdicts =>
      let later := runPass p path verdicts.tail
      (verdicts.headD false || p c && later.headD false) :: later

/-- The verdicts behind some later separator of each end of the path. -/
def behindSeparator : Text → List Bool → List Bool
  | [], _ => [false]
  | c :: path, verdicts =>
      let later := behindSeparator path verdicts.tail
      (later.headD false || c == '/' && verdicts.tail.headD false) :: later

/-- Joins two lists of verdicts end by end. -/
def either (as bs : List Bool) : List Bool :=
  List.zipWith (· || ·) as bs

/-- The pass of one token, given the verdicts of what follows it. -/
def Token.verdicts (scope : WildcardScope) (path : Text) (t : Token) (after : List Bool) :
    List Bool :=
  match t with
  | .char c => onePass (· == c) path after
  | .anyChar => onePass scope.admits path after
  | .anyRun => runPass scope.admits path after
  | .oneOf cls => onePass (cls.admits scope) path after
  | .anyTail => runPass (fun _ => true) path after
  | .anyDirs => either after (behindSeparator path after)

/-! ## Sequences -/

/-- The verdicts of tokens in sequence. -/
def tokenVerdicts (scope : WildcardScope) (path : Text) (ts : List Token) (after : List Bool) :
    List Bool :=
  ts.foldr (fun t v => t.verdicts scope path v) after

/-- The verdicts of a piece; a group matches where one of its branches does. -/
def Piece.verdicts (scope : WildcardScope) (path : Text) (p : Piece) (after : List Bool) :
    List Bool :=
  match p with
  | .token t => t.verdicts scope path after
  | .group branches =>
      branches.foldr (fun ts v => either (tokenVerdicts scope path ts after) v)
        (after.map fun _ => false)

/-- The verdicts once nothing is left of the glob: only the empty end matches. -/
def endVerdicts (path : Text) : List Bool :=
  path.map (fun _ => false) ++ [true]

/-- The verdicts of a glob on every end of the path. -/
def verdicts (scope : WildcardScope) (g : Glob) (path : Text) : List Bool :=
  g.foldr (fun p v => p.verdicts scope path v) (endVerdicts path)

/-- Whether a glob matches a whole path. -/
def isMatch (scope : WildcardScope) (g : Glob) (path : Text) : Bool :=
  (verdicts scope g path).headD false

end Glob

end IgnoreRules
