import IgnoreRules.Glob.Basic

/-!
# Reading globs

`Glob.parse` reads the text of a glob from left to right and either gives its pieces or the first
construct that is at fault.  A backslash takes the next character literally, a run of two or more
stars that fills a whole component is recursive, brackets hold a class and braces hold alternatives.

## Main definitions

* `Glob.Fault` : what can be wrong with a glob, with its wording.
* `Glob.readClass` : a bracket expression.
* `Glob.parse` : a whole glob.
-/

namespace IgnoreRules

namespace Glob

/-! ## Faults -/

/-- What is wrong with the text of a glob. -/
inductive Fault
  /-- A backslash with nothing after it. -/
  | danglingEscape
  /-- A bracket expression without its closing bracket. -/
  | unclosedClass
  /-- A range whose ends are in descending order. -/
  | invalidRange (low high : Char)
  /-- A brace opened inside braces. -/
  | nestedAlternates
  /-- A closing brace outside braces. -/
  | unopenedAlternates
  /-- Braces that are never closed. -/
  | unclosedAlternates
  deriving DecidableEq, Repr

/-- The wording of a fault. -/
def Fault.message : Fault → String
  | danglingEscape => "dangling escape"
  | unclosedClass => "unclosed character class"
  | invalidRange low high => s!"invalid range '{low}-{high}'"
  | nestedAlternates => "nested alternates"
  | unopenedAlternates => "unopened alternates"
  | unclosedAlternates => "unclosed alternates"

/-! ## Bracket expressions -/

/-- The members up to the closing bracket, added to those `found` so far (latest first), and what
follows the bracket.  A closing bracket is a member when nothing was found before it. -/
def readMembers (found : List (Char × Char)) : Text → Except Fault (List (Char × Char) × Text)
  | [] => .error .unclosedClass
  | [c] => if c = ']' && !found.isEmpty then .ok (found.reverse, []) else .error .unclosedClass
  | [c, d] =>
      if c = ']' && !found.isEmpty then .ok (found.reverse, [d])
      else readMembers ((c, c) :: found) [d]
  | c :: d :: e :: rest =>
      if c = ']' && !found.isEmpty then .ok (found.reverse, d :: e :: rest)
      else if d = '-' && e != ']' then
        if e < c then .error (.invalidRange c e) else readMembers ((c, e) :: found) rest
      else readMembers ((c, c) :: found) (d :: e :: rest)

/-- A bracket expression, from just after its opening bracket, and what follows it. -/
def readClass : Text → Except Fault (CharClass × Text)
  | [] => .error .unclosedClass
  | c :: rest =>
      if c = '!' || c = '^' then
        (readMembers [] rest).map fun (ranges, after) => (⟨true, ranges⟩, after)
      else
        (readMembers [] (c :: rest)).map fun (ranges, after) => (⟨false, ranges⟩, after)

/-- The members take up at least one character. -/
theorem length_lt_of_readMembers {found ranges : List (Char × Char)} {t after : Text}
    (h : readMembers found t = .ok (ranges, after)) : after.length < t.length := by
  fun_induction readMembers found t with
  | case1 => cases h
  | case2 => cases h; simp
  | case3 => cases h
  | case4 => cases h; simp
  | case5 found c d hc ih =>
      have := ih h
      simp only [List.length_cons, List.length_nil] at this ⊢
      omega
  | case6 => cases h; simp
  | case7 => cases h
  | case8 found c d e rest hc hd he ih =>
      have := ih h
      simp only [List.length_cons]
      omega
  | case9 found c d e rest hc hd ih =>
      have := ih h
      simp only [List.length_cons] at this ⊢
      omega

/-- A bracket expression takes up at least one character. -/
theorem length_lt_of_readClass {cls : CharClass} {t after : Text}
    (h : readClass t = .ok (cls, after)) : after.length < t.length := by
  cases t with
  | nil => cases h
  | cons c rest =>
      simp only [readClass] at h
      split at h
      · cases hm : readMembers [] rest with
        | error e => simp [hm, Except.map] at h
        | ok p =>
            obtain ⟨found, rest'⟩ := p
            have := length_lt_of_readMembers hm
            simp only [hm, Except.map, Except.ok.injEq, Prod.mk.injEq] at h
            obtain ⟨-, rfl⟩ := h
            simp only [List.length_cons]
            omega
      · cases hm : readMembers [] (c :: rest) with
        | error e => simp [hm, Except.map] at h
        | ok p =>
            obtain ⟨found, rest'⟩ := p
            have := length_lt_of_readMembers hm
            simp only [hm, Except.map, Except.ok.injEq, Prod.mk.injEq] at h
            obtain ⟨-, rfl⟩ := h
            exact this

/-! ## A glob under construction -/

/-- Alternatives that are still open: the finished branches and the current one, latest first. -/
structure OpenGroup where
  finished : List (List Token)
  current : List Token

namespace OpenGroup

/-- The branches in the order they were written. -/
def branches (g : OpenGroup) : List (List Token) :=
  (g.current.reverse :: g.finished).reverse

end OpenGroup

/-- What has been read of a glob: its finished pieces, latest first, and the group that is open. -/
structure Draft where
  pieces : List Piece := []
  openGroup : Option OpenGroup := none

namespace Draft

/-- Adds a token to the open group, or to the glob itself. -/
def add (d : Draft) (t : Token) : Draft :=
  match d.openGroup with
  | none => { d with pieces := .token t :: d.pieces }
  | some g => { d with openGroup := some { g with current := t :: g.current } }

/-- Begins a group. -/
def beginGroup (d : Draft) : Except Fault Draft :=
  match d.openGroup with
  | none => .ok { d with openGroup := some ⟨[], []⟩ }
  | some _ => .error .nestedAlternates

/-- Ends the open group. -/
def endGroup (d : Draft) : Except Fault Draft :=
  match d.openGroup with
  | none => .error .unopenedAlternates
  | some g => .ok ⟨.group g.branches :: d.pieces, none⟩

/-- A comma begins the next branch of the open group, and is itself outside groups. -/
def comma (d : Draft) : Draft :=
  match d.openGroup with
  | none => d.add (.char ',')
  | some g => { d with openGroup := some ⟨g.current.reverse :: g.finished, []⟩ }

/-- The glob, once its text is at an end. -/
def finish (d : Draft) : Except Fault Glob :=
  match d.openGroup with
  | none => .ok d.pieces.reverse
  | some _ => .error .unclosedAlternates

end Draft

/-! ## Whole globs -/

/-- Whether a neighbour of a run of stars bounds a component: a separator or the end of the glob. -/
def boundsComponent (neighbour : Option Char) : Bool :=
  neighbour == none || neighbour == some '/'

/-- The token for a run of `stars` between two neighbours, and whether it takes in the separator
that follows.  Two or more stars that fill a component are recursive; other runs are one wildcard. -/
def starToken (stars : Nat) (before after : Option Char) : Token × Bool :=
  if 2 ≤ stars && boundsComponent before && boundsComponent after then
    match after with
    | none => (.anyTail, false)
    | some _ => (.anyDirs, true)
  else
    (.anyRun, false)

/-- Reads the rest of a glob.  `before` is the character in front of it. -/
def readFrom (d : Draft) (before : Option Char) (t : Text) : Except Fault Glob :=
  match t with
  | [] => d.finish
  | c :: rest =>
      if c = '\\' then
        match rest with
        | [] => .error .danglingEscape
        | x :: rest => readFrom (d.add (.char x)) (some x) rest
      else if c = '*' then
        let stars := 1 + (rest.takeWhile (· == '*')).length
        let after := rest.dropWhile (· == '*')
        match starToken stars before after.head? with
        | (token, false) => readFrom (d.add token) (some '*') after
        | (token, true) => readFrom (d.add token) (some '/') after.tail
      else if c = '?' then
        readFrom (d.add .anyChar) (some c) rest
      else if c = '[' then
        match _h : readClass rest with
        | .error fault => .error fault
        | .ok (cls, after) => readFrom (d.add (.oneOf cls)) (some ']') after
      else if c = '{' then
        match d.beginGroup with
        | .error fault => .error fault
        | .ok d => readFrom d (some c) rest
      else if c = '}' then
        match d.endGroup with
        | .error fault => .error fault
        | .ok d => readFrom d (some c) rest
      else if c = ',' then
        readFrom d.comma (some c) rest
      else
        readFrom (d.add (.char c)) (some c) rest
termination_by t.length
decreasing_by
  all_goals simp only [List.length_cons]
  · omega
  · have := (List.dropWhile_suffix (l := rest) (· == '*')).length_le
    omega
  · have := (List.dropWhile_suffix (l := rest) (· == '*')).length_le
    simp only [List.length_tail]
    omega
  · omega
  · have := length_lt_of_readClass _h
    omega
  all_goals omega

/-- Reads a glob. -/
def parse (t : Text) : Except Fault Glob :=
  readFrom {} none t

end Glob

end IgnoreRules
