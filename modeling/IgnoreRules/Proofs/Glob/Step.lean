import IgnoreRules.Proofs.Glob.Bracket

/-!
# Reading one construct

What `readFrom` does with each construct a glob can begin with, as one equation for each, and what the
operations on a draft do to the group that is open.  Everything else about reading a glob is derived
from these equations.

* `Glob.readFrom_escape`, `Glob.readFrom_question`, `Glob.readFrom_closed`, `Glob.readFrom_ordinary`,
  `Glob.readFrom_comma`, `Glob.readFrom_open`, `Glob.readFrom_close` : one construct and its token;
* `Glob.readFrom_bracket_error`, `Glob.readFrom_open_error`, `Glob.readFrom_close_error` : a construct at
  fault;
* `Glob.readFrom_stars` : a run of stars, which reading takes at once;
* `Glob.readFrom_plainRun`, `Glob.readFrom_lastRun`, `Glob.readFrom_innerRun` : which token it is.
-/

namespace IgnoreRules

namespace Glob

/-! ## Groups of a draft -/

section Draft

variable {d d' : Draft} {fault : Fault}

theorem Draft.isSome_add (d : Draft) (token : Token) :
    (d.add token).openGroup.isSome = d.openGroup.isSome := by
  unfold Draft.add
  split
  · next h => simp [h]
  · next h => simp [h]

theorem Draft.isSome_comma (d : Draft) : d.comma.openGroup.isSome = d.openGroup.isSome := by
  unfold Draft.comma
  split
  · exact d.isSome_add _
  · next h => simp [h]

theorem Draft.beginGroup_ok (h : d.beginGroup = .ok d') :
    d.openGroup.isSome = false ∧ d'.openGroup.isSome = true := by
  unfold Draft.beginGroup at h
  split at h
  · next hnone =>
      cases h
      exact ⟨by simp [hnone], rfl⟩
  · cases h

theorem Draft.beginGroup_error (h : d.beginGroup = .error fault) :
    d.openGroup.isSome = true ∧ fault = .nestedAlternates := by
  unfold Draft.beginGroup at h
  split at h
  · cases h
  · next hsome =>
      cases h
      exact ⟨by simp [hsome], rfl⟩

theorem Draft.endGroup_ok (h : d.endGroup = .ok d') :
    d.openGroup.isSome = true ∧ d'.openGroup.isSome = false := by
  unfold Draft.endGroup at h
  split at h
  · cases h
  · next hsome =>
      cases h
      exact ⟨by simp [hsome], rfl⟩

theorem Draft.endGroup_error (h : d.endGroup = .error fault) :
    d.openGroup.isSome = false ∧ fault = .unopenedAlternates := by
  unfold Draft.endGroup at h
  split at h
  · next hnone =>
      cases h
      exact ⟨by simp [hnone], rfl⟩
  · cases h

end Draft

/-! ## Single constructs -/

section Single

variable {d : Draft} {before : Option Char} {c : Char} {t rest after : Text}

theorem readFrom_escape :
    readFrom d before ('\\' :: c :: rest) = readFrom (d.add (.char c)) (some c) rest := by
  rw [readFrom, if_pos rfl]

theorem readFrom_question :
    readFrom d before ('?' :: rest) = readFrom (d.add .anyChar) (some '?') rest := by
  rw [readFrom.eq_def]
  simp

/-- Within a glob a closed expression is one token, and reading goes on behind it. -/
theorem readFrom_closed {cls : CharClass} (h : ClosedBracket t cls after) (d : Draft)
    (before : Option Char) :
    readFrom d before ('[' :: t) = readFrom (d.add (.oneOf cls)) (some ']') after := by
  have hread := readClass_of_closed h
  -- The patterns of `readFrom` overlap, so it is opened by its definition and not by an equation.
  rw [readFrom.eq_def]
  simp only [Char.reduceEq, if_false, if_true]
  split
  · next heq =>
      rw [hread] at heq
      cases heq
  · next heq =>
      rw [hread] at heq
      cases heq
      rfl

theorem readFrom_ordinary (hc : c ∉ ['\\', '*', '?', '[', '{', '}', ',']) :
    readFrom d before (c :: rest) = readFrom (d.add (.char c)) (some c) rest := by
  simp only [List.mem_cons, List.not_mem_nil, or_false, not_or] at hc
  rw [readFrom.eq_def]
  simp only [hc, if_false]

theorem readFrom_comma :
    readFrom d before (',' :: rest) = readFrom d.comma (some ',') rest := by
  rw [readFrom.eq_def]
  simp

theorem readFrom_open {d' : Draft} (h : d.beginGroup = .ok d') :
    readFrom d before ('{' :: rest) = readFrom d' (some '{') rest := by
  rw [readFrom.eq_def]
  simp [h]

theorem readFrom_close {d' : Draft} (h : d.endGroup = .ok d') :
    readFrom d before ('}' :: rest) = readFrom d' (some '}') rest := by
  rw [readFrom.eq_def]
  simp [h]

/-! ### Constructs at fault -/

variable {fault : Fault}

theorem readFrom_bracket_error (h : readClass t = .error fault) :
    readFrom d before ('[' :: t) = .error fault := by
  rw [readFrom.eq_def]
  simp only [Char.reduceEq, if_false, if_true]
  split
  · next heq =>
      rw [h] at heq
      cases heq
      rfl
  · next heq =>
      rw [h] at heq
      cases heq

theorem readFrom_open_error (h : d.beginGroup = .error fault) :
    readFrom d before ('{' :: rest) = .error fault := by
  rw [readFrom.eq_def]
  simp [h]

theorem readFrom_close_error (h : d.endGroup = .error fault) :
    readFrom d before ('}' :: rest) = .error fault := by
  rw [readFrom.eq_def]
  simp [h]

end Single

/-! ## Runs of stars -/

section Stars

variable {d : Draft} {before : Option Char} {n : Nat} {rest : Text}

/-- What stands next to a run of stars bounds a component: a separator or an end of the glob. -/
def Bounds (neighbour : Option Char) : Prop :=
  neighbour = none ∨ neighbour = some '/'

theorem boundsComponent_iff {neighbour : Option Char} :
    boundsComponent neighbour = true ↔ Bounds neighbour := by
  simp [boundsComponent, Bounds]

theorem takeWhile_stars (h : rest.head? ≠ some '*') :
    (List.replicate n '*' ++ rest).takeWhile (· == '*') = List.replicate n '*' := by
  rw [List.takeWhile_append_of_pos (by simp)]
  cases rest with
  | nil => simp
  | cons c rest =>
      have hc : c ≠ '*' := by simpa using h
      simp [hc]

theorem dropWhile_stars (h : rest.head? ≠ some '*') :
    (List.replicate n '*' ++ rest).dropWhile (· == '*') = rest := by
  rw [List.dropWhile_append_of_pos (by simp)]
  cases rest with
  | nil => rfl
  | cons c rest =>
      have hc : c ≠ '*' := by simpa using h
      simp [hc]

/-- Reading takes a whole run of stars at once. -/
theorem readFrom_stars (hn : 1 ≤ n) (h : rest.head? ≠ some '*') :
    readFrom d before (List.replicate n '*' ++ rest) =
      match starToken n before rest.head? with
      | (token, false) => readFrom (d.add token) (some '*') rest
      | (token, true) => readFrom (d.add token) (some '/') rest.tail := by
  cases n with
  | zero => omega
  | succ n =>
      rw [List.replicate_succ, List.cons_append, readFrom.eq_def]
      -- Named before the equation is simplified, so that both sides have the same test in them.
      rcases hstar : starToken (n + 1) before rest.head? with ⟨token, separator⟩
      cases separator <;>
        simp only [Char.reduceEq, if_false, if_true, takeWhile_stars h, dropWhile_stars h,
          List.length_replicate, Nat.add_comm 1 n, hstar]

/-- The test for a recursive run, as the rules about constructs state it. -/
theorem starTest_iff {after : Option Char} :
    (2 ≤ n && boundsComponent before && boundsComponent after) = true ↔
      2 ≤ n ∧ Bounds before ∧ Bounds after := by
  rw [Bool.and_eq_true, Bool.and_eq_true, decide_eq_true_eq, boundsComponent_iff,
    boundsComponent_iff, and_assoc]

theorem starToken_plain {after : Option Char}
    (h : ¬ (2 ≤ n ∧ Bounds before ∧ Bounds after)) : starToken n before after = (.anyRun, false) := by
  unfold starToken
  exact if_neg fun htest => h (starTest_iff.1 htest)

theorem readFrom_plainRun (hn : 1 ≤ n) (hrest : rest.head? ≠ some '*')
    (h : ¬ (2 ≤ n ∧ Bounds before ∧ Bounds rest.head?)) :
    readFrom d before (List.replicate n '*' ++ rest) = readFrom (d.add .anyRun) (some '*') rest := by
  rw [readFrom_stars hn hrest, starToken_plain h]

theorem readFrom_lastRun (hn : 2 ≤ n) (hbefore : Bounds before) :
    readFrom d before (List.replicate n '*') = readFrom (d.add .anyTail) (some '*') [] := by
  have htoken : starToken n before none = (.anyTail, false) := by
    unfold starToken
    exact if_pos (starTest_iff.2 ⟨hn, hbefore, Or.inl rfl⟩)
  have hread : readFrom d before (List.replicate n '*' ++ []) = _ :=
    readFrom_stars (by omega) (by simp)
  simpa only [List.append_nil, List.head?_nil, htoken] using hread

theorem readFrom_innerRun (hn : 2 ≤ n) (hbefore : Bounds before) :
    readFrom d before (List.replicate n '*' ++ '/' :: rest) =
      readFrom (d.add .anyDirs) (some '/') rest := by
  have htoken : starToken n before (some '/') = (.anyDirs, true) := by
    unfold starToken
    exact if_pos (starTest_iff.2 ⟨hn, hbefore, Or.inr rfl⟩)
  rw [readFrom_stars (by omega) (by simp)]
  simp only [List.head?_cons, htoken, List.tail_cons]

/-- A run of stars takes in a character only if that is a separator. -/
theorem head?_of_starToken {stars : Nat} {after : Option Char} {token : Token}
    (h : starToken stars before after = (token, true)) : after = some '/' := by
  unfold starToken at h
  split at h
  · next hrec =>
      cases after with
      | none => cases h
      | some c =>
          rw [Bool.and_eq_true] at hrec
          simpa [boundsComponent] using hrec.2
  · cases h

/-- The stars that a text begins with. -/
theorem takeWhile_stars_eq (t : Text) :
    t.takeWhile (· == '*') = List.replicate (t.takeWhile (· == '*')).length '*' := by
  refine List.eq_replicate_of_mem fun c hc => ?_
  exact eq_of_beq (List.all_eq_true.1 List.all_takeWhile c hc)

theorem stars_eq (rest : Text) :
    '*' :: rest =
      List.replicate (1 + (rest.takeWhile (· == '*')).length) '*' ++ rest.dropWhile (· == '*') := by
  rw [Nat.add_comm, List.replicate_succ, ← takeWhile_stars_eq, List.cons_append,
    List.takeWhile_append_dropWhile]

theorem head?_dropWhile_stars (t : Text) : (t.dropWhile (· == '*')).head? ≠ some '*' := by
  have hstop := List.head?_dropWhile_not (· == '*') t
  intro hstar
  rw [hstar] at hstop
  simp at hstop

end Stars

end Glob

end IgnoreRules
