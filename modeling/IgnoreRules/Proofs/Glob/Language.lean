import Mathlib.Computability.Language
import IgnoreRules.Glob.Matcher

/-!
# The language of a glob

A glob denotes a set of paths: every piece denotes the texts it may stand for, pieces in sequence
denote the texts put together, and a group denotes what one of its branches denotes.  The matcher
never splits a path; it passes verdicts on all ends of the path from the last piece to the first.
This file defines the language and shows that the passes compute it:

* `Glob.language` : the paths a glob denotes;
* `Glob.Decides` : the invariant of the passes, that a list of verdicts answers for every end of the
  path whether it is in a language;
* `Glob.isMatch_iff_mem_language` : a glob matches exactly the paths of its language.
-/

namespace IgnoreRules

namespace Glob

/-! ## Single stretches -/

/-- The texts of one character that `p` allows. -/
def oneChar (p : Char → Bool) : Language Char :=
  {w | ∃ c, p c = true ∧ w = [c]}

/-- The texts all of whose characters `p` allows. -/
def charRun (p : Char → Bool) : Language Char :=
  {w | ∀ c ∈ w, p c = true}

/-- The texts that end in a separator. -/
def throughSeparator : Language Char :=
  {w | ∃ u, w = u ++ ['/']}

variable {p : Char → Bool} {c : Char} {w : Text} {L M : Language Char}

theorem nil_notMem_oneChar_mul : [] ∉ oneChar p * L := by
  intro h
  rcases Language.mem_mul.1 h with ⟨a, ⟨c, -, rfl⟩, b, -, hab⟩
  simp at hab

theorem cons_mem_oneChar_mul : c :: w ∈ oneChar p * L ↔ p c = true ∧ w ∈ L := by
  constructor
  · intro h
    rcases Language.mem_mul.1 h with ⟨a, ⟨d, hd, rfl⟩, b, hb, hab⟩
    rcases List.cons.inj hab with ⟨rfl, rfl⟩
    exact ⟨hd, hb⟩
  · rintro ⟨hc, hw⟩
    exact Language.append_mem_mul (a := [c]) ⟨c, hc, rfl⟩ hw

theorem nil_mem_charRun_mul : [] ∈ charRun p * L ↔ [] ∈ L := by
  constructor
  · intro h
    rcases Language.mem_mul.1 h with ⟨a, -, b, hb, hab⟩
    rcases List.append_eq_nil_iff.1 hab with ⟨rfl, rfl⟩
    exact hb
  · intro h
    exact Language.append_mem_mul (a := []) (fun _ hd => by cases hd) h

/-- A run takes the first character of the path or leaves the whole path to what follows. -/
theorem cons_mem_charRun_mul :
    c :: w ∈ charRun p * L ↔ c :: w ∈ L ∨ p c = true ∧ w ∈ charRun p * L := by
  constructor
  · intro h
    rcases Language.mem_mul.1 h with ⟨a, ha, b, hb, hab⟩
    cases a with
    | nil =>
        rw [List.nil_append] at hab
        exact Or.inl (hab ▸ hb)
    | cons d a =>
        rcases List.cons.inj hab with ⟨rfl, rfl⟩
        refine Or.inr ⟨ha d (List.mem_cons_self ..), ?_⟩
        exact Language.append_mem_mul (fun e he => ha e (List.mem_cons_of_mem _ he)) hb
  · rintro (h | ⟨hc, h⟩)
    · exact Language.append_mem_mul (a := []) (fun _ hd => by cases hd) h
    · rcases Language.mem_mul.1 h with ⟨a, ha, b, hb, rfl⟩
      refine Language.append_mem_mul (a := c :: a) ?_ hb
      intro e he
      rcases List.mem_cons.1 he with rfl | he
      · exact hc
      · exact ha e he

theorem nil_notMem_throughSeparator_mul : [] ∉ throughSeparator * L := by
  intro h
  rcases Language.mem_mul.1 h with ⟨a, ⟨u, rfl⟩, b, -, hab⟩
  simp at hab

/-- The separator is the first character of the path or stands further behind. -/
theorem cons_mem_throughSeparator_mul :
    c :: w ∈ throughSeparator * L ↔ w ∈ throughSeparator * L ∨ c = '/' ∧ w ∈ L := by
  constructor
  · intro h
    rcases Language.mem_mul.1 h with ⟨a, ⟨u, rfl⟩, b, hb, hab⟩
    cases u with
    | nil =>
        rcases List.cons.inj hab with ⟨rfl, rfl⟩
        exact Or.inr ⟨rfl, hb⟩
    | cons d u =>
        rcases List.cons.inj hab with ⟨rfl, rfl⟩
        exact Or.inl (Language.append_mem_mul ⟨u, rfl⟩ hb)
  · rintro (h | ⟨rfl, h⟩)
    · rcases Language.mem_mul.1 h with ⟨a, ⟨u, rfl⟩, b, hb, rfl⟩
      exact Language.append_mem_mul (a := c :: (u ++ ['/'])) ⟨c :: u, rfl⟩ hb
    · exact Language.append_mem_mul (a := ['/']) ⟨[], rfl⟩ h

/-! ## Tokens, pieces and globs -/

/-- The texts a token stands for. -/
def Token.language (scope : WildcardScope) : Token → Language Char
  | .char c => {[c]}
  | .anyChar => oneChar scope.admits
  | .anyRun => charRun scope.admits
  | .oneOf cls => oneChar (cls.admits scope)
  | .anyTail => ⊤
  | .anyDirs => 1 + throughSeparator

/-- The texts that tokens in sequence stand for. -/
def tokensLanguage (scope : WildcardScope) (ts : List Token) : Language Char :=
  (ts.map (Token.language scope)).prod

/-- The texts a piece stands for; a group stands for what one of its branches does. -/
def Piece.language (scope : WildcardScope) : Piece → Language Char
  | .token t => t.language scope
  | .group branches => (branches.map (tokensLanguage scope)).sum

/-- The paths a glob denotes. -/
def language (scope : WildcardScope) (g : Glob) : Language Char :=
  (g.map (Piece.language scope)).prod

theorem singleton_eq_oneChar (c : Char) : ({[c]} : Language Char) = oneChar (· == c) := by
  ext w
  constructor
  · rintro rfl
    exact ⟨c, beq_self_eq_true c, rfl⟩
  · rintro ⟨d, hd, rfl⟩
    rw [eq_of_beq hd]
    rfl

theorem top_eq_charRun : (⊤ : Language Char) = charRun fun _ => true := by
  ext w
  exact ⟨fun _ _ _ => rfl, fun _ => trivial⟩

/-! ## Verdicts -/

/-- The verdicts answer for every end of the path whether it is in the language. -/
inductive Decides (L : Language Char) : Text → List Bool → Prop
  | nil {b : Bool} : (b = true ↔ [] ∈ L) → Decides L [] [b]
  | cons {c : Char} {path : Text} {b : Bool} {later : List Bool} :
      (b = true ↔ c :: path ∈ L) → Decides L path later → Decides L (c :: path) (b :: later)

namespace Decides

variable {path : Text} {v v' : List Bool}

/-- The first verdict is about the whole path. -/
theorem headD_iff (h : Decides L path v) : v.headD false = true ↔ path ∈ L := by
  cases h with
  | nil hb => exact hb
  | cons hb _ => exact hb

theorem onePass (p : Char → Bool) (h : Decides L path v) :
    Decides (oneChar p * L) path (Glob.onePass p path v) := by
  induction h with
  | nil _ =>
      exact .nil (by simp [nil_notMem_oneChar_mul])
  | cons _ hlater ih =>
      refine .cons ?_ ih
      rw [Bool.and_eq_true, List.tail_cons, hlater.headD_iff, cons_mem_oneChar_mul]

theorem runPass (p : Char → Bool) (h : Decides L path v) :
    Decides (charRun p * L) path (Glob.runPass p path v) := by
  induction h with
  | nil hb =>
      exact .nil (by rw [nil_mem_charRun_mul]; exact hb)
  | cons hb _ ih =>
      -- Either what follows takes the whole end, or the run takes one character and goes on.
      refine .cons ?_ ih
      rw [Bool.or_eq_true, Bool.and_eq_true, List.tail_cons, ih.headD_iff, cons_mem_charRun_mul]
      exact or_congr_left hb

theorem behindSeparator (h : Decides L path v) :
    Decides (throughSeparator * L) path (Glob.behindSeparator path v) := by
  induction h with
  | nil _ =>
      exact .nil (by simp [nil_notMem_throughSeparator_mul])
  | cons _ hlater ih =>
      refine .cons ?_ ih
      rw [Bool.or_eq_true, Bool.and_eq_true, List.tail_cons, ih.headD_iff, hlater.headD_iff,
        beq_iff_eq, cons_mem_throughSeparator_mul]

theorem either (h : Decides L path v) (h' : Decides M path v') :
    Decides (L + M) path (Glob.either v v') := by
  induction h generalizing v' with
  | nil hb =>
      cases h' with
      | nil hb' =>
          exact .nil (by rw [Bool.or_eq_true, Language.mem_add, hb, hb'])
  | cons hb _ ih =>
      cases h' with
      | cons hb' hlater' =>
          exact .cons (by rw [Bool.or_eq_true, Language.mem_add, hb, hb']) (ih hlater')

/-- No verdict holds of the language without texts. -/
theorem none (h : Decides L path v) : Decides 0 path (v.map fun _ => false) := by
  induction h with
  | nil _ => exact .nil (by simp)
  | cons _ _ ih => exact .cons (by simp) ih

theorem endVerdicts (path : Text) : Decides 1 path (Glob.endVerdicts path) := by
  induction path with
  | nil => exact .nil (by simp)
  | cons c path ih => exact .cons (by simp) ih

/-! ## What the passes of a glob decide -/

/-- The pass of a token puts its texts in front of the language decided so far. -/
theorem tokenVerdicts (scope : WildcardScope) (t : Token) (h : Decides L path v) :
    Decides (t.language scope * L) path (t.verdicts scope path v) := by
  cases t with
  | char c =>
      rw [Token.language, singleton_eq_oneChar]
      exact h.onePass _
  | anyChar => exact h.onePass _
  | anyRun => exact h.runPass _
  | oneOf cls => exact h.onePass _
  | anyTail =>
      rw [Token.language, top_eq_charRun]
      exact h.runPass _
  | anyDirs =>
      rw [Token.language, add_mul, one_mul]
      exact h.either h.behindSeparator

theorem tokensVerdicts (scope : WildcardScope) (ts : List Token) (h : Decides L path v) :
    Decides (tokensLanguage scope ts * L) path (Glob.tokenVerdicts scope path ts v) := by
  -- The passes run from the last token to the first, which is the order of the induction.
  induction ts with
  | nil =>
      rw [tokensLanguage, List.map_nil, List.prod_nil, one_mul]
      exact h
  | cons t ts ih =>
      rw [tokensLanguage, List.map_cons, List.prod_cons, mul_assoc]
      exact ih.tokenVerdicts scope t

/-- Alternatives are decided branch by branch, all in front of the same language. -/
theorem branchVerdicts (scope : WildcardScope) (branches : List (List Token))
    (h : Decides L path v) :
    Decides ((branches.map (tokensLanguage scope)).sum * L) path
      ((Piece.group branches).verdicts scope path v) := by
  induction branches with
  | nil =>
      rw [List.map_nil, List.sum_nil, zero_mul]
      exact h.none
  | cons ts branches ih =>
      rw [List.map_cons, List.sum_cons, add_mul]
      exact (h.tokensVerdicts scope ts).either ih

theorem pieceVerdicts (scope : WildcardScope) (piece : Piece) (h : Decides L path v) :
    Decides (piece.language scope * L) path (piece.verdicts scope path v) := by
  cases piece with
  | token t => exact h.tokenVerdicts scope t
  | group branches => exact h.branchVerdicts scope branches

end Decides

/-- The verdicts of a glob answer for every end of the path whether the glob denotes it. -/
theorem decides_verdicts (scope : WildcardScope) (g : Glob) (path : Text) :
    Decides (g.language scope) path (verdicts scope g path) := by
  induction g with
  | nil => exact Decides.endVerdicts path
  | cons piece g ih =>
      rw [language, List.map_cons, List.prod_cons]
      exact ih.pieceVerdicts scope piece

/-- A glob matches exactly the paths it denotes. -/
theorem isMatch_iff_mem_language (scope : WildcardScope) (g : Glob) (path : Text) :
    g.isMatch scope path = true ↔ path ∈ g.language scope :=
  (decides_verdicts scope g path).headD_iff

end Glob

end IgnoreRules
