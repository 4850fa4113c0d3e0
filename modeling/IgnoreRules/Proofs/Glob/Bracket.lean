import IgnoreRules.Glob.Parser

/-!
# Bracket expressions

What a bracket expression is, as rules about its text, and that `readClass` reads exactly that.  A
member is a range when a dash and a character other than the closing bracket follow its first
character, and a single character otherwise; a closing bracket ends the expression except in first
position, where it is a member.  Nothing else inside the brackets is special.

* `Glob.Member`, `Glob.Members` : the members at the beginning of a text;
* `Glob.ClosedBracket`, `Glob.UnclosedBracket`, `Glob.DescendingBracket` : the three ways in which
  the text behind an opening bracket can go on;
* `Glob.readClass_eq_ok_iff`, `Glob.readClass_eq_error_iff` : what reading makes of each.
-/

namespace IgnoreRules

namespace Glob

/-! ## Members -/

/-- The text begins with two ends and a dash between them; the closing bracket is no upper end. -/
def BeginsRange (t : Text) : Prop :=
  ∃ low high rest, t = low :: '-' :: high :: rest ∧ high ≠ ']'

/-- The text begins with this member, and the rest of it follows. -/
inductive Member : Text → Char × Char → Text → Prop
  | range {low high : Char} {rest : Text} :
      high ≠ ']' → low ≤ high → Member (low :: '-' :: high :: rest) (low, high) rest
  | single {c : Char} {rest : Text} : ¬ BeginsRange (c :: rest) → Member (c :: rest) (c, c) rest

/-- The text begins with these members, and the rest of it follows.  Only the `first` member of an
expression may begin with the closing bracket. -/
inductive Members : (first : Bool) → Text → List (Char × Char) → Text → Prop
  | none (first : Bool) (t : Text) : Members first t [] t
  | more {first : Bool} {t t' rest : Text} {m : Char × Char} {ms : List (Char × Char)} :
      (first = true ∨ t.head? ≠ some ']') → Member t m t' → Members false t' ms rest →
      Members first t (m :: ms) rest

/-- A text behind an opening bracket is its negation mark, if there is one, and the members. -/
inductive Marked : Text → (negated : Bool) → Text → Prop
  | negated {mark : Char} {t : Text} : mark = '!' ∨ mark = '^' → Marked (mark :: t) true t
  | plain {t : Text} : t.head? ≠ some '!' → t.head? ≠ some '^' → Marked t false t

/-! ## Bracket expressions -/

/-- A closed expression with at least one member; `after` follows its closing bracket. -/
def ClosedBracket (t : Text) (cls : CharClass) (after : Text) : Prop :=
  ∃ body, Marked t cls.negated body ∧ Members true body cls.ranges (']' :: after) ∧ cls.ranges ≠ []

/-- An expression whose members go on to the end of the text. -/
def UnclosedBracket (t : Text) : Prop :=
  ∃ negated body ms, Marked t negated body ∧ Members true body ms []

/-- An expression in which a range with its ends in descending order follows some members, whether
the expression is closed or not. -/
def DescendingBracket (t : Text) (low high : Char) : Prop :=
  ∃ negated body ms rest, Marked t negated body ∧
    Members true body ms (low :: '-' :: high :: rest) ∧
      (ms = [] ∨ low ≠ ']') ∧ high ≠ ']' ∧ high < low

/-! ## Reading members -/

section Members

variable {found ms : List (Char × Char)} {m : Char × Char} {t t' rest after : Text}
variable {first : Bool}

/-- The rest behind a member is shorter. -/
theorem Member.suffix (h : Member t m t') : t' <:+ t := by
  cases h with
  | range _ _ => exact ⟨[_, '-', _], rfl⟩
  | single _ => exact List.suffix_cons _ _

theorem Members.suffix (h : Members first t ms rest) : rest <:+ t := by
  induction h with
  | none => exact List.suffix_rfl
  | more _ hm _ ih => exact ih.trans hm.suffix

/-- Reading takes one member after the other. -/
theorem readMembers_member (hfirst : found.isEmpty = true ∨ t.head? ≠ some ']')
    (h : Member t m t') : readMembers found t = readMembers (m :: found) t' := by
  -- The first character of a member does not close the expression.
  have hopen : ∀ c, t.head? = some c → (c = ']' && !found.isEmpty) = false := by
    intro c hc
    rcases hfirst with hfound | hne
    · simp [hfound]
    · have : c ≠ ']' := fun he => hne (he ▸ hc)
      simp [this]
  cases h with
  | @range low high _ hhigh hle =>
      have hlow := hopen low rfl
      rw [readMembers, if_neg (by simp [hlow]), if_pos (by simp [hhigh]), if_neg (Char.not_lt.2 hle)]
  | @single c _ hrange =>
      have hc := hopen c rfl
      -- The number of characters left decides which equation of `readMembers` applies.
      cases t' with
      | nil => rw [readMembers, readMembers, if_neg (by simp [hc])]
      | cons d t' =>
          cases t' with
          | nil =>
              conv => lhs; rw [readMembers, if_neg (by simp [hc])]
          | cons e t' =>
              have hdash : ¬ (d = '-' && e != ']') = true := by
                intro hde
                simp only [Bool.and_eq_true, decide_eq_true_eq, bne_iff_ne] at hde
                exact hrange ⟨c, e, t', by rw [hde.1], hde.2⟩
              rw [readMembers, if_neg (by simp [hc]), if_neg hdash]

/-- Reading goes through members without a look at what follows them. -/
theorem readMembers_members (h : Members first t ms rest) (hfirst : first = found.isEmpty) :
    readMembers found t = readMembers (ms.reverse ++ found) rest := by
  induction h generalizing found with
  | none => rfl
  | @more first t t' rest m ms hhead hm _ ih =>
      rw [readMembers_member (by rw [← hfirst]; exact hhead) hm, ih rfl, List.reverse_cons,
        List.append_assoc, List.singleton_append]

theorem readMembers_close (hfound : found ≠ []) :
    readMembers found (']' :: after) = .ok (found.reverse, after) := by
  have hclose : ((']' : Char) = ']' && !found.isEmpty) = true := by
    simp [hfound]
  -- Again the equation depends on how many characters are left.
  cases after with
  | nil => rw [readMembers, if_pos hclose]
  | cons d after =>
      cases after with
      | nil => rw [readMembers, if_pos hclose]
      | cons e after => rw [readMembers, if_pos hclose]

theorem readMembers_descending {low high : Char} (hfound : found = [] ∨ low ≠ ']')
    (hhigh : high ≠ ']') (hlt : high < low) :
    readMembers found (low :: '-' :: high :: rest) = .error (.invalidRange low high) := by
  have hlow : ¬ (low = ']' && !found.isEmpty) = true := by
    rcases hfound with rfl | hne
    · simp
    · simp [hne]
  rw [readMembers, if_neg hlow, if_pos (by simp [hhigh]), if_pos hlt]

/-- Where the members of an expression stop: at the end of the text, at the closing bracket, or at
a range in descending order. -/
inductive Stop (first : Bool) : Text → Prop
  | ended : Stop first []
  | closed {after : Text} : first = false → Stop first (']' :: after)
  | descending {low high : Char} {rest : Text} :
      (first = true ∨ low ≠ ']') → high ≠ ']' → high < low →
      Stop first (low :: '-' :: high :: rest)

/-- Every text goes through members up to a place where they stop. -/
theorem exists_members_stop (first : Bool) (t : Text) :
    ∃ ms rest, Members first t ms rest ∧ Stop (first && ms.isEmpty) rest := by
  induction hn : t.length using Nat.strongRecOn generalizing first t with
  | ind n ih =>
      -- One more member in front of what the rest goes through.
      have step : ∀ {m t'}, (first = true ∨ t.head? ≠ some ']') → Member t m t' →
          t'.length < t.length →
          ∃ ms rest, Members first t ms rest ∧ Stop (first && ms.isEmpty) rest := by
        intro m t' hhead hm hlt
        rcases ih t'.length (hn ▸ hlt) false t' rfl with ⟨ms, rest, hms, hstop⟩
        exact ⟨m :: ms, rest, .more hhead hm hms, by simpa using hstop⟩
      cases t with
      | nil => exact ⟨[], [], .none _ _, .ended⟩
      | cons c t =>
          -- A bracket that is not first closes; otherwise `c` begins a member or a bad range.
          by_cases hclose : first = false ∧ c = ']'
          · rcases hclose with ⟨hfirst, rfl⟩
            exact ⟨[], ']' :: t, .none _ _, .closed (by simp [hfirst])⟩
          have hhead : first = true ∨ c ≠ ']' := by
            cases first with
            | true => exact Or.inl rfl
            | false => exact Or.inr fun hc => hclose ⟨rfl, hc⟩
          have hhead' : first = true ∨ (c :: t).head? ≠ some ']' := by
            simpa using hhead
          by_cases hrange : BeginsRange (c :: t)
          · rcases hrange with ⟨low, high, rest, heq, hhigh⟩
            rcases List.cons.inj heq with ⟨rfl, rfl⟩
            by_cases hlt : high < c
            · exact ⟨[], _, .none _ _, .descending (by simpa using hhead) hhigh hlt⟩
            · exact step hhead' (.range hhigh (Char.not_lt.1 hlt)) (by simp; omega)
          · exact step hhead' (.single hrange) (by simp)

end Members

/-! ## Reading a bracket expression -/

section Brackets

variable {t body after : Text} {negated : Bool} {cls : CharClass} {low high : Char}

/-- Every text falls into its negation mark and its members. -/
theorem exists_marked (t : Text) : ∃ negated body, Marked t negated body := by
  by_cases h : t.head? = some '!' ∨ t.head? = some '^'
  · cases t with
    | nil => simp at h
    | cons mark t => exact ⟨true, t, .negated (by simpa using h)⟩
  · exact ⟨false, t, .plain (fun hc => h (Or.inl hc)) (fun hc => h (Or.inr hc))⟩

theorem readClass_marked (h : Marked t negated body) :
    readClass t =
      (readMembers [] body).map fun (ranges, after) => (⟨negated, ranges⟩, after) := by
  cases h with
  | negated hmark => rw [readClass, if_pos (by simpa using hmark)]
  | plain hbang hcaret =>
      cases t with
      | nil => rfl
      | cons c t =>
          have hplain : ¬ (c = '!' || c = '^') = true := by
            simp only [List.head?_cons, ne_eq, Option.some.injEq] at hbang hcaret
            simp [hbang, hcaret]
          rw [readClass, if_neg hplain]

theorem readClass_of_closed (h : ClosedBracket t cls after) : readClass t = .ok (cls, after) := by
  rcases h with ⟨body, hmark, hms, hne⟩
  rw [readClass_marked hmark, readMembers_members hms rfl, readMembers_close (by simpa using hne)]
  simp [Except.map]

theorem readClass_of_unclosed (h : UnclosedBracket t) : readClass t = .error .unclosedClass := by
  rcases h with ⟨negated, body, ms, hmark, hms⟩
  rw [readClass_marked hmark, readMembers_members hms rfl, readMembers]
  rfl

theorem readClass_of_descending (h : DescendingBracket t low high) :
    readClass t = .error (.invalidRange low high) := by
  rcases h with ⟨negated, body, ms, rest, hmark, hms, hfirst, hhigh, hlt⟩
  rw [readClass_marked hmark, readMembers_members hms rfl,
    readMembers_descending (by simpa using hfirst) hhigh hlt]
  rfl

/-- Whatever stands behind an opening bracket is one of the three. -/
theorem bracket_cases (t : Text) :
    (∃ cls after, ClosedBracket t cls after) ∨ UnclosedBracket t ∨
      ∃ low high, DescendingBracket t low high := by
  rcases exists_marked t with ⟨negated, body, hmark⟩
  rcases exists_members_stop true body with ⟨ms, rest, hms, hstop⟩
  cases hstop with
  | ended => exact Or.inr (Or.inl ⟨negated, body, ms, hmark, hms⟩)
  | closed hfirst =>
      exact Or.inl ⟨⟨negated, ms⟩, _, body, hmark, hms, by simpa using hfirst⟩
  | descending hfirst hhigh hlt =>
      exact Or.inr (Or.inr ⟨_, _, negated, body, ms, _, hmark, hms, by simpa using hfirst, hhigh, hlt⟩)

theorem readClass_eq_ok_iff : readClass t = .ok (cls, after) ↔ ClosedBracket t cls after := by
  refine ⟨fun h => ?_, readClass_of_closed⟩
  rcases bracket_cases t with ⟨cls', after', hc⟩ | hu | ⟨low, high, hd⟩
  · rw [readClass_of_closed hc] at h
    cases h
    exact hc
  · rw [readClass_of_unclosed hu] at h
    cases h
  · rw [readClass_of_descending hd] at h
    cases h

/-- Reading fails exactly on the two other kinds of expressions, each with its own fault. -/
theorem readClass_eq_error_iff {fault : Fault} :
    readClass t = .error fault ↔ fault = .unclosedClass ∧ UnclosedBracket t ∨
      ∃ low high, fault = .invalidRange low high ∧ DescendingBracket t low high := by
  constructor
  · intro h
    rcases bracket_cases t with ⟨cls, after, hc⟩ | hu | ⟨low, high, hd⟩
    · rw [readClass_of_closed hc] at h
      cases h
    · rw [readClass_of_unclosed hu] at h
      cases h
      exact Or.inl ⟨rfl, hu⟩
    · rw [readClass_of_descending hd] at h
      cases h
      exact Or.inr ⟨low, high, rfl, hd⟩
  · rintro (⟨rfl, hu⟩ | ⟨low, high, rfl, hd⟩)
    · exact readClass_of_unclosed hu
    · exact readClass_of_descending hd

end Brackets

/-! ## A bracket expression on its own

What follows a closed expression has no part in it: the three characters that tell a range from a
single member never reach beyond the closing bracket. -/

section Extent

variable {t t' after : Text} {m : Char × Char} {ms : List (Char × Char)} {first negated : Bool}

theorem beginsRange_iff {c d e : Char} : BeginsRange (c :: d :: e :: t) ↔ d = '-' ∧ e ≠ ']' := by
  constructor
  · rintro ⟨low, high, rest, heq, hhigh⟩
    cases heq
    exact ⟨rfl, hhigh⟩
  · rintro ⟨rfl, he⟩
    exact ⟨c, e, t, rfl, he⟩

theorem beginsRange_append {c : Char} (hclose : ']' ∈ t) (rest : Text) :
    BeginsRange (c :: (t ++ rest)) ↔ BeginsRange (c :: t) := by
  match t with
  | [] => cases hclose
  | [d] =>
      -- The character behind `c` is the closing bracket itself, and no dash.
      rcases List.mem_singleton.1 hclose with rfl
      constructor
      · rintro ⟨low, high, rest', heq, -⟩
        cases heq
      · rintro ⟨low, high, rest', heq, -⟩
        cases heq
  | d :: e :: t => exact beginsRange_iff.trans beginsRange_iff.symm

theorem Members.mem_close (h : Members first t ms (']' :: after)) : ']' ∈ t :=
  h.suffix.subset (List.mem_cons_self ..)

theorem head?_append_of_mem {c : Char} (hc : c ∈ t) (rest : Text) :
    (t ++ rest).head? = t.head? := by
  cases t with
  | nil => cases hc
  | cons d t => rfl

theorem Member.append (h : Member t m t') (hclose : ']' ∈ t') (rest : Text) :
    Member (t ++ rest) m (t' ++ rest) := by
  cases h with
  | range hhigh hle => exact .range hhigh hle
  | single hrange => exact .single fun h => hrange ((beginsRange_append hclose rest).1 h)

/-- Members up to the closing bracket stay the same when something else follows the bracket. -/
theorem Members.append (h : Members first t ms (']' :: after)) (rest : Text) :
    Members first (t ++ rest) ms (']' :: (after ++ rest)) := by
  -- The closing bracket must be a variable for the induction to run over the members.
  generalize hend : ']' :: after = tail at h
  induction h with
  | none => subst hend; exact .none _ _
  | more hhead hm hms ih =>
      subst hend
      have hclose := hms.mem_close
      refine .more ?_ (hm.append hclose rest) (ih rfl)
      rw [head?_append_of_mem (hm.suffix.subset hclose)]
      exact hhead

/-- Members up to the closing bracket are found in the text that ends there. -/
theorem Members.exists_front (h : Members first t ms (']' :: after)) :
    ∃ w, t = w ++ after ∧ Members first w ms [']'] := by
  generalize hend : ']' :: after = tail at h
  induction h with
  | none => subst hend; exact ⟨[']'], rfl, .none _ _⟩
  | @more first t t' tail m ms hhead hm hms ih =>
      rcases ih hend with ⟨w, rfl, hw⟩
      cases hm with
      | @range low high _ hhigh hle =>
          exact ⟨low :: '-' :: high :: w, rfl, .more (by simpa using hhead) (.range hhigh hle) hw⟩
      | @single c _ hrange =>
          refine ⟨c :: w, rfl, .more (by simpa using hhead) (.single ?_) hw⟩
          exact fun h => hrange ((beginsRange_append hw.mem_close after).2 h)

theorem Marked.append {body : Text} {c : Char} (h : Marked t negated body) (hc : c ∈ body)
    (rest : Text) : Marked (t ++ rest) negated (body ++ rest) := by
  cases h with
  | negated hmark => exact .negated hmark
  | plain hbang hcaret =>
      exact .plain (by rwa [head?_append_of_mem hc]) (by rwa [head?_append_of_mem hc])

theorem ClosedBracket.append {cls : CharClass} (h : ClosedBracket t cls []) (rest : Text) :
    ClosedBracket (t ++ rest) cls rest := by
  rcases h with ⟨body, hmark, hms, hne⟩
  exact ⟨body ++ rest, hmark.append hms.mem_close rest, hms.append rest, hne⟩

theorem ClosedBracket.exists_front {cls : CharClass} (h : ClosedBracket t cls after) :
    ∃ w, t = w ++ after ∧ ClosedBracket w cls [] := by
  rcases h with ⟨body, hmark, hms, hne⟩
  rcases hms.exists_front with ⟨w, rfl, hw⟩
  cases hcls : cls.negated with
  | true =>
      rw [hcls] at hmark
      cases hmark with
      | @negated mark _ hmark =>
          exact ⟨mark :: w, rfl, w, hcls ▸ .negated hmark, hw, hne⟩
  | false =>
      rw [hcls] at hmark
      cases hmark with
      | plain hbang hcaret =>
          rw [head?_append_of_mem hw.mem_close] at hbang hcaret
          exact ⟨w, rfl, w, hcls ▸ .plain hbang hcaret, hw, hne⟩

theorem Marked.suffix {body : Text} (h : Marked t negated body) : body <:+ t := by
  cases h with
  | negated _ => exact List.suffix_cons _ _
  | plain _ _ => exact List.suffix_rfl

/-- A closed expression ends in its closing bracket. -/
theorem ClosedBracket.exists_eq {cls : CharClass} (h : ClosedBracket t cls []) :
    ∃ w, t = w ++ [']'] := by
  obtain ⟨body, hmark, hmembers, -⟩ := h
  obtain ⟨w, hw⟩ := hmembers.suffix.trans hmark.suffix
  exact ⟨w, hw.symm⟩

end Extent

end Glob

end IgnoreRules
