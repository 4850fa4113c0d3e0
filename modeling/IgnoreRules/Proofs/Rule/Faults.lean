import IgnoreRules.Proofs.Glob.Grammar
import IgnoreRules.Proofs.Rule.Literal

/-!
# Faults of patterns

A pattern has no needless escapes, so its backslashes come in pairs with the characters that they
escape.  A glob reads them in the same pairs except in brackets, where a backslash is a member by
itself.  The bracket that closes the brackets brings the two back in step, for whatever it was paired
with is in front of it.  So a backslash is never left alone at the end of a pattern, and every other
fault of a glob is one that a pattern can have.

* `Rule.InStep` : the texts behind which the escapes are those of the rest alone;
* `Rule.inStep_constructs` : whole constructs are such texts;
* `Rule.exists_line_of_fault` : patterns with a given fault;
* `Rule.faults_of_patterns` : the faults that patterns of lines have.
-/

open scoped Computability

namespace IgnoreRules

namespace Rule

open Glob (Fault constructs units groups grammar openGrammar)

variable {L M : Language Char}

/-! ## In step -/

/-- Behind a text of the language, the needed escapes are those of the rest by itself. -/
def InStep (L : Language Char) : Prop :=
  ∀ w ∈ L, ∀ rest, WellEscaped (w ++ rest) → WellEscaped rest

namespace InStep

theorem add (h : InStep L) (h' : InStep M) : InStep (L + M) := by
  rintro w (hw | hw) rest hescaped
  · exact h w hw rest hescaped
  · exact h' w hw rest hescaped

theorem mul (h : InStep L) (h' : InStep M) : InStep (L * M) := by
  intro w hw rest hescaped
  rcases Language.mem_mul.1 hw with ⟨a, ha, b, hb, rfl⟩
  rw [List.append_assoc] at hescaped
  exact h' b hb rest (h a ha (b ++ rest) hescaped)

theorem kstar (h : InStep L) : InStep (L∗) := by
  intro w hw rest hescaped
  rcases Language.mem_kstar.1 hw with ⟨us, rfl, hus⟩
  clear hw
  induction us with
  | nil => exact hescaped
  | cons u us ih =>
      rw [List.forall_mem_cons] at hus
      rw [List.flatten_cons, List.append_assoc] at hescaped
      exact ih hus.2 (h u hus.1 _ hescaped)

end InStep

/-- A text that does not end in a backslash ends where its escapes do. -/
theorem inStep_singleton {t : Text} {c : Char} (hc : c ≠ '\\') : InStep {t ++ [c]} := by
  rintro w rfl rest hescaped
  rw [List.append_assoc, List.singleton_append] at hescaped
  exact hescaped.of_append hc

/-- Every construct that is neither a brace nor a comma leaves the reading of escapes in step. -/
theorem inStep_units : InStep units := by
  rintro w ((⟨c, rfl⟩ | ⟨t, cls, rfl, hclosed⟩) | ⟨c, rfl, hc⟩) rest hescaped
  · cases hescaped with
    | plain hne _ => exact absurd rfl hne
    | pair _ hrest => exact hrest
  · -- The members may be out of step, the closing bracket is not.
    obtain ⟨u, rfl⟩ := hclosed.exists_eq
    have hclose : InStep {('[' :: u) ++ [']']} := inStep_singleton (by decide)
    exact hclose _ rfl rest hescaped
  · have hne : c ≠ '\\' := fun h => hc (h ▸ List.mem_cons_self ..)
    exact inStep_singleton (t := []) hne _ rfl rest hescaped

theorem inStep_constructs (inGroup : Bool) : InStep (constructs inGroup) := by
  have hopen : InStep {['{']} := inStep_singleton (t := []) (by decide)
  have hclose : InStep {['}']} := inStep_singleton (t := []) (by decide)
  have hgroups : InStep groups := (hopen.mul inStep_units.kstar).mul hclose
  have hgrammar : InStep grammar := (inStep_units.add hgroups).kstar
  cases inGroup with
  | false => exact hgrammar
  | true => exact hgrammar.mul (hopen.mul inStep_units.kstar)

/-- A text without needless escapes has no backslash alone behind whole constructs. -/
theorem WellEscaped.ne_dangling {t done : Text} {inGroup : Bool} (h : WellEscaped t)
    (hdone : done ∈ constructs inGroup) : t ≠ done ++ ['\\'] := by
  rintro rfl
  have hlone : WellEscaped ['\\'] := inStep_constructs inGroup done hdone _ h
  cases hlone with
  | plain hne _ => exact hne rfl

/-! ## Faults that remain -/

section Remaining

variable {p : Text} {fault : Fault} {low high : Char}

/-- A fault of a text without needless escapes is a fault of the pattern of a line, if the ends of the
text are none of those that reading a line changes. -/
theorem exists_line_of_fault (hescaped : WellEscaped p) (hhead : p.head? ≠ some '/')
    (hlast : ∃ c, p.getLast? = some c ∧ Text.isBlank c = false ∧ c ≠ '/' ∧ c ≠ '*')
    (h : Glob.parse p = .error fault) :
    ∃ raw r, Line.parse raw = .rule r ∧ Glob.parse r.pattern = .error fault := by
  obtain ⟨c, hc, hblank, hslash, hstar⟩ := hlast
  have hne : p ≠ [] := by
    rintro rfl
    cases hc
  have hends : ¬ everythingInside <:+ p := by
    rintro ⟨v, rfl⟩
    rw [List.getLast?_append] at hc
    exact hstar (Option.some.inj hc).symm
  have hplain : ∀ d ∈ p.getLast?, Text.isBlank d = false ∧ d ≠ '/' := by
    rw [hc]
    rintro d ⟨⟩
    exact ⟨hblank, hslash⟩
  exact ⟨_, _, parse_rooted hne hescaped hhead hplain hends, h⟩

theorem parse_descending {t : Text} (h : Glob.DescendingBracket t low high) :
    Glob.parse ('[' :: t) = .error (.invalidRange low high) :=
  Glob.parse_eq_error_iff.2
    ⟨_, Glob.firstFault?_bracket_error (Glob.readClass_of_descending h)⟩

/-- A range in descending order is at fault in negated brackets, where any character may stand at its
lower end; a backslash there takes another one in front, which is a member by itself. -/
theorem exists_line_of_descending (hhigh : high ≠ ']') (hlt : high < low) :
    ∃ raw r, Line.parse raw = .rule r ∧ Glob.parse r.pattern = .error (.invalidRange low high) := by
  have hend : WellEscaped [high, ']'] := by
    by_cases hbackslash : high = '\\'
    · subst hbackslash
      exact .pair (by decide) .nil
    · exact .plain hbackslash (.plain (by decide) .nil)
  by_cases hlow : low = '\\'
  · subst hlow
    have hescaped : WellEscaped ['[', '!', '\\', '\\', '-', high, ']'] :=
      .plain (by decide) (.plain (by decide) (.pair (by decide) (.plain (by decide) hend)))
    have hsingle : ¬ Glob.BeginsRange ['\\', '\\', '-', high, ']'] := fun h =>
      absurd (Glob.beginsRange_iff.1 h).1 (by decide)
    have hdescending : Glob.DescendingBracket ['!', '\\', '\\', '-', high, ']'] '\\' high :=
      ⟨true, _, [('\\', '\\')], [']'], .negated (Or.inl rfl),
        .more (Or.inl rfl) (.single hsingle) (.none _ _), Or.inr (by decide), hhigh, hlt⟩
    exact exists_line_of_fault hescaped (by simp) ⟨']', rfl, by decide⟩ (parse_descending hdescending)
  · have hescaped : WellEscaped ['[', '!', low, '-', high, ']'] :=
      .plain (by decide) (.plain (by decide) (.plain hlow (.plain (by decide) hend)))
    have hdescending : Glob.DescendingBracket ['!', low, '-', high, ']'] low high :=
      ⟨true, _, [], [']'], .negated (Or.inl rfl), .none _ _, Or.inl rfl, hhigh, hlt⟩
    exact exists_line_of_fault hescaped (by simp) ⟨']', rfl, by decide⟩ (parse_descending hdescending)

/-- A range is reported only with its ends in descending order. -/
theorem bounds_of_invalidRange {t : Text} (h : Glob.parse t = .error (.invalidRange low high)) :
    high ≠ ']' ∧ high < low := by
  obtain ⟨rest, hfirst⟩ := Glob.parse_eq_error_iff.1 h
  generalize false = inGroup at hfirst
  clear h
  -- Only brackets have ranges, and what is wrong with them does not hang on what is around them.
  fun_induction Glob.firstFault? inGroup t with
  | case4 inGroup c rest ih => exact ih hfirst
  | case5 inGroup rest fault hread =>
      cases hfirst
      rcases Glob.readClass_eq_error_iff.1 hread with ⟨hfault, -⟩ | ⟨_, _, hfault, hdescending⟩
      · cases hfault
      · cases hfault
        obtain ⟨_, _, _, _, -, -, -, hbounds⟩ := hdescending
        exact hbounds
  | case6 inGroup rest cls after hread _ ih => exact ih hfirst
  | case8 inGroup rest hin _ _ ih => exact ih hfirst
  | case9 rest _ _ _ ih => exact ih hfirst
  | case11 inGroup c rest hslash hbracket hopen hclose ih => exact ih hfirst
  | _ => cases hfirst

end Remaining

/-- The pattern of a line never has a dangling escape: it is no sequence of whole constructs with a
backslash alone behind them.  Every other fault that a glob can have, the pattern of some line has. -/
theorem faults_of_patterns :
    (∀ raw r, Line.parse raw = .rule r →
      (∀ fault, Glob.parse r.pattern = .error fault → fault.message ≠ "dangling escape") ∧
      ∀ inGroup done, done ∈ constructs inGroup → r.pattern ≠ done ++ ['\\']) ∧
    ∀ fault, fault ≠ .danglingEscape → (∃ t, Glob.parse t = .error fault) →
      ∃ raw r, Line.parse raw = .rule r ∧ Glob.parse r.pattern = .error fault := by
  constructor
  · intro raw r hline
    have hstep : ∀ inGroup done, done ∈ constructs inGroup → r.pattern ≠ done ++ ['\\'] :=
      fun inGroup done hdone => (wellEscaped_pattern hline).ne_dangling hdone
    refine ⟨fun fault hfault hmessage => ?_, hstep⟩
    obtain ⟨done, rest, hpattern, hoffends⟩ := Glob.parse_error_iff_offends.1 ⟨fault, hfault, hmessage⟩
    obtain ⟨rfl, inGroup, hdone⟩ := Glob.offends_dangling_iff.1 hoffends
    exact hstep inGroup done hdone hpattern
  · rintro fault hne ⟨t, ht⟩
    have hplain : ∀ {p : Text}, '\\' ∉ p → WellEscaped p := wellEscaped_of_notMem
    cases fault with
    | danglingEscape => exact absurd rfl hne
    | unclosedClass =>
        exact exists_line_of_fault (p := ['[']) (hplain (by decide)) (by decide)
          ⟨'[', rfl, by decide⟩ (by decide +kernel)
    | invalidRange low high =>
        obtain ⟨hhigh, hlt⟩ := bounds_of_invalidRange ht
        exact exists_line_of_descending hhigh hlt
    | nestedAlternates =>
        exact exists_line_of_fault (p := ['{', '{']) (hplain (by decide)) (by decide)
          ⟨'{', rfl, by decide⟩ (by decide +kernel)
    | unopenedAlternates =>
        exact exists_line_of_fault (p := ['}']) (hplain (by decide)) (by decide)
          ⟨'}', rfl, by decide⟩ (by decide +kernel)
    | unclosedAlternates =>
        exact exists_line_of_fault (p := ['{']) (hplain (by decide)) (by decide)
          ⟨'{', rfl, by decide⟩ (by decide +kernel)

/-- A range that takes in a backslash, an escaped bracket behind it and a backslash at the end of the
line; and a backslash as the lower end of a range that is at fault. -/
theorem faults_of_patterns_sample :
    (∃ r, Line.parse "!x[A-\\]\\]\\".toList = .rule r ∧ r.pattern = "**/x[A-\\]\\]".toList ∧
      ∀ fault, Glob.parse r.pattern = .error fault → fault.message ≠ "dangling escape") ∧
    Glob.parse "[\\-A]".toList = .error (.invalidRange '\\' 'A') ∧
    ∃ raw r, Line.parse raw = .rule r ∧ Glob.parse r.pattern = .error (.invalidRange '\\' 'A') := by
  have hline : Line.parse "!x[A-\\]\\]\\".toList =
      .rule ⟨"**/x[A-\\]\\]".toList, false, false, true⟩ := by
    decide
  have hrange : Glob.parse "[\\-A]".toList = .error (.invalidRange '\\' 'A') := by decide +kernel
  obtain ⟨hdangling, hothers⟩ := faults_of_patterns
  exact ⟨⟨_, hline, rfl, (hdangling _ _ hline).1⟩, hrange, hothers _ (by decide) ⟨_, hrange⟩⟩

end Rule

end IgnoreRules
