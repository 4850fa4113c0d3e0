import Mathlib.Computability.Language
import IgnoreRules.Proofs.Glob.Step

/-!
# The grammar of globs

Which texts are globs, said without a reader, and which construct is at fault in the others.

A glob is a sequence of escape pairs, closed bracket expressions, groups in braces and other
characters; a group holds the same constructs except groups.  A text that is no glob has one construct
at fault: everything in front of it is a sequence of whole constructs, with at most one group still
open.

* `Glob.grammar` : the texts that are globs;
* `Glob.Offends` : the place and the reason of a fault;
* `Glob.firstFault?` : the reading of a glob with everything left out that does not decide whether
  the text is a glob;
* `Glob.parse_decides_grammar` : reading accepts the grammar and otherwise reports the one construct
  that offends.
-/

open scoped Computability

namespace IgnoreRules

namespace Glob

/-! ## Constructs -/

/-- A backslash and any character. -/
def escapePairs : Language Char :=
  {w | ∃ c, w = ['\\', c]}

/-- The closed bracket expressions.  Their members may be any characters. -/
def brackets : Language Char :=
  {w | ∃ t cls, w = '[' :: t ∧ ClosedBracket t cls []}

/-- The characters that begin no longer construct. -/
def otherChars : Language Char :=
  {w | ∃ c, w = [c] ∧ c ∉ ['\\', '[', '{', '}']}

/-- What may stand inside a group as well as outside. -/
def units : Language Char :=
  escapePairs + brackets + otherChars

/-- The groups.  No group stands inside another. -/
def groups : Language Char :=
  {['{']} * units∗ * {['}']}

/-- The texts that are globs. -/
def grammar : Language Char :=
  (units + groups)∗

/-- The beginnings of globs that end inside a group. -/
def openGrammar : Language Char :=
  grammar * ({['{']} * units∗)

/-- The sequences of whole constructs after which a group is open, or none is. -/
def constructs : (inGroup : Bool) → Language Char
  | false => grammar
  | true => openGrammar

/-- After the whole constructs `done`, the text goes on with `rest`, which begins with a construct at
fault.  Only the end of the text is at fault for the group that it leaves open. -/
inductive Offends : (done rest : Text) → (reason : String) → Prop
  | danglingEscape {inGroup : Bool} {done : Text} :
      done ∈ constructs inGroup → Offends done ['\\'] "dangling escape"
  | unclosedClass {inGroup : Bool} {done t : Text} :
      done ∈ constructs inGroup → UnclosedBracket t →
      Offends done ('[' :: t) "unclosed character class"
  | invalidRange {inGroup : Bool} {done t : Text} {low high : Char} :
      done ∈ constructs inGroup → DescendingBracket t low high →
      Offends done ('[' :: t) s!"invalid range '{low}-{high}'"
  | nestedAlternates {done rest : Text} :
      done ∈ constructs true → Offends done ('{' :: rest) "nested alternates"
  | unopenedAlternates {done rest : Text} :
      done ∈ constructs false → Offends done ('}' :: rest) "unopened alternates"
  | unclosedAlternates {done : Text} :
      done ∈ constructs true → Offends done [] "unclosed alternates"

/-! ## The first fault of a text -/

/-- The first fault of a text that begins inside a group or outside, and the text from the construct
at fault on. -/
def firstFault? (inGroup : Bool) (t : Text) : Option (Fault × Text) :=
  match t with
  | [] => if inGroup then some (.unclosedAlternates, []) else none
  | c :: rest =>
      if c = '\\' then
        match rest with
        | [] => some (.danglingEscape, ['\\'])
        | _ :: rest => firstFault? inGroup rest
      else if c = '[' then
        match _h : readClass rest with
        | .error fault => some (fault, c :: rest)
        | .ok (_, after) => firstFault? inGroup after
      else if c = '{' then
        if inGroup then some (.nestedAlternates, c :: rest) else firstFault? true rest
      else if c = '}' then
        if inGroup then firstFault? false rest else some (.unopenedAlternates, c :: rest)
      else
        firstFault? inGroup rest
termination_by t.length
decreasing_by
  all_goals simp only [List.length_cons]
  · omega
  · have := length_lt_of_readClass _h
    omega
  all_goals omega

section FirstFault

variable {inGroup : Bool} {c low high : Char} {t rest after : Text} {cls : CharClass}

theorem firstFault?_escape : firstFault? inGroup ('\\' :: c :: rest) = firstFault? inGroup rest := by
  rw [firstFault?, if_pos rfl]

theorem firstFault?_bracket (h : ClosedBracket t cls after) :
    firstFault? inGroup ('[' :: t) = firstFault? inGroup after := by
  rw [firstFault?.eq_def]
  simp only [Char.reduceEq, if_false, if_true]
  split
  · next heq =>
      rw [readClass_of_closed h] at heq
      cases heq
  · next heq =>
      rw [readClass_of_closed h] at heq
      cases heq
      rfl

theorem firstFault?_bracket_error {fault : Fault} (h : readClass t = .error fault) :
    firstFault? inGroup ('[' :: t) = some (fault, '[' :: t) := by
  rw [firstFault?.eq_def]
  simp only [Char.reduceEq, if_false, if_true]
  split
  · next heq =>
      rw [h] at heq
      cases heq
      rfl
  · next heq =>
      rw [h] at heq
      cases heq

theorem firstFault?_other (hc : c ∉ ['\\', '[', '{', '}']) :
    firstFault? inGroup (c :: rest) = firstFault? inGroup rest := by
  simp only [List.mem_cons, List.not_mem_nil, or_false, not_or] at hc
  rw [firstFault?.eq_def]
  simp only [hc, if_false]

theorem firstFault?_beginGroup : firstFault? false ('{' :: rest) = firstFault? true rest := by
  rw [firstFault?.eq_def]
  simp

theorem firstFault?_endGroup : firstFault? true ('}' :: rest) = firstFault? false rest := by
  rw [firstFault?.eq_def]
  simp

/-! ### Whole constructs are passed over -/

theorem firstFault?_unit {u : Text} (hu : u ∈ units) (rest : Text) :
    firstFault? inGroup (u ++ rest) = firstFault? inGroup rest := by
  rcases hu with (⟨c, rfl⟩ | ⟨t, cls, rfl, hclosed⟩) | ⟨c, rfl, hc⟩
  · exact firstFault?_escape
  · exact firstFault?_bracket (hclosed.append rest)
  · exact firstFault?_other hc

theorem firstFault?_units {w : Text} (hw : w ∈ units∗) (rest : Text) :
    firstFault? inGroup (w ++ rest) = firstFault? inGroup rest := by
  rcases Language.mem_kstar.1 hw with ⟨us, rfl, hus⟩
  clear hw
  induction us with
  | nil => rfl
  | cons u us ih =>
      rw [List.flatten_cons, List.append_assoc, firstFault?_unit (hus u (List.mem_cons_self ..))]
      exact ih fun v hv => hus v (List.mem_cons_of_mem _ hv)

theorem firstFault?_group {w : Text} (hw : w ∈ groups) (rest : Text) :
    firstFault? false (w ++ rest) = firstFault? false rest := by
  rcases Language.mem_mul.1 hw with ⟨ab, hab, b, rfl, rfl⟩
  rcases Language.mem_mul.1 hab with ⟨a, rfl, u, hu, rfl⟩
  calc
    firstFault? false ((['{'] ++ u ++ ['}']) ++ rest)
        = firstFault? false ('{' :: (u ++ ('}' :: rest))) := by simp
    _ = firstFault? true (u ++ ('}' :: rest)) := firstFault?_beginGroup
    _ = firstFault? true ('}' :: rest) := firstFault?_units hu _
    _ = firstFault? false rest := firstFault?_endGroup

theorem firstFault?_grammar {w : Text} (hw : w ∈ grammar) (rest : Text) :
    firstFault? false (w ++ rest) = firstFault? false rest := by
  rcases Language.mem_kstar.1 hw with ⟨us, rfl, hus⟩
  clear hw
  -- The induction is on the constructs that the text is put together from.
  induction us with
  | nil => rfl
  | cons u us ih =>
      rw [List.flatten_cons, List.append_assoc]
      have htail := ih fun v hv => hus v (List.mem_cons_of_mem _ hv)
      rcases hus u (List.mem_cons_self ..) with hu | hu
      · rw [firstFault?_unit hu, htail]
      · rw [firstFault?_group hu, htail]

/-- Whole constructs have no fault, and what follows them is read in the state that they leave. -/
theorem firstFault?_constructs {w : Text} (hw : w ∈ constructs inGroup) (rest : Text) :
    firstFault? false (w ++ rest) = firstFault? inGroup rest := by
  cases inGroup with
  | false => exact firstFault?_grammar hw rest
  | true =>
      rcases Language.mem_mul.1 hw with ⟨a, ha, b, hb, rfl⟩
      rcases Language.mem_mul.1 hb with ⟨brace, rfl, u, hu, rfl⟩
      rw [List.append_assoc, firstFault?_grammar ha, List.append_assoc, List.singleton_append,
        firstFault?_beginGroup, firstFault?_units hu]

end FirstFault

/-! ## The first fault offends -/

section Offends

variable {inGroup : Bool} {w u done rest : Text} {reason : String}

theorem append_mem_kstar {L : Language Char} (hw : w ∈ L∗) (hu : u ∈ L) : w ++ u ∈ L∗ := by
  rcases Language.mem_kstar.1 hw with ⟨us, rfl, hus⟩
  refine Language.mem_kstar.2 ⟨us ++ [u], by simp, ?_⟩
  intro v hv
  rcases List.mem_append.1 hv with hv | hv
  · exact hus v hv
  · rw [List.mem_singleton.1 hv]
    exact hu

theorem nil_mem_constructs : [] ∈ constructs false :=
  Language.nil_mem_kstar _

theorem append_unit_mem (hw : w ∈ constructs inGroup) (hu : u ∈ units) :
    w ++ u ∈ constructs inGroup := by
  cases inGroup with
  | false => exact append_mem_kstar hw (Or.inl hu)
  | true =>
      rcases Language.mem_mul.1 hw with ⟨a, ha, b, hb, rfl⟩
      rcases Language.mem_mul.1 hb with ⟨brace, hbrace, v, hv, rfl⟩
      rw [List.append_assoc, List.append_assoc]
      exact Language.append_mem_mul ha
        (Language.append_mem_mul hbrace (append_mem_kstar hv hu))

theorem append_open_mem (hw : w ∈ constructs false) : w ++ ['{'] ∈ constructs true :=
  Language.append_mem_mul hw
    (Language.append_mem_mul (a := ['{']) (b := []) rfl (Language.nil_mem_kstar _))

theorem append_close_mem (hw : w ∈ constructs true) : w ++ ['}'] ∈ constructs false := by
  rcases Language.mem_mul.1 hw with ⟨a, ha, b, hb, rfl⟩
  rw [List.append_assoc]
  exact append_mem_kstar ha (Or.inr (Language.append_mem_mul hb rfl))

/-- The outcome of a reading that has come through `w` and goes on with `t`: a glob, or a construct
of `t` that offends. -/
def Explains (w t : Text) : Option (Fault × Text) → Prop
  | none => w ++ t ∈ grammar
  | some (fault, rest) => ∃ mid, t = mid ++ rest ∧ Offends (w ++ mid) rest fault.message

theorem Explains.pass {outcome : Option (Fault × Text)} {t : Text}
    (h : Explains (w ++ u) t outcome) : Explains w (u ++ t) outcome := by
  match outcome with
  | none =>
      rw [Explains, List.append_assoc] at h
      exact h
  | some (fault, rest) =>
      rcases h with ⟨mid, rfl, hoff⟩
      rw [List.append_assoc] at hoff
      exact ⟨u ++ mid, (List.append_assoc ..).symm, hoff⟩

/-- A construct at fault right behind the whole constructs. -/
theorem Explains.here {fault : Fault} {t : Text} (h : Offends w t fault.message) :
    Explains w t (some (fault, t)) :=
  ⟨[], rfl, by rwa [List.append_nil]⟩

theorem offends_bracket {t : Text} {fault : Fault} (hw : w ∈ constructs inGroup)
    (h : readClass t = .error fault) : Offends w ('[' :: t) fault.message := by
  rcases readClass_eq_error_iff.1 h with ⟨rfl, hunclosed⟩ | ⟨low, high, rfl, hdesc⟩
  · exact .unclosedClass hw hunclosed
  · exact .invalidRange hw hdesc

/-- From whole constructs on, the first fault found is a construct that offends. -/
theorem explains_firstFault? (hw : w ∈ constructs inGroup) (t : Text) :
    Explains w t (firstFault? inGroup t) := by
  -- Each step moves one whole construct from the text to `w`, so `w` stays in `constructs`.
  fun_induction firstFault? inGroup t generalizing w with
  | case1 => exact .here (.unclosedAlternates hw)
  | case2 inGroup hin =>
      cases inGroup with
      | false => rw [Explains, List.append_nil]; exact hw
      | true => exact absurd rfl hin
  | case3 => exact .here (.danglingEscape hw)
  | case4 inGroup c rest ih =>
      have hpair : ['\\', c] ∈ units := Or.inl (Or.inl ⟨c, rfl⟩)
      exact (ih (append_unit_mem hw hpair)).pass
  | case5 inGroup rest fault hread => exact .here (offends_bracket hw hread)
  | case6 inGroup rest cls after hread _ ih =>
      rcases (readClass_eq_ok_iff.1 hread).exists_front with ⟨t, rfl, hclosed⟩
      have hbracket : '[' :: t ∈ units := Or.inl (Or.inr ⟨t, cls, rfl, hclosed⟩)
      exact (ih (append_unit_mem hw hbracket)).pass
  | case7 => exact .here (.nestedAlternates hw)
  | case8 inGroup rest hin _ _ ih =>
      rw [Bool.eq_false_iff.2 hin] at hw
      exact (ih (append_open_mem hw)).pass
  | case9 rest _ _ _ ih => exact (ih (append_close_mem hw)).pass
  | case10 inGroup rest hin =>
      rw [Bool.eq_false_iff.2 hin] at hw
      exact .here (.unopenedAlternates hw)
  | case11 inGroup c rest hslash hbracket hopen hclose ih =>
      have hother : [c] ∈ units := Or.inr ⟨c, rfl, by simp [hslash, hbracket, hopen, hclose]⟩
      exact (ih (append_unit_mem hw hother)).pass

/-- A construct that offends is the first fault found, and found where it stands. -/
theorem firstFault?_of_offends (h : Offends done rest reason) :
    ∃ fault, fault.message = reason ∧ firstFault? false (done ++ rest) = some (fault, rest) := by
  cases h with
  | danglingEscape hw =>
      exact ⟨.danglingEscape, rfl, by rw [firstFault?_constructs hw, firstFault?, if_pos rfl]⟩
  | unclosedClass hw hunclosed =>
      refine ⟨.unclosedClass, rfl, ?_⟩
      rw [firstFault?_constructs hw, firstFault?_bracket_error (readClass_of_unclosed hunclosed)]
  | @invalidRange _ _ _ low high hw hdesc =>
      refine ⟨.invalidRange low high, rfl, ?_⟩
      rw [firstFault?_constructs hw, firstFault?_bracket_error (readClass_of_descending hdesc)]
  | nestedAlternates hw =>
      refine ⟨.nestedAlternates, rfl, ?_⟩
      rw [firstFault?_constructs hw, firstFault?.eq_def]
      simp
  | unopenedAlternates hw =>
      refine ⟨.unopenedAlternates, rfl, ?_⟩
      rw [firstFault?_constructs hw, firstFault?.eq_def]
      simp
  | unclosedAlternates hw =>
      refine ⟨.unclosedAlternates, rfl, ?_⟩
      rw [firstFault?_constructs hw, firstFault?, if_pos rfl]

end Offends

/-! ## Reading -/

section Reading

variable {inGroup : Bool} {d d' : Draft} {t done rest : Text} {before : Option Char}

/-- The fault of a reading, if it ended in one. -/
def faultOf? {α : Type} : Except Fault α → Option Fault
  | .ok _ => none
  | .error fault => some fault

theorem Draft.faultOf?_finish (d : Draft) :
    faultOf? d.finish = (firstFault? d.openGroup.isSome []).map Prod.fst := by
  unfold Draft.finish
  split
  · next h => simp [h, firstFault?, faultOf?]
  · next h => simp [h, firstFault?, faultOf?]

/-- Stars are characters like others as far as faults go. -/
theorem firstFault?_dropWhile (t : Text) :
    firstFault? inGroup (t.dropWhile (· == '*')) = firstFault? inGroup t := by
  induction t with
  | nil => rfl
  | cons c t ih =>
      by_cases hc : c = '*'
      · rw [List.dropWhile_cons_of_pos (by simpa using hc), ih, hc, firstFault?_other (by decide)]
      · rw [List.dropWhile_cons_of_neg (by simpa using hc)]

/-- Reading and the search for the first fault find the same fault; of the draft only matters whether
a group is open. -/
theorem faultOf?_readFrom (d : Draft) (before : Option Char) (t : Text) :
    faultOf? (readFrom d before t) = (firstFault? d.openGroup.isSome t).map Prod.fst := by
  -- The two agree step by step except at stars, which `readFrom` takes as a run.
  fun_induction readFrom d before t with
  | case1 d before => exact d.faultOf?_finish
  | case2 => rw [firstFault?, if_pos rfl]; rfl
  | case3 d before x rest ih => rw [ih, d.isSome_add, firstFault?_escape]
  | case4 d before rest stars after token _ _ ih =>
      rw [ih, d.isSome_add, firstFault?_other (by decide), firstFault?_dropWhile]
  | case5 d before rest stars after token hstar _ ih =>
      -- A recursive run takes in the separator behind it, one more character without a fault.
      have hafter : after = '/' :: after.tail :=
        (List.cons_head?_tail (head?_of_starToken hstar)).symm
      rw [ih, d.isSome_add, firstFault?_other (c := '*') (by decide), ← firstFault?_dropWhile rest]
      change _ = (firstFault? d.openGroup.isSome after).map Prod.fst
      rw [hafter, firstFault?_other (c := '/') (by decide), List.tail_cons]
  | case6 d before rest _ _ ih => rw [ih, d.isSome_add, firstFault?_other (by decide)]
  | case7 d before rest fault hread => rw [firstFault?_bracket_error hread]; rfl
  | case8 d before rest cls after hread _ _ _ ih =>
      rw [ih, d.isSome_add, firstFault?_bracket (readClass_eq_ok_iff.1 hread)]
  | case9 d before rest fault hbegin =>
      rcases Draft.beginGroup_error hbegin with ⟨hopen, rfl⟩
      rw [hopen, firstFault?.eq_def]
      simp [faultOf?]
  | case10 d before rest d' hbegin _ _ _ _ ih =>
      rcases Draft.beginGroup_ok hbegin with ⟨hopen, hopen'⟩
      rw [ih, hopen, hopen', firstFault?_beginGroup]
  | case11 d before rest fault hend =>
      rcases Draft.endGroup_error hend with ⟨hopen, rfl⟩
      rw [hopen, firstFault?.eq_def]
      simp [faultOf?]
  | case12 d before rest d' hend _ _ _ _ _ ih =>
      rcases Draft.endGroup_ok hend with ⟨hopen, hopen'⟩
      rw [ih, hopen, hopen', firstFault?_endGroup]
  | case13 d before rest _ _ _ _ _ _ ih => rw [ih, d.isSome_comma, firstFault?_other (by decide)]
  | case14 d before c rest hslash _ _ hbracket hopen hclose _ ih =>
      rw [ih, d.isSome_add, firstFault?_other (by simp [hslash, hbracket, hopen, hclose])]

theorem faultOf?_parse (t : Text) : faultOf? (parse t) = (firstFault? false t).map Prod.fst :=
  faultOf?_readFrom {} none t

end Reading

/-! ## The main statement -/

section Main

variable {done rest : Text}

theorem invalidRange_message_ne {reason : String} (h : reason.toList.head? ≠ some 'i') (low high : Char) :
    s!"invalid range '{low}-{high}'" ≠ reason := by
  rintro rfl
  -- The wording of a range differs from the other in its first character.
  have htext : toString "invalid range '" = "invalid range '" := rfl
  simp [htext] at h

/-- Braces are left open only where the text ends. -/
theorem offends_unclosed_iff :
    Offends done rest "unclosed alternates" ↔ rest = [] ∧ done ∈ openGrammar := by
  constructor
  · intro h
    generalize hreason : "unclosed alternates" = reason at h
    cases h with
    | unclosedAlternates hdone => exact ⟨rfl, hdone⟩
    | invalidRange _ _ => exact absurd hreason.symm (invalidRange_message_ne (by decide) _ _)
    | _ => exact absurd hreason (by decide)
  · rintro ⟨rfl, hdone⟩
    exact .unclosedAlternates hdone

/-- A backslash dangles only behind whole constructs. -/
theorem offends_dangling_iff :
    Offends done rest "dangling escape" ↔ rest = ['\\'] ∧ ∃ inGroup, done ∈ constructs inGroup := by
  constructor
  · intro h
    generalize hreason : "dangling escape" = reason at h
    cases h with
    | danglingEscape hdone => exact ⟨rfl, _, hdone⟩
    | invalidRange _ _ => exact absurd hreason.symm (invalidRange_message_ne (by decide) _ _)
    | _ => exact absurd hreason (by decide)
  · rintro ⟨rfl, inGroup, hdone⟩
    exact .danglingEscape hdone

theorem parse_eq_ok_iff {t : Text} : (∃ g, parse t = .ok g) ↔ firstFault? false t = none := by
  have hfault := faultOf?_parse t
  constructor
  · rintro ⟨g, hg⟩
    rw [hg] at hfault
    exact Option.map_eq_none_iff.1 hfault.symm
  · intro hnone
    rw [hnone] at hfault
    cases hparse : parse t with
    | ok g => exact ⟨g, rfl⟩
    | error fault =>
        rw [hparse] at hfault
        cases hfault

theorem parse_eq_error_iff {t : Text} {fault : Fault} :
    parse t = .error fault ↔ ∃ rest, firstFault? false t = some (fault, rest) := by
  have hfault := faultOf?_parse t
  constructor
  · intro herror
    rw [herror] at hfault
    rcases Option.map_eq_some_iff.1 hfault.symm with ⟨⟨fault', rest⟩, hfirst, rfl⟩
    exact ⟨rest, hfirst⟩
  · rintro ⟨rest, hfirst⟩
    rw [hfirst] at hfault
    cases hparse : parse t with
    | ok g =>
        rw [hparse] at hfault
        cases hfault
    | error fault' =>
        rw [hparse] at hfault
        cases hfault
        rfl

/-- Nothing offends in exactly the texts of the grammar. -/
theorem parse_ok_iff_mem_grammar {t : Text} : (∃ g, parse t = .ok g) ↔ t ∈ grammar := by
  rw [parse_eq_ok_iff]
  constructor
  · intro hnone
    have hexplains := explains_firstFault? nil_mem_constructs t
    rw [hnone] at hexplains
    exact hexplains
  · intro hmem
    have hfirst := firstFault?_grammar hmem []
    rw [List.append_nil] at hfirst
    rw [hfirst, firstFault?]
    rfl

theorem parse_error_iff_offends {t : Text} {reason : String} :
    (∃ fault, parse t = .error fault ∧ fault.message = reason) ↔
      ∃ done rest, t = done ++ rest ∧ Offends done rest reason := by
  constructor
  · rintro ⟨fault, herror, rfl⟩
    rcases parse_eq_error_iff.1 herror with ⟨rest, hfirst⟩
    have hexplains := explains_firstFault? nil_mem_constructs t
    rw [hfirst] at hexplains
    rcases hexplains with ⟨done, rfl, hoff⟩
    exact ⟨done, rest, rfl, hoff⟩
  · rintro ⟨done, rest, rfl, hoff⟩
    rcases firstFault?_of_offends hoff with ⟨fault, hmessage, hfirst⟩
    exact ⟨fault, parse_eq_error_iff.2 ⟨rest, hfirst⟩, hmessage⟩

/-- A text has no second construct at fault. -/
theorem offends_unique {done' rest' : Text} {reason reason' : String}
    (hoff : Offends done rest reason) (hoff' : Offends done' rest' reason')
    (heq : done ++ rest = done' ++ rest') : done = done' ∧ rest = rest' ∧ reason = reason' := by
  rcases firstFault?_of_offends hoff with ⟨fault, rfl, hfirst⟩
  rcases firstFault?_of_offends hoff' with ⟨fault', rfl, hfirst'⟩
  rw [heq, hfirst'] at hfirst
  cases hfirst
  exact ⟨List.append_cancel_right heq, rfl, rfl⟩

theorem parse_unclosed_iff {t : Text} :
    parse t = .error .unclosedAlternates ↔ t ∈ openGrammar := by
  constructor
  · intro herror
    rcases parse_error_iff_offends.1 ⟨_, herror, rfl⟩ with ⟨done, rest, rfl, hoff⟩
    rcases offends_unclosed_iff.1 hoff with ⟨rfl, hdone⟩
    rwa [List.append_nil]
  · intro hmem
    have hdone : t ∈ constructs true := hmem
    have hfirst := firstFault?_constructs hdone []
    rw [List.append_nil] at hfirst
    rw [parse_eq_error_iff, hfirst, firstFault?]
    exact ⟨[], rfl⟩

/-- Reading accepts exactly the grammar; what the wildcards may stand for has no part in it.  In any
other text one construct offends, behind nothing but whole constructs, and its reason is the one
reported; braces left open are reported only where nothing else is at fault.  A bracket expression is
passed over as one token, and braces, commas, stars and backslashes are members of it like any other
character. -/
theorem parse_decides_grammar (t : Text) :
    ((∃ g, parse t = .ok g) ↔ t ∈ grammar) ∧
    (∀ reason, (∃ fault, parse t = .error fault ∧ fault.message = reason) ↔
      ∃ done rest, t = done ++ rest ∧ Offends done rest reason) ∧
    (∀ done rest reason done' rest' reason', t = done ++ rest → Offends done rest reason →
      t = done' ++ rest' → Offends done' rest' reason' →
      done = done' ∧ rest = rest' ∧ reason = reason') ∧
    (parse t = .error .unclosedAlternates ↔ t ∈ openGrammar) ∧
    (∀ body cls, ClosedBracket body cls [] → ∀ d before,
      readFrom d before ('[' :: (body ++ t)) = readFrom (d.add (.oneOf cls)) (some ']') t) ∧
    (∀ c ∈ ['{', '}', ',', '*', '\\'], ¬ BeginsRange (c :: t) → ∀ found,
      readMembers found (c :: t) = readMembers ((c, c) :: found) t) := by
  refine ⟨parse_ok_iff_mem_grammar, fun _ => parse_error_iff_offends, ?_, parse_unclosed_iff,
    fun _ _ hclosed d before => readFrom_closed (hclosed.append t) d before, ?_⟩
  · intro done rest reason done' rest' reason' heq hoff heq' hoff'
    exact offends_unique hoff hoff' (heq.symm.trans heq')
  · intro c hc hrange found
    refine readMembers_member (Or.inr ?_) (.single hrange)
    rintro hclose
    rw [List.head?_cons, Option.some.injEq] at hclose
    subst hclose
    simp at hc

/-- A glob with a group; a text where a group begins within a group; and one where a group is left
open. -/
theorem parse_decides_grammar_group :
    "a\x7bb,c\x7d".toList ∈ grammar ∧
      (∃ done rest, "a\x7bb,\x7bc\x7d".toList = done ++ rest ∧
        Offends done rest "nested alternates") ∧
      "a\x7bb,\x7bc\x7d".toList ∉ grammar ∧ "a\x7bb".toList ∈ openGrammar := by
  have hgroup : parse "a\x7bb,c\x7d".toList =
      .ok [.token (.char 'a'), .group [[.char 'b'], [.char 'c']]] := by
    decide +kernel
  have hnested : parse "a\x7bb,\x7bc\x7d".toList = .error .nestedAlternates := by decide +kernel
  have hopen : parse "a\x7bb".toList = .error .unclosedAlternates := by decide +kernel
  obtain ⟨haccepted, -⟩ := parse_decides_grammar "a\x7bb,c\x7d".toList
  obtain ⟨hmem, hoffends, -⟩ := parse_decides_grammar "a\x7bb,\x7bc\x7d".toList
  obtain ⟨-, -, -, hunclosed, -⟩ := parse_decides_grammar "a\x7bb".toList
  refine ⟨haccepted.1 ⟨_, hgroup⟩, (hoffends _).1 ⟨_, hnested, rfl⟩, fun hin => ?_, hunclosed.1 hopen⟩
  obtain ⟨g, hg⟩ := hmem.2 hin
  rw [hnested] at hg
  cases hg

end Main

end Glob

end IgnoreRules
