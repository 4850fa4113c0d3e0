import IgnoreRules.Proofs.Glob.Grammar

/-!
# Places in a glob

A place between two constructs of a glob is given by the constructs in front of it, whatever follows.
Reading comes to every such place except those that it passes over: in the middle of a run of stars, and
in front of the separator that a recursive run takes in.  So it comes to every place behind a construct
that is no star, and to the beginning of every run of stars.

* `Glob.Reached` : places, by the constructs in front and what follows;
* `Glob.constructs_induction` : putting one construct behind others;
* `Glob.ComesTo`, `Glob.exists_draft_of_constructs` : reading comes to a place.
-/

open scoped Computability

namespace IgnoreRules

namespace Glob

/-! ## Places -/

/-- Reading a text comes to a rest of it: in front there are whole constructs, with a group open behind
them or none, and `before` is the last of their characters. -/
def Reached (whole : Text) (inGroup : Bool) (before : Option Char) (rest : Text) : Prop :=
  ∃ done, whole = done ++ rest ∧ done ∈ constructs inGroup ∧ done.getLast? = before

section Reached

variable {whole u rest : Text} {inGroup : Bool} {before : Option Char} {c : Char} {n : Nat}

theorem reached_start (t : Text) : Reached t false none t :=
  ⟨[], rfl, nil_mem_constructs, rfl⟩

/-- Reading goes on behind a construct, which is given by its last character and those before. -/
theorem Reached.unit (h : Reached whole inGroup before (u ++ c :: rest)) (hu : u ++ [c] ∈ units) :
    Reached whole inGroup (some c) rest := by
  obtain ⟨done, hwhole, hdone, -⟩ := h
  exact ⟨done ++ (u ++ [c]), by simp [hwhole], append_unit_mem hdone hu, by simp⟩

theorem Reached.other (h : Reached whole inGroup before (c :: rest)) (hc : c ∉ ['\\', '[', '{', '}']) :
    Reached whole inGroup (some c) rest := by
  have hu : [] ++ [c] ∈ units := Or.inr ⟨c, rfl, hc⟩
  exact Reached.unit h hu

theorem Reached.beginGroup (h : Reached whole false before ('{' :: rest)) :
    Reached whole true (some '{') rest := by
  obtain ⟨done, hwhole, hdone, -⟩ := h
  exact ⟨done ++ ['{'], by simp [hwhole], append_open_mem hdone, by simp⟩

theorem Reached.endGroup (h : Reached whole true before ('}' :: rest)) :
    Reached whole false (some '}') rest := by
  obtain ⟨done, hwhole, hdone, -⟩ := h
  exact ⟨done ++ ['}'], by simp [hwhole], append_close_mem hdone, by simp⟩

/-- Every star of a run is a construct. -/
theorem Reached.stars (h : Reached whole inGroup before (List.replicate n '*' ++ rest)) (hn : 1 ≤ n) :
    Reached whole inGroup (some '*') rest := by
  induction n generalizing before with
  | zero => omega
  | succ n ih =>
      have hnext : Reached whole inGroup (some '*') (List.replicate n '*' ++ rest) :=
        Reached.other h (by decide)
      cases n with
      | zero => simpa using hnext
      | succ n => exact ih hnext (by omega)

/-- A group is open only behind a brace. -/
theorem Reached.mem_brace (h : Reached whole true before rest) : '{' ∈ whole := by
  obtain ⟨done, rfl, hdone, -⟩ := h
  obtain ⟨a, -, b, hb, rfl⟩ := Language.mem_mul.1 hdone
  obtain ⟨brace, rfl, v, -, rfl⟩ := Language.mem_mul.1 hb
  simp

end Reached

/-! ## One construct behind others -/

/-- What holds of whole constructs and is kept by each unit that is put behind them is kept by several. -/
theorem units_induction {P : Text → Prop} {inGroup : Bool} {w u : Text}
    (unit : ∀ {w u}, w ∈ constructs inGroup → P w → u ∈ units → P (w ++ u))
    (hw : w ∈ constructs inGroup) (hP : P w) (hu : u ∈ units∗) :
    w ++ u ∈ constructs inGroup ∧ P (w ++ u) := by
  obtain ⟨us, rfl, hus⟩ := Language.mem_kstar.1 hu
  clear hu
  induction us generalizing w with
  | nil => simpa using ⟨hw, hP⟩
  | cons u us ih =>
      have hfirst : u ∈ units := hus u List.mem_cons_self
      rw [List.flatten_cons, ← List.append_assoc]
      exact ih (append_unit_mem hw hfirst) (unit hw hP hfirst)
        fun v hv => hus v (List.mem_cons_of_mem u hv)

/-- What holds of the empty text and is kept by each construct that is put behind others, and by the
braces of a group, holds of all sequences of whole constructs. -/
theorem constructs_induction {P : Bool → Text → Prop} (nil : P false [])
    (unit : ∀ {inGroup w u}, w ∈ constructs inGroup → P inGroup w → u ∈ units → P inGroup (w ++ u))
    (opening : ∀ {w}, w ∈ constructs false → P false w → P true (w ++ ['{']))
    (closing : ∀ {w}, w ∈ constructs true → P true w → P false (w ++ ['}']))
    {inGroup : Bool} {w : Text} (hw : w ∈ constructs inGroup) : P inGroup w := by
  have hgroup : ∀ {w u}, w ∈ constructs false → P false w → u ∈ {['{']} * units∗ →
      w ++ u ∈ constructs true ∧ P true (w ++ u) := by
    intro w u hw hP hu
    obtain ⟨brace, rfl, v, hv, rfl⟩ := Language.mem_mul.1 hu
    rw [← List.append_assoc]
    exact units_induction unit (append_open_mem hw) (opening hw hP) hv
  have hgrammar : ∀ {w}, w ∈ grammar → P false w := by
    intro w hw
    obtain ⟨us, rfl, hus⟩ := Language.mem_kstar.1 hw
    clear hw
    -- The list is taken from its end, where the last construct was put.
    induction us using List.reverseRecOn with
    | nil => exact nil
    | append_singleton us u ih =>
        have hfront : ∀ v ∈ us, v ∈ units + groups := fun v hv => hus v (List.mem_append_left _ hv)
        have hmem : us.flatten ∈ constructs false := Language.mem_kstar.2 ⟨us, rfl, hfront⟩
        rw [List.flatten_append, List.flatten_singleton]
        rcases hus u (List.mem_append_right us (List.mem_singleton_self u)) with hu | hu
        · exact unit hmem (ih hfront) hu
        · obtain ⟨v, hv, brace, rfl, rfl⟩ := Language.mem_mul.1 hu
          obtain ⟨hopen, hP⟩ := hgroup hmem (ih hfront) hv
          rw [← List.append_assoc]
          exact closing hopen hP
  cases inGroup with
  | false => exact hgrammar hw
  | true =>
      -- In front of the group that is open there are constructs, and no other group is open.
      obtain ⟨a, ha, u, hu, rfl⟩ := Language.mem_mul.1 hw
      exact (hgroup ha (hgrammar ha) hu).2

/-! ## Reading comes to a place -/

/-- Reading comes to the end of a text with a draft, whatever follows there. -/
def ComesTo (front : Text) (d : Draft) : Prop :=
  ∀ rest, parse (front ++ rest) = readFrom d front.getLast? rest

/-- Reading takes a construct at once, and goes on with another draft. -/
def Takes (d : Draft) (u : Text) (d' : Draft) : Prop :=
  ∀ before rest, readFrom d before (u ++ rest) = readFrom d' u.getLast? rest

section ComesTo

variable {d d' : Draft} {front u w : Text} {inGroup inGroup' : Bool} {n : Nat}

/-- Every unit that is no star is taken at once. -/
theorem takes_unit (hu : u ∈ units) (hstar : u ≠ ['*']) (d : Draft) :
    ∃ d', d'.openGroup.isSome = d.openGroup.isSome ∧ Takes d u d' := by
  rcases hu with (⟨c, rfl⟩ | ⟨t, cls, rfl, hclosed⟩) | ⟨c, rfl, hc⟩
  · exact ⟨_, d.isSome_add _, fun before rest => readFrom_escape⟩
  · obtain ⟨w, rfl⟩ := hclosed.exists_eq
    refine ⟨_, d.isSome_add (.oneOf cls), fun before rest => ?_⟩
    have hlast : ('[' :: (w ++ [']'])).getLast? = some ']' := by simp [List.getLast?_cons]
    rw [hlast]
    exact readFrom_closed (hclosed.append rest) d before
  · by_cases hquestion : c = '?'
    · subst hquestion
      exact ⟨_, d.isSome_add _, fun before rest => readFrom_question⟩
    · by_cases hcomma : c = ','
      · subst hcomma
        exact ⟨_, d.isSome_comma, fun before rest => readFrom_comma⟩
      · have hordinary : c ∉ ['\\', '*', '?', '[', '{', '}', ','] := by
          simp only [List.mem_cons, List.not_mem_nil, or_false, not_or] at hc ⊢
          have hstar' : c ≠ '*' := fun h => hstar (by rw [h])
          exact ⟨hc.1, hstar', hquestion, hc.2.1, hc.2.2.1, hc.2.2.2, hcomma⟩
        exact ⟨_, d.isSome_add _, fun before rest => readFrom_ordinary hordinary⟩

theorem takes_open (h : d.openGroup.isSome = false) :
    ∃ d', d'.openGroup.isSome = true ∧ Takes d ['{'] d' := by
  have hnone : d.openGroup = none := by simpa using h
  have hbegin : d.beginGroup = .ok { d with openGroup := some ⟨[], []⟩ } := by
    simp [Draft.beginGroup, hnone]
  exact ⟨_, rfl, fun before rest => readFrom_open hbegin⟩

theorem takes_close (h : d.openGroup.isSome = true) :
    ∃ d', d'.openGroup.isSome = false ∧ Takes d ['}'] d' := by
  obtain ⟨group, hgroup⟩ := Option.isSome_iff_exists.1 h
  have hend : d.endGroup = .ok ⟨.group group.branches :: d.pieces, none⟩ := by
    simp [Draft.endGroup, hgroup]
  exact ⟨_, rfl, fun before rest => readFrom_close hend⟩

/-- Reading comes to the beginning of a run of stars, perhaps an empty one, that ends a text. -/
def ComesNear (inGroup : Bool) (w : Text) : Prop :=
  ∃ front n d, w = front ++ List.replicate n '*' ∧ front ∈ constructs inGroup ∧
    d.openGroup.isSome = inGroup ∧ ComesTo front d

/-- Behind stars, reading takes a construct that is no star, or it has taken the construct, a separator,
along with the stars. -/
theorem ComesNear.append (h : ComesNear inGroup w) (hu : w ++ u ∈ constructs inGroup') {c : Char}
    (hhead : u.head? = some c) (hstar : c ≠ '*') (hslash : c = '/' → u = ['/'] ∧ inGroup' = inGroup)
    (htakes : ∀ d : Draft, d.openGroup.isSome = inGroup →
      ∃ d', d'.openGroup.isSome = inGroup' ∧ Takes d u d') :
    ComesNear inGroup' (w ++ u) := by
  obtain ⟨front, n, d, rfl, -, hd, hcomes⟩ := h
  have hlast : (front ++ List.replicate n '*' ++ u).getLast? = u.getLast? := by
    rw [List.getLast?_append_of_ne_nil]
    intro hnil
    rw [hnil] at hhead
    cases hhead
  -- It is enough to come to the place behind the construct.
  suffices hthere : ∃ d', d'.openGroup.isSome = inGroup' ∧
      ∀ rest, readFrom d front.getLast? (List.replicate n '*' ++ (u ++ rest)) =
        readFrom d' u.getLast? rest by
    obtain ⟨d', hd', hread⟩ := hthere
    refine ⟨_, 0, d', (List.append_nil _).symm, hu, hd', fun rest => ?_⟩
    rw [hlast, List.append_assoc, List.append_assoc, hcomes, hread]
  cases n with
  | zero =>
      obtain ⟨d', hd', hread⟩ := htakes d hd
      exact ⟨d', hd', fun rest => hread _ rest⟩
  | succ n =>
      rcases htoken : starToken (n + 1) front.getLast? (some c) with ⟨token, separator⟩
      have hnext : ∀ rest, (u ++ rest).head? = some c := by
        intro rest
        rw [List.head?_append, hhead, Option.some_or]
      have hstars : ∀ rest, readFrom d front.getLast? (List.replicate (n + 1) '*' ++ (u ++ rest)) =
          if separator then readFrom (d.add token) (some '/') (u ++ rest).tail
          else readFrom (d.add token) (some '*') (u ++ rest) := by
        intro rest
        have hstop : (u ++ rest).head? ≠ some '*' := by
          rw [hnext]
          simpa using hstar
        rw [readFrom_stars (Nat.le_add_left 1 n) hstop, hnext, htoken]
        cases separator with
        | false => rfl
        | true => rfl
      have hadded : (d.add token).openGroup.isSome = inGroup := (d.isSome_add token).trans hd
      cases separator with
      | false =>
          obtain ⟨d', hd', hread⟩ := htakes (d.add token) hadded
          exact ⟨d', hd', fun rest => (hstars rest).trans (hread _ rest)⟩
      | true =>
          -- The separator is taken already, and nothing is left of the construct.
          have hsep : c = '/' := Option.some.inj (head?_of_starToken htoken)
          obtain ⟨rfl, rfl⟩ := hslash hsep
          exact ⟨d.add token, hadded, hstars⟩

theorem comesNear_of_constructs (hw : w ∈ constructs inGroup) : ComesNear inGroup w := by
  refine constructs_induction (P := ComesNear) ?_ ?_ ?_ ?_ hw
  · exact ⟨[], 0, {}, rfl, nil_mem_constructs, rfl, fun rest => rfl⟩
  · intro inGroup w u hw hnear hu
    by_cases hstar : u = ['*']
    · -- One more star belongs to the run, so reading has come to the same place.
      obtain ⟨front, n, d, rfl, hfront, hd, hcomes⟩ := hnear
      refine ⟨front, n + 1, d, ?_, hfront, hd, hcomes⟩
      rw [hstar, List.append_assoc, List.replicate_succ']
    · have hunit := append_unit_mem hw hu
      have htakes : ∀ d : Draft, d.openGroup.isSome = inGroup →
          ∃ d', d'.openGroup.isSome = inGroup ∧ Takes d u d' := by
        rintro d rfl
        exact takes_unit hu hstar d
      rcases hu with (⟨c, rfl⟩ | ⟨t, cls, rfl, hclosed⟩) | ⟨c, rfl, hc⟩
      · exact hnear.append hunit rfl (by decide) (fun h => absurd h (by decide)) htakes
      · exact hnear.append hunit rfl (by decide) (fun h => absurd h (by decide)) htakes
      · have hother : c ≠ '*' := fun h => hstar (by rw [h])
        exact hnear.append hunit rfl hother (fun h => ⟨by rw [h], rfl⟩) htakes
  · intro w hw hnear
    exact hnear.append (append_open_mem hw) rfl (by decide) (fun h => absurd h (by decide))
      fun d => takes_open
  · intro w hw hnear
    exact hnear.append (append_close_mem hw) rfl (by decide) (fun h => absurd h (by decide))
      fun d => takes_close

theorem append_stars_mem (hw : w ∈ constructs inGroup) (n : Nat) :
    w ++ List.replicate n '*' ∈ constructs inGroup := by
  have hstar : ['*'] ∈ units := Or.inr ⟨'*', rfl, by decide⟩
  induction n with
  | zero => rwa [List.replicate_zero, List.append_nil]
  | succ n ih =>
      rw [List.replicate_succ', ← List.append_assoc]
      exact append_unit_mem ih hstar

/-- Reading comes to the end of whole constructs whose last is no star, whatever follows. -/
theorem exists_draft_of_constructs (hw : w ∈ constructs inGroup)
    (hfirst : ∀ v inGroup', w = v ++ ['*'] → v ∉ constructs inGroup') :
    ∃ d, d.openGroup.isSome = inGroup ∧ ComesTo w d := by
  obtain ⟨front, n, d, hsplit, hfront, hd, hcomes⟩ := comesNear_of_constructs hw
  cases n with
  | zero =>
      obtain rfl : w = front := by simpa using hsplit
      exact ⟨d, hd, hcomes⟩
  | succ n =>
      rw [List.replicate_succ', ← List.append_assoc] at hsplit
      exact absurd (append_stars_mem hfront n) (hfirst _ _ hsplit)

end ComesTo

end Glob

end IgnoreRules
