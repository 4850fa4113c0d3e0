import IgnoreRules.Proofs.Glob.Reading
import IgnoreRules.Proofs.Rule.Unescape

/-!
# Globs cut at a separator

The constructs of a text with a separator in it are those in front of the separator, the separator,
and those behind it, each part read as if it stood alone.  A recursive run takes in the separator
behind it instead.  This needs that no separator is escaped and none stands in brackets; then the only
thing that reaches across a separator is the test whether a run of stars fills a component.

* `Glob.Construct.Apart`, `Glob.Simple` : constructs that have to do with no separator but those
  between components, and items that are such constructs;
* `Glob.Reads.cut` : the items of a text on the two sides of a separator;
* `Glob.Reads.atRun` : the items of a text that begins with a recursive run;
* `Glob.Reads.firstComponent` : the two ways in which a text goes on behind its first component;
* `Glob.Reads.restart` : a component is read alike behind a separator and at the start of a glob;
* `Glob.Reads.notMem` : a component that is not recursive denotes no text with a separator.
-/

namespace IgnoreRules

open Rule (WellEscaped isSpecial)

namespace Glob

/-! ## Constructs apart from separators -/

/-- A bracket expression has no separator among its characters and does not stand for one. -/
def Construct.Apart : Construct → Prop
  | bracket negated members =>
      (∀ m ∈ members, m.1 ≠ '/' ∧ m.2 ≠ '/') ∧ (negated = false → ¬ Listed members '/')
  | _ => True

/-- The items are single constructs, none of which is a class with a separator. -/
def Simple (items : List Item) : Prop :=
  ∀ item ∈ items, ∃ x : Construct, item = .one x ∧ x.Apart

/-- A component that consists of two stars or more. -/
def isRecursive (part : Text) : Bool :=
  decide (2 ≤ part.length) && part.all (· == '*')

theorem isRecursive_iff {part : Text} :
    isRecursive part = true ↔ ∃ n, 2 ≤ n ∧ part = List.replicate n '*' := by
  unfold isRecursive
  rw [Bool.and_eq_true, decide_eq_true_eq, List.all_eq_true]
  constructor
  · rintro ⟨hlength, hall⟩
    exact ⟨part.length, hlength, List.eq_replicate_of_mem fun c hc => eq_of_beq (hall c hc)⟩
  · rintro ⟨n, hn, rfl⟩
    refine ⟨by rwa [List.length_replicate], fun c hc => ?_⟩
    rw [List.eq_of_mem_replicate hc]
    rfl

section Simple

variable {item : Item} {items items' : List Item} {x : Construct}
variable {branches : List (List Construct)}

theorem simple_cons : Simple (item :: items) ↔ (∃ x : Construct, item = .one x ∧ x.Apart) ∧ Simple items :=
  List.forall_mem_cons

theorem Simple.head (h : Simple (.one x :: items)) : x.Apart := by
  obtain ⟨⟨y, hy, hapart⟩, -⟩ := simple_cons.1 h
  cases hy
  exact hapart

theorem Simple.tail (h : Simple (item :: items)) : Simple items :=
  (simple_cons.1 h).2

theorem Simple.of_append (h : Simple (items ++ items')) : Simple items ∧ Simple items' :=
  List.forall_mem_append.1 h

theorem not_simple_group : ¬ Simple (.group branches :: items) := by
  intro h
  obtain ⟨⟨x, hx, -⟩, -⟩ := simple_cons.1 h
  cases hx

end Simple

/-! ## Bracket expressions without separators -/

section Brackets

variable {t rest : Text} {ms : List (Char × Char)} {first : Bool} {cls : CharClass}

theorem Members.notMem (h : Members first t ms rest) (hms : ∀ m ∈ ms, m.1 ≠ '/' ∧ m.2 ≠ '/')
    (hrest : '/' ∉ rest) : '/' ∉ t := by
  induction h with
  | none => exact hrest
  | more _ hm _ ih =>
      rw [List.forall_mem_cons] at hms
      have htail := ih hms.2 hrest
      cases hm with
      | range _ _ =>
          simp only [List.mem_cons, not_or]
          exact ⟨hms.1.1.symm, by decide, hms.1.2.symm, htail⟩
      | single _ =>
          simp only [List.mem_cons, not_or]
          exact ⟨hms.1.1.symm, htail⟩

/-- A closed expression whose members name no separator has none in its text. -/
theorem ClosedBracket.notMem (h : ClosedBracket t cls []) (hms : ∀ m ∈ cls.ranges, m.1 ≠ '/' ∧ m.2 ≠ '/') :
    '/' ∉ t := by
  obtain ⟨body, hmark, hmembers, -⟩ := h
  have hbody : '/' ∉ body := hmembers.notMem hms (by decide)
  generalize cls.negated = negated at hmark
  cases hmark with
  | @negated mark _ hmark =>
      rw [List.mem_cons, not_or]
      refine ⟨?_, hbody⟩
      rcases hmark with rfl | rfl
      · decide
      · decide
  | plain _ _ => exact hbody

end Brackets

/-! ## What items in sequence denote -/

theorem denoted_cons {scope : WildcardScope} {item : Item} {items : List Item} :
    denoted scope (item :: items) = item.language scope * denoted scope items := by
  rw [denoted, List.map_cons, List.prod_cons]
  rfl

theorem denoted_append {scope : WildcardScope} {items items' : List Item} :
    denoted scope (items ++ items') = denoted scope items * denoted scope items' := by
  rw [denoted, List.map_append, List.prod_append]
  rfl

/-! ## Cutting -/

section Cut

variable {before before' start : Option Char} {t t' u w rest after : Text} {x : Construct}
variable {items : List Item}

theorem not_bounds {c : Char} (hc : c ≠ '/') : ¬ Bounds (some c) := by
  simp [Bounds, hc]

/-- A part without a separator at the beginning of a text lies in front of its first separator. -/
theorem exists_of_append_eq (h : w ++ rest = u ++ '/' :: after) (hw : '/' ∉ w) :
    ∃ v, u = w ++ v ∧ rest = v ++ '/' :: after := by
  rcases List.append_eq_append_iff.1 h with ⟨v, hu, hrest⟩ | ⟨v, hw', hrest⟩
  · exact ⟨v, hu, hrest⟩
  · cases v with
    | nil => exact ⟨[], by simpa using hw'.symm, by simpa using hrest.symm⟩
    | cons c v =>
        cases hrest
        exact absurd (hw' ▸ List.mem_append_right u (List.mem_cons_self ..)) hw

/-- Two runs of stars with something else behind them are equal when the texts are. -/
theorem stars_inj {m n : Nat} (h : List.replicate m '*' ++ rest = List.replicate n '*' ++ after)
    (hrest : rest.head? ≠ some '*') (hafter : after.head? ≠ some '*') : m = n ∧ rest = after := by
  have hruns := congrArg (List.takeWhile (· == '*')) h
  have hrests := congrArg (List.dropWhile (· == '*')) h
  rw [takeWhile_stars hrest, takeWhile_stars hafter] at hruns
  rw [dropWhile_stars hrest, dropWhile_stars hafter] at hrests
  exact ⟨by simpa using congrArg List.length hruns, hrests⟩

theorem notMem_stars (n : Nat) : '/' ∉ List.replicate n '*' := by
  intro h
  exact absurd (List.eq_of_mem_replicate h) (by decide)

/-- A run in front of a separator is all that stands in front of the first one. -/
theorem eq_stars_of_append {n : Nat} (h : List.replicate n '*' ++ '/' :: rest = u ++ '/' :: after)
    (hu : '/' ∉ u) : u = List.replicate n '*' := by
  obtain ⟨v, rfl, hv⟩ := exists_of_append_eq h (notMem_stars n)
  cases v with
  | nil => rw [List.append_nil]
  | cons c v =>
      cases hv
      exact absurd (List.mem_append_right _ (List.mem_cons_self ..)) hu

/-- What is in front of the first separator of a text, as far as a construct at its beginning is
concerned: the construct is the separator itself, or it lies wholly in front of it. -/
inductive Opens.Cut (before : Option Char) (u after : Text) : Construct → Option Char → Text → Prop
  | separator : u = [] → Opens.Cut before u after (.literal '/') (some '/') after
  | inside {x : Construct} {before' : Option Char} {v : Text} :
      Opens before u x before' v → ¬ Bounds before' → '/' ∉ v → WellEscaped (v ++ '/' :: after) →
      Opens.Cut before u after x before' (v ++ '/' :: after)

theorem Opens.cut (h : Opens before t x before' rest) (ht : t = u ++ '/' :: after) (hu : '/' ∉ u)
    (hescaped : WellEscaped t) (hx : x.Apart) (hrun : ¬ (isRecursive u = true ∧ Bounds before)) :
    Opens.Cut before u after x before' rest := by
  cases h with
  | @ordinary _ c _ hc =>
      cases u with
      | nil =>
          cases ht
          exact .separator rfl
      | cons d u =>
          obtain ⟨rfl, rfl⟩ := List.cons.inj ht
          rw [List.mem_cons, not_or] at hu
          have hne : c ≠ '\\' := fun h => hc (h ▸ List.mem_cons_self ..)
          have hrest := hescaped.of_append (t := []) hne
          exact .inside (.ordinary hc) (not_bounds (Ne.symm hu.1)) hu.2 hrest
  | @escaped _ c _ =>
      -- A separator is not special, so it is not the character behind the backslash.
      have hpair : isSpecial c = true ∧ WellEscaped rest := by
        cases hescaped with
        | plain hne _ => exact absurd rfl hne
        | pair hc hrest => exact ⟨hc, hrest⟩
      have hc : c ≠ '/' := by
        rintro rfl
        exact absurd hpair.1 (by decide)
      match u with
      | [] => cases ht
      | [d] =>
          cases ht
          exact absurd rfl hc
      | d :: e :: u =>
          cases ht
          simp only [List.mem_cons, not_or] at hu
          exact .inside .escaped (not_bounds hc) hu.2.2 hpair.2
  | @question _ _ =>
      cases u with
      | nil => cases ht
      | cons d u =>
          cases ht
          rw [List.mem_cons, not_or] at hu
          exact .inside .question (not_bounds (by decide)) hu.2 (hescaped.of_append (t := []) (by decide))
  | @bracket _ t' _ cls hclosed =>
      obtain ⟨w, rfl, hfront⟩ := hclosed.exists_front
      have hw : '/' ∉ '[' :: w := by
        rw [List.mem_cons, not_or]
        exact ⟨by decide, hfront.notMem hx.1⟩
      obtain ⟨v, rfl, rfl⟩ := exists_of_append_eq (w := '[' :: w) ht hw
      obtain ⟨w', rfl⟩ := hfront.exists_eq
      have hrest : WellEscaped (v ++ '/' :: after) := by
        apply WellEscaped.of_append (t := '[' :: w') (c := ']') _ (by decide)
        simpa using hescaped
      refine .inside (.bracket (hfront.append v)) (not_bounds (by decide)) ?_ hrest
      exact fun hv => hu (List.mem_append_right _ hv)
  | @stars _ n _ hn hrest hplain =>
      obtain ⟨v, rfl, rfl⟩ := exists_of_append_eq ht (notMem_stars n)
      have hv : '/' ∉ v := fun h => hu (List.mem_append_right _ h)
      -- At the end of the part the run stops at the separator, which bounds a component as well.
      have hsame : v.head? ≠ some '*' ∧ (Bounds v.head? → Bounds (v ++ '/' :: after).head?) := by
        cases v with
        | nil => exact ⟨by simp, fun _ => Or.inr rfl⟩
        | cons c v => exact ⟨hrest, id⟩
      refine .inside (.stars hn hsame.1 fun h => hplain ⟨h.1, h.2.1, hsame.2 h.2.2⟩)
        (not_bounds (by decide)) hv ?_
      obtain ⟨m, rfl⟩ : ∃ m, n = m + 1 := ⟨n - 1, by omega⟩
      rw [List.replicate_succ', List.append_assoc] at hescaped
      exact hescaped.of_append (by decide)
  | @recursiveAlone n hn =>
      exact absurd (ht ▸ List.mem_append_right u (List.mem_cons_self ..)) (notMem_stars n)
  | @recursiveStart n _ hn =>
      -- The run takes in the separator, which is what the hypothesis on runs excludes.
      obtain rfl := eq_stars_of_append ht hu
      exact absurd ⟨isRecursive_iff.2 ⟨n, hn, rfl⟩, Or.inl rfl⟩ hrun
  | @recursiveEnd n hn =>
      exact absurd (ht ▸ List.mem_append_right u (List.mem_cons_self ..)) (notMem_stars n)
  | @recursiveInner n _ hn =>
      obtain rfl := eq_stars_of_append ht hu
      exact absurd ⟨isRecursive_iff.2 ⟨n, hn, rfl⟩, Or.inr rfl⟩ hrun

/-- The items of a text are those in front of its first separator, the separator, and those behind it,
unless a recursive run takes in the separator. -/
theorem Reads.cut (h : Reads before t items) (ht : t = u ++ '/' :: after) (hu : '/' ∉ u)
    (hescaped : WellEscaped t) (hitems : Simple items)
    (hrun : ¬ (isRecursive u = true ∧ Bounds before)) :
    ∃ front back, items = front ++ .one (.literal '/') :: back ∧ Reads before u front ∧
      Reads (some '/') after back := by
  -- The induction is on the reading: each construct opens in front of the separator, or is it.
  induction h generalizing u with
  | nil => exact absurd ht (by simp)
  | @one _ _ _ _ x items hx hrest ih =>
      cases hx.cut ht hu hescaped hitems.head hrun with
      | separator hnil => exact ⟨[], items, rfl, hnil ▸ .nil _, hrest⟩
      | inside hx' hbefore hv hescaped' =>
          obtain ⟨front, back, rfl, hfront, hback⟩ :=
            ih rfl hv hescaped' hitems.tail fun h => hbefore h.2
          exact ⟨.one x :: front, back, rfl, .one hx' hfront, hback⟩
  | comma _ ih =>
      cases u with
      | nil => cases ht
      | cons d u =>
          obtain ⟨rfl, rfl⟩ := List.cons.inj ht
          rw [List.mem_cons, not_or] at hu
          obtain ⟨front, back, rfl, hfront, hback⟩ :=
            ih rfl hu.2 (hescaped.of_append (t := []) (by decide)) hitems.tail
              fun h => not_bounds (by decide) h.2
          exact ⟨_ :: front, back, rfl, .comma hfront, hback⟩
  | group _ _ _ => exact absurd hitems not_simple_group

/-! ### Recursive runs -/

/-- What a text with a recursive run in front opens with: the run at the end of the glob, or the run
with the separator behind it. -/
theorem Opens.atRun {n : Nat} (h : Opens before t x before' rest)
    (ht : t = List.replicate n '*' ++ after) (hn : 2 ≤ n) (hbefore : Bounds before)
    (hafter : Bounds after.head?) :
    after = [] ∧ rest = [] ∧ x.token = .anyTail ∨
      ∃ t', after = '/' :: t' ∧ rest = t' ∧ before' = some '/' ∧ x.token = .anyDirs := by
  have hstop : after.head? ≠ some '*' := by
    rintro hstar
    rw [hstar] at hafter
    exact not_bounds (by decide) hafter
  have hhead : t.head? = some '*' := by
    obtain ⟨m, rfl⟩ : ∃ m, n = m + 1 := ⟨n - 1, by omega⟩
    rw [ht]
    rfl
  cases h with
  | ordinary hc =>
      cases hhead
      exact absurd (by decide) hc
  | escaped => cases hhead
  | question => cases hhead
  | bracket _ => cases hhead
  | stars _ hrest hplain =>
      obtain ⟨rfl, rfl⟩ := stars_inj ht hrest hstop
      exact absurd ⟨hn, hbefore, hafter⟩ hplain
  | recursiveAlone _ =>
      rw [← List.append_nil (List.replicate _ _)] at ht
      exact Or.inl ⟨(stars_inj ht (by simp) hstop).2.symm, rfl, rfl⟩
  | recursiveStart _ => exact Or.inr ⟨_, (stars_inj ht (by simp) hstop).2.symm, rfl, rfl, rfl⟩
  | recursiveEnd _ =>
      rw [← List.append_nil (List.replicate _ _)] at ht
      exact Or.inl ⟨(stars_inj ht (by simp) hstop).2.symm, rfl, rfl⟩
  | recursiveInner _ => exact Or.inr ⟨_, (stars_inj ht (by simp) hstop).2.symm, rfl, rfl, rfl⟩

theorem Reads.eq_nil (h : Reads before [] items) : items = [] := by
  have hread : readFrom ⟨[], none⟩ before [] = .ok (items.map Item.piece) := readFrom_of_reads h
  rw [readFrom] at hread
  exact List.map_eq_nil_iff.1 (Except.ok.inj hread).symm

/-- What a text reads as that has a recursive run in front. -/
theorem Reads.atRun {n : Nat} (h : Reads before (List.replicate n '*' ++ after) items) (hn : 2 ≤ n)
    (hbefore : Bounds before) (hafter : Bounds after.head?) :
    ∃ x back, items = .one x :: back ∧
      (after = [] ∧ back = [] ∧ x.token = .anyTail ∨
        ∃ t', after = '/' :: t' ∧ x.token = .anyDirs ∧ Reads (some '/') t' back) := by
  obtain ⟨m, rfl⟩ : ∃ m, n = m + 1 := ⟨n - 1, by omega⟩
  generalize ht : List.replicate (m + 1) '*' ++ after = t at h
  have hhead : t.head? = some '*' := by
    rw [← ht]
    rfl
  cases h with
  | nil => cases hhead
  | comma _ => cases hhead
  | group _ _ => cases hhead
  | @one _ _ _ _ x back hx hback =>
      refine ⟨x, back, rfl, ?_⟩
      obtain ⟨hnil, rfl, htoken⟩ | ⟨_, hcons, rfl, rfl, htoken⟩ :=
        hx.atRun ht.symm hn hbefore hafter
      · exact Or.inl ⟨hnil, hback.eq_nil, htoken⟩
      · exact Or.inr ⟨_, hcons, htoken, hback⟩

/-- The first component of a text is read by itself in front of the separator, or it is a recursive run
that takes the separator in. -/
theorem Reads.firstComponent (h : Reads before (u ++ '/' :: after) items) (hbefore : Bounds before)
    (hu : '/' ∉ u) (hescaped : WellEscaped (u ++ '/' :: after)) (hitems : Simple items) :
    (isRecursive u = false ∧ ∃ front back, items = front ++ .one (.literal '/') :: back ∧
      Reads before u front ∧ Simple front ∧ Reads (some '/') after back ∧ Simple back) ∨
    (isRecursive u = true ∧ ∃ x back, items = .one x :: back ∧ x.token = .anyDirs ∧
      Reads (some '/') after back ∧ Simple back) := by
  cases hrun : isRecursive u with
  | false =>
      obtain ⟨front, back, rfl, hfront, hback⟩ :=
        h.cut rfl hu hescaped hitems fun h => Bool.eq_false_iff.1 hrun h.1
      obtain ⟨hsimple, hseparator⟩ := hitems.of_append
      exact Or.inl ⟨rfl, front, back, rfl, hfront, hsimple, hback, hseparator.tail⟩
  | true =>
      obtain ⟨n, hn, rfl⟩ := isRecursive_iff.1 hrun
      obtain ⟨x, back, rfl, ⟨hnil, -⟩ | ⟨t', ht', htoken, hback⟩⟩ := h.atRun hn hbefore (Or.inr rfl)
      · cases hnil
      · obtain rfl := (List.cons.inj ht').2
        exact Or.inr ⟨rfl, x, back, rfl, htoken, hback, hitems.tail⟩

/-! ### Components by themselves -/

/-- A component is read behind a separator as it is read by itself, a recursive run apart. -/
theorem Opens.restart (h : Opens before t x before' rest) (hbefore : Bounds before)
    (hrun : isRecursive t = false) (ht : '/' ∉ t) : Opens none t x before' rest := by
  have hnotRun : ∀ {n}, 2 ≤ n → t ≠ List.replicate n '*' := by
    rintro n hn rfl
    rw [isRecursive_iff.2 ⟨n, hn, rfl⟩] at hrun
    cases hrun
  cases h with
  | ordinary hc => exact .ordinary hc
  | escaped => exact .escaped
  | question => exact .question
  | bracket hclosed => exact .bracket hclosed
  | stars hn hrest hplain => exact .stars hn hrest fun h => hplain ⟨h.1, hbefore, h.2.2⟩
  | recursiveAlone hn => exact .recursiveAlone hn
  | recursiveStart hn => exact .recursiveStart hn
  | recursiveEnd hn => exact absurd rfl (hnotRun hn)
  | recursiveInner _ => exact absurd (List.mem_append_right _ (List.mem_cons_self ..)) ht

theorem Reads.restart (h : Reads before t items) (hbefore : Bounds before)
    (hrun : isRecursive t = false) (ht : '/' ∉ t) : Reads none t items := by
  cases h with
  | nil => exact .nil none
  | one hx hrest => exact .one (hx.restart hbefore hrun ht) hrest
  | comma hrest => exact .comma hrest
  | group hbranches hrest => exact .group hbranches hrest

/-- What follows a construct is the end of the text. -/
theorem Opens.suffix (h : Opens before t x before' rest) : rest <:+ t := by
  cases h with
  | ordinary _ => exact List.suffix_cons _ _
  | escaped => exact ⟨['\\', _], rfl⟩
  | question => exact List.suffix_cons _ _
  | bracket hclosed =>
      obtain ⟨body, hmark, hmembers, -⟩ := hclosed
      exact (List.suffix_cons _ _).trans
        (hmembers.suffix.trans (hmark.suffix.trans (List.suffix_cons _ _)))
  | stars _ _ _ => exact List.suffix_append _ _
  | recursiveAlone _ => exact List.nil_suffix
  | recursiveStart _ => exact (List.suffix_cons _ _).trans (List.suffix_append _ _)
  | recursiveEnd _ => exact List.nil_suffix
  | recursiveInner _ => exact (List.suffix_cons _ _).trans (List.suffix_append _ _)

/-- A construct in a text without separators denotes no text with one, a recursive run apart. -/
theorem Opens.notMem (h : Opens before t x before' rest) (ht : '/' ∉ t) (hx : x.Apart)
    (hrun : ¬ (isRecursive t = true ∧ Bounds before)) {w : Text}
    (hw : w ∈ x.language .component) : '/' ∉ w := by
  have hrunning : ∀ {n}, 2 ≤ n → Bounds before → t ≠ List.replicate n '*' := by
    rintro n hn hbefore rfl
    exact hrun ⟨isRecursive_iff.2 ⟨n, hn, rfl⟩, hbefore⟩
  cases h with
  | ordinary _ =>
      obtain rfl := hw
      exact fun hmem => ht (List.mem_singleton.1 hmem ▸ List.mem_cons_self ..)
  | escaped =>
      obtain rfl := hw
      exact fun hmem =>
        ht (List.mem_singleton.1 hmem ▸ List.mem_cons_of_mem _ (List.mem_cons_self ..))
  | question =>
      obtain ⟨c, rfl, hc⟩ := hw
      exact fun hmem => hc rfl (List.mem_singleton.1 hmem).symm
  | @bracket _ _ _ cls _ =>
      generalize cls.negated = negated at hx hw
      cases negated with
      | false =>
          obtain ⟨c, rfl, hlisted⟩ := hw
          exact fun hmem => hx.2 rfl (List.mem_singleton.1 hmem ▸ hlisted)
      | true =>
          obtain ⟨c, rfl, -, hc⟩ := hw
          exact fun hmem => hc rfl (List.mem_singleton.1 hmem).symm
  | stars _ _ _ => exact hw rfl
  | recursiveAlone hn => exact absurd rfl (hrunning hn (Or.inl rfl))
  | recursiveStart _ => exact absurd (List.mem_append_right _ (List.mem_cons_self ..)) ht
  | recursiveEnd hn => exact absurd rfl (hrunning hn (Or.inr rfl))
  | recursiveInner _ => exact absurd (List.mem_append_right _ (List.mem_cons_self ..)) ht

theorem Opens.not_bounds (h : Opens before t x before' rest) (ht : '/' ∉ t) : ¬ Bounds before' := by
  have hne : ∀ c ∈ t, c ≠ '/' := fun c hc h => ht (h ▸ hc)
  cases h with
  | ordinary _ => exact Glob.not_bounds (hne _ (List.mem_cons_self ..))
  | escaped => exact Glob.not_bounds (hne _ (List.mem_cons_of_mem _ (List.mem_cons_self ..)))
  | question => exact Glob.not_bounds (by decide)
  | bracket _ => exact Glob.not_bounds (by decide)
  | stars _ _ _ => exact Glob.not_bounds (by decide)
  | recursiveAlone _ => exact Glob.not_bounds (by decide)
  | recursiveStart _ => exact absurd (List.mem_append_right _ (List.mem_cons_self ..)) ht
  | recursiveEnd _ => exact Glob.not_bounds (by decide)
  | recursiveInner _ => exact absurd (List.mem_append_right _ (List.mem_cons_self ..)) ht

/-- A component that is not recursive denotes no text with a separator. -/
theorem Reads.notMem (h : Reads before t items) (ht : '/' ∉ t) (hitems : Simple items)
    (hrun : ¬ (isRecursive t = true ∧ Bounds before)) {w : Text}
    (hw : w ∈ denoted .component items) : '/' ∉ w := by
  induction h generalizing w with
  | nil =>
      obtain rfl := hw
      exact List.not_mem_nil
  | one hx _ ih =>
      obtain ⟨a, ha, b, hb, rfl⟩ := Language.mem_mul.1 (denoted_cons ▸ hw)
      have hback := ih (fun h => ht (hx.suffix.subset h)) hitems.tail
        (fun h => hx.not_bounds ht h.2) hb
      have hfront := hx.notMem ht hitems.head hrun ha
      rw [List.mem_append, not_or]
      exact ⟨hfront, hback⟩
  | comma _ ih =>
      obtain ⟨a, rfl, b, hb, rfl⟩ := Language.mem_mul.1 (denoted_cons ▸ hw)
      have hback := ih (fun h => ht (List.mem_cons_of_mem _ h)) hitems.tail
        (fun h => Glob.not_bounds (by decide) h.2) hb
      rw [List.mem_append, not_or]
      exact ⟨by decide, hback⟩
  | group _ _ _ => exact absurd hitems not_simple_group

end Cut

end Glob

end IgnoreRules
