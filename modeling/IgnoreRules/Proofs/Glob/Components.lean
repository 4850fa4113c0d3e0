import Mathlib.Data.List.Infix
import IgnoreRules.Proofs.Glob.Separator
import IgnoreRules.Proofs.Text.Split

/-!
# Globs matched component by component

A glob whose wildcards stay within one component matches a path exactly when the components of the
path match those of the glob.  Each component of the glob is a glob of its own that one component of
the path has to match; a component of two stars or more stands for any number of components.  What
the glob says about separators in the flat text comes down to this: a recursive run with the separator
behind it stands for nothing or for whole components.

* `Glob.matchesPart`, `Glob.matchesParts` : one component, and all of them;
* `Glob.mem_denoted_iff_matchesParts` : the paths that the items of a glob denote, by components;
* `Glob.isMatch_eq_matchesParts` : a glob matches a path as its components do;
* `Glob.matchesParts_inside` : the components of a glob for everything inside a directory.
-/

namespace IgnoreRules

open Rule (WellEscaped)

namespace Glob

/-! ## Components against components -/

/-- Whether a component of a glob, taken as a glob by itself, matches a component of a path. -/
def matchesPart (part name : Text) : Bool :=
  match parse part with
  | .ok g => g.isMatch .component name
  | .error _ => false

/-- Whether the components of a glob match those of a path, one by one.  A recursive component stands
for zero components or more, and for one or more when it is the last. -/
def matchesParts : List Text → List Text → Bool
  | [], names => names.isEmpty
  | part :: parts, names =>
      if isRecursive part then
        if parts.isEmpty then !names.isEmpty else names.tails.any (matchesParts parts)
      else
        match names with
        | [] => false
        | name :: names => matchesPart part name && matchesParts parts names

section Components

variable {part name : Text} {parts parts' names : List Text}

theorem matchesParts_nil_left : matchesParts [] names = true ↔ names = [] := by
  rw [matchesParts, List.isEmpty_iff]

theorem matchesParts_cons : matchesParts (part :: parts) names =
    if isRecursive part then
      if parts.isEmpty then !names.isEmpty else names.tails.any (matchesParts parts)
    else
      match names with
      | [] => false
      | name :: names => matchesPart part name && matchesParts parts names := by
  cases names with
  | nil => rfl
  | cons name names => rfl

theorem matchesParts_lastRun (h : isRecursive part = true) :
    matchesParts [part] names = true ↔ names ≠ [] := by
  rw [matchesParts_cons, if_pos h, List.isEmpty_nil, if_pos rfl, Bool.not_eq_true', ← Bool.not_eq_true,
    List.isEmpty_iff]

theorem matchesParts_innerRun (h : isRecursive part = true) (hparts : parts ≠ []) :
    matchesParts (part :: parts) names = true ↔
      ∃ rest, rest <:+ names ∧ matchesParts parts rest = true := by
  have hempty : ¬ parts.isEmpty = true := fun h => hparts (List.isEmpty_iff.1 h)
  rw [matchesParts_cons, if_pos h, if_neg hempty, List.any_eq_true]
  simp only [List.mem_tails]

theorem matchesParts_plain (h : isRecursive part = false) :
    matchesParts (part :: parts) names = true ↔
      ∃ name rest, names = name :: rest ∧ matchesPart part name = true ∧
        matchesParts parts rest = true := by
  have hrun : ¬ isRecursive part = true := Bool.eq_false_iff.1 h
  rw [matchesParts_cons, if_neg hrun]
  cases names with
  | nil => simp
  | cons name names => simp

/-- No path is left for components that do not match at least one. -/
theorem matchesParts_nil_right (h : parts ≠ []) : matchesParts parts [] = false := by
  rw [Bool.eq_false_iff]
  induction parts with
  | nil => exact absurd rfl h
  | cons part parts ih =>
      intro hmatch
      cases hrun : isRecursive part with
      | false =>
          obtain ⟨name, rest, hnil, -⟩ := (matchesParts_plain hrun).1 hmatch
          cases hnil
      | true =>
          by_cases hparts : parts = []
          · rw [hparts, matchesParts_lastRun hrun] at hmatch
            exact hmatch rfl
          · obtain ⟨rest, hsuffix, hrest⟩ := (matchesParts_innerRun hrun hparts).1 hmatch
            rw [List.suffix_nil.1 hsuffix] at hrest
            exact ih hparts hrest

/-- Components that do not end in a recursive one match the front of a path by themselves. -/
theorem matchesParts_append (hlast : ∀ part ∈ parts.getLast?, isRecursive part = false)
    (hparts' : parts' ≠ []) :
    matchesParts (parts ++ parts') names = true ↔
      ∃ front back, names = front ++ back ∧ matchesParts parts front = true ∧
        matchesParts parts' back = true := by
  induction parts generalizing names with
  | nil =>
      simp only [List.nil_append, matchesParts_nil_left]
      constructor
      · exact fun h => ⟨[], names, rfl, rfl, h⟩
      · rintro ⟨-, back, rfl, rfl, hback⟩
        exact hback
  | cons part parts ih =>
      rw [List.cons_append]
      have hne : parts ++ parts' ≠ [] := List.append_ne_nil_of_right_ne_nil parts hparts'
      cases hrun : isRecursive part with
      | false =>
          have htail : ∀ part ∈ parts.getLast?, isRecursive part = false := by
            cases parts with
            | nil => simp
            | cons next parts => rwa [List.getLast?_cons_cons] at hlast
          rw [matchesParts_plain hrun]
          constructor
          · rintro ⟨name, rest, rfl, hname, hrest⟩
            obtain ⟨front, back, rfl, hfront, hback⟩ := (ih htail).1 hrest
            exact ⟨name :: front, back, rfl, (matchesParts_plain hrun).2 ⟨_, _, rfl, hname, hfront⟩,
              hback⟩
          · rintro ⟨front, back, rfl, hfront, hback⟩
            obtain ⟨name, rest, rfl, hname, hrest⟩ := (matchesParts_plain hrun).1 hfront
            exact ⟨name, rest ++ back, rfl, hname, (ih htail).2 ⟨_, _, rfl, hrest, hback⟩⟩
      | true =>
          -- A recursive component is not the last in front, so it stands for what it does alone.
          obtain ⟨next, parts, rfl⟩ : ∃ next rest, parts = next :: rest := by
            cases parts with
            | nil =>
                rw [hlast part rfl] at hrun
                cases hrun
            | cons next parts => exact ⟨next, parts, rfl⟩
          rw [List.getLast?_cons_cons] at hlast
          rw [matchesParts_innerRun hrun hne]
          constructor
          · rintro ⟨rest, ⟨skipped, rfl⟩, hrest⟩
            obtain ⟨front, back, rfl, hfront, hback⟩ := (ih hlast).1 hrest
            refine ⟨skipped ++ front, back, by rw [List.append_assoc], ?_, hback⟩
            exact (matchesParts_innerRun hrun (List.cons_ne_nil _ _)).2
              ⟨front, List.suffix_append .., hfront⟩
          · rintro ⟨front, back, rfl, hfront, hback⟩
            obtain ⟨rest, ⟨skipped, rfl⟩, hrest⟩ :=
              (matchesParts_innerRun hrun (List.cons_ne_nil _ _)).1 hfront
            refine ⟨rest ++ back, ⟨skipped, by rw [List.append_assoc]⟩, ?_⟩
            exact (ih hlast).2 ⟨rest, back, rfl, hrest, hback⟩

/-- Without a recursive component there are as many components on both sides. -/
theorem length_eq_of_matchesParts (hparts : ∀ part ∈ parts, isRecursive part = false)
    (h : matchesParts parts names = true) : names.length = parts.length := by
  induction parts generalizing names with
  | nil => rw [matchesParts_nil_left.1 h]
  | cons part parts ih =>
      rw [List.forall_mem_cons] at hparts
      obtain ⟨name, rest, rfl, -, hrest⟩ := (matchesParts_plain hparts.1).1 h
      rw [List.length_cons, List.length_cons, ih hparts.2 hrest]

end Components

/-! ## The paths that components denote -/

section Denoted

variable {before : Option Char} {part path : Text} {parts : List Text} {items : List Item}
variable {L M : Language Char}

theorem language_of_anyTail {x : Construct} (h : x.token = .anyTail) :
    x.language .component = ⊤ := by
  rw [← x.language_token, h]
  rfl

theorem language_of_anyDirs {x : Construct} (h : x.token = .anyDirs) :
    x.language .component = 1 + throughSeparator := by
  rw [← x.language_token, h]
  rfl

/-- A component that is not recursive is matched as the glob that it is by itself. -/
theorem mem_denoted_iff_matchesPart (h : Reads before part items) (hbefore : Bounds before)
    (hpart : '/' ∉ part) (hrun : isRecursive part = false) :
    path ∈ denoted .component items ↔ matchesPart part path = true := by
  rw [matchesPart, parse_of_reads (h.restart hbefore hrun hpart)]
  exact (isMatch_map_piece items path).symm

/-- Nothing, or anything through a separator, in front of what components match: the components match
some last components of the path. -/
theorem mem_anyDirs_mul_iff (hparts : parts ≠ [])
    (hM : ∀ path, path ∈ M ↔ matchesParts parts (path.splitOn '/') = true) :
    path ∈ (1 + throughSeparator) * M ↔
      ∃ rest, rest <:+ path.splitOn '/' ∧ matchesParts parts rest = true := by
  rw [add_mul, one_mul, Language.mem_add]
  constructor
  · rintro (h | h)
    · exact ⟨_, List.suffix_rfl, (hM path).1 h⟩
    · obtain ⟨a, ⟨u, rfl⟩, v, hv, rfl⟩ := Language.mem_mul.1 h
      refine ⟨v.splitOn '/', ?_, (hM v).1 hv⟩
      rw [List.append_assoc, List.singleton_append, List.splitOn_append_cons_self]
      exact List.suffix_append _ _
  · rintro ⟨rest, ⟨skipped, hsplit⟩, hrest⟩
    by_cases hskipped : skipped = []
    · rw [hskipped, List.nil_append] at hsplit
      exact Or.inl ((hM path).2 (hsplit ▸ hrest))
    -- The components that are skipped end in a separator, because some are left to match.
    · have hne : rest ≠ [] := by
        rintro rfl
        rw [matchesParts_nil_right hparts] at hrest
        cases hrest
      obtain ⟨u, v, rfl, -, rfl⟩ := Text.exists_of_splitOn_eq_append hsplit.symm hskipped hne
      refine Or.inr (Language.mem_mul.2 ⟨u ++ ['/'], ⟨u, rfl⟩, v, (hM v).2 hrest, ?_⟩)
      rw [List.append_assoc, List.singleton_append]

/-- Texts without a separator, a separator, and what components match: the first component of the
path is one of the texts. -/
theorem mem_part_mul_iff (hparts : parts ≠ []) (hL : ∀ u ∈ L, '/' ∉ u)
    (hM : ∀ path, path ∈ M ↔ matchesParts parts (path.splitOn '/') = true) :
    path ∈ L * ({['/']} * M) ↔
      ∃ name rest, path.splitOn '/' = name :: rest ∧ name ∈ L ∧ matchesParts parts rest = true := by
  constructor
  · intro h
    obtain ⟨u, hu, b, hb, rfl⟩ := Language.mem_mul.1 h
    obtain ⟨_, rfl, v, hv, rfl⟩ := Language.mem_mul.1 hb
    exact ⟨u, v.splitOn '/', List.splitOn_append_cons_self_of_not_mem (hL u hu) v, hu, (hM v).1 hv⟩
  · rintro ⟨name, rest, hsplit, hname, hrest⟩
    obtain ⟨-, halone⟩ | ⟨u, v, rfl, -, hcut⟩ := Text.splitOn_cases path
    · rw [halone, List.cons.injEq] at hsplit
      rw [← hsplit.2, matchesParts_nil_right hparts] at hrest
      cases hrest
    · obtain ⟨rfl, rfl⟩ := List.cons.inj (hcut.symm.trans hsplit)
      refine Language.append_mem_mul hname (b := '/' :: v) ?_
      exact Language.append_mem_mul (a := ['/']) rfl ((hM v).2 hrest)

/-- The last component: a recursive one denotes every path, and any other one component. -/
theorem mem_denoted_iff_of_last (h : Reads before part items) (hbefore : Bounds before)
    (hpart : '/' ∉ part) (hitems : Simple items) (path : Text) :
    path ∈ denoted .component items ↔ matchesParts [part] (path.splitOn '/') = true := by
  cases hrun : isRecursive part with
  | false =>
      rw [matchesParts_plain hrun, mem_denoted_iff_matchesPart h hbefore hpart hrun]
      simp only [matchesParts_nil_left]
      constructor
      · intro hmatch
        have hpath : '/' ∉ path :=
          h.notMem hpart hitems (fun h => Bool.eq_false_iff.1 hrun h.1)
            ((mem_denoted_iff_matchesPart h hbefore hpart hrun).2 hmatch)
        exact ⟨path, [], List.splitOn_eq_singleton hpath, hmatch, rfl⟩
      · rintro ⟨name, -, hsplit, hmatch, rfl⟩
        obtain ⟨-, halone⟩ | ⟨u, v, -, -, hcut⟩ := Text.splitOn_cases path
        · rw [halone] at hsplit
          rwa [(List.cons.inj hsplit).1]
        · exact absurd (List.cons.inj (hcut.symm.trans hsplit)).2 (List.splitOn_ne_nil _ _)
  | true =>
      obtain ⟨n, hn, rfl⟩ := isRecursive_iff.1 hrun
      rw [← List.append_nil (List.replicate n '*')] at h
      obtain ⟨x, back, rfl, ⟨-, rfl, htoken⟩ | ⟨t, ht, -⟩⟩ := h.atRun hn hbefore (Or.inl rfl)
      · rw [matchesParts_lastRun hrun, denoted_cons, Item.language, language_of_anyTail htoken]
        refine iff_of_true ?_ (List.splitOn_ne_nil _ _)
        exact Language.mem_mul.2 ⟨path, trivial, [], rfl, List.append_nil path⟩
      · cases ht

/-- The paths that the items of a glob denote are those whose components its components match. -/
theorem mem_denoted_iff_matchesParts (hparts : parts ≠ []) (hplain : ∀ part ∈ parts, '/' ∉ part)
    (hbefore : Bounds before) (h : Reads before (List.intercalate ['/'] parts) items)
    (hescaped : WellEscaped (List.intercalate ['/'] parts)) (hitems : Simple items) (path : Text) :
    path ∈ denoted .component items ↔ matchesParts parts (path.splitOn '/') = true := by
  -- The induction takes one component off the glob, with the separator behind it.
  induction parts generalizing before items path with
  | nil => exact absurd rfl hparts
  | cons part parts ih =>
      rw [List.forall_mem_cons] at hplain
      cases parts with
      | nil =>
          rw [List.intercalate_singleton] at h
          exact mem_denoted_iff_of_last h hbefore hplain.1 hitems path
      | cons next parts =>
          rw [List.intercalate_cons_cons, List.append_assoc, List.singleton_append] at h hescaped
          have hne : next :: parts ≠ [] := List.cons_ne_nil next parts
          have hrest : ∀ {back}, Reads (some '/') (List.intercalate ['/'] (next :: parts)) back →
              Simple back → ∀ path, path ∈ denoted .component back ↔
                matchesParts (next :: parts) (path.splitOn '/') = true := fun hback hsimple =>
            ih hne hplain.2 (Or.inr rfl) hback (hescaped.of_append (by decide)) hsimple
          rcases h.firstComponent hbefore hplain.1 hescaped hitems with
            ⟨hrun, front, back, rfl, hfront, hsimple, hback, hsimple'⟩ |
            ⟨hrun, x, back, rfl, htoken, hback, hsimple⟩
          -- The component is matched by itself, and the separator behind it by a separator.
          · rw [denoted_append, denoted_cons, matchesParts_plain hrun]
            refine (mem_part_mul_iff hne (fun u => ?_) (hrest hback hsimple')).trans ?_
            · exact hfront.notMem hplain.1 hsimple fun h => Bool.eq_false_iff.1 hrun h.1
            · simp only [mem_denoted_iff_matchesPart hfront hbefore hplain.1 hrun]
          -- The run and its separator are one construct.
          · rw [denoted_cons, Item.language, language_of_anyDirs htoken,
              matchesParts_innerRun hrun hne]
            exact mem_anyDirs_mul_iff hne (hrest hback hsimple)

theorem exists_parse_of_isRecursive (h : isRecursive part = true) : ∃ g, parse part = .ok g := by
  obtain ⟨n, hn, rfl⟩ := isRecursive_iff.1 h
  exact ⟨_, parse_of_reads (.one (.recursiveAlone hn) (.nil _))⟩

theorem exists_parse_of_reads (h : Reads before part items) (hbefore : Bounds before)
    (hpart : '/' ∉ part) : ∃ g, parse part = .ok g := by
  cases hrun : isRecursive part with
  | false => exact ⟨_, parse_of_reads (h.restart hbefore hrun hpart)⟩
  | true => exact exists_parse_of_isRecursive hrun

/-- Every component of a glob is a glob by itself. -/
theorem exists_parse_of_mem (hplain : ∀ part ∈ parts, '/' ∉ part) (hbefore : Bounds before)
    (h : Reads before (List.intercalate ['/'] parts) items)
    (hescaped : WellEscaped (List.intercalate ['/'] parts)) (hitems : Simple items) :
    ∀ part ∈ parts, ∃ g, parse part = .ok g := by
  induction parts generalizing before items with
  | nil => exact fun _ hpart => absurd hpart List.not_mem_nil
  | cons part parts ih =>
      rw [List.forall_mem_cons] at hplain ⊢
      cases parts with
      | nil =>
          rw [List.intercalate_singleton] at h
          exact ⟨exists_parse_of_reads h hbefore hplain.1, fun _ hpart => absurd hpart List.not_mem_nil⟩
      | cons next parts =>
          rw [List.intercalate_cons_cons, List.append_assoc, List.singleton_append] at h hescaped
          have hrest := hescaped.of_append (by decide)
          rcases h.firstComponent hbefore hplain.1 hescaped hitems with
            ⟨-, front, back, -, hfront, -, hback, hsimple⟩ | ⟨hrun, x, back, -, -, hback, hsimple⟩
          · exact ⟨exists_parse_of_reads hfront hbefore hplain.1,
              ih hplain.2 (Or.inr rfl) hback hrest hsimple⟩
          · exact ⟨exists_parse_of_isRecursive hrun, ih hplain.2 (Or.inr rfl) hback hrest hsimple⟩

end Denoted

/-! ## Globs with nothing that reaches across separators -/

/-- A token is no class with a separator written in it, and no class that lists one without negating. -/
def Token.isApart : Token → Bool
  | oneOf cls =>
      cls.ranges.all (fun r => r.1 != '/' && r.2 != '/') && (cls.negated || !cls.lists '/')
  | _ => true

/-- A glob has no groups, and no class of it has to do with separators. -/
def isApart (g : Glob) : Bool :=
  g.all fun
    | .token t => t.isApart
    | .group _ => false

/-- A token stands for characters that the text of the glob does not name. -/
def Token.isWildcard : Token → Bool
  | anyChar => true
  | anyRun => true
  | oneOf _ => true
  | _ => false

section Apart

variable {t : Text} {g : Glob} {items : List Item}

theorem Construct.apart_of_isApart {x : Construct} (h : x.token.isApart = true) : x.Apart := by
  cases x with
  | bracket negated members =>
      simp only [token, Token.isApart, Bool.and_eq_true, List.all_eq_true, bne_iff_ne,
        Bool.or_eq_true, Bool.not_eq_true', ← Bool.not_eq_true, lists_iff] at h
      refine ⟨h.1, fun hplain => ?_⟩
      rcases h.2 with hnegated | hlisted
      · rw [hplain] at hnegated
        cases hnegated
      · exact hlisted
  | _ => trivial

theorem simple_of_isApart (h : isApart (items.map Item.piece) = true) : Simple items := by
  intro item hitem
  have hpiece := List.all_eq_true.1 h _ (List.mem_map_of_mem hitem)
  cases item with
  | one x => exact ⟨x, rfl, Construct.apart_of_isApart hpiece⟩
  | group branches => cases hpiece

/-- A glob within one component matches a path when its components match those of the path, and each
of its components is a glob by itself. -/
theorem isMatch_eq_matchesParts (h : parse t = .ok g) (hescaped : WellEscaped t)
    (hg : g.isApart = true) :
    (∀ path, g.isMatch .component path = matchesParts (t.splitOn '/') (path.splitOn '/')) ∧
      ∀ part ∈ t.splitOn '/', ∃ g, parse part = .ok g := by
  obtain ⟨⟨items, hitems⟩, hmatch⟩ := isMatch_iff_mem_denoted h
  obtain rfl : items.map Item.piece = g := Except.ok.inj ((parse_of_reads hitems).symm.trans h)
  have hsimple := simple_of_isApart hg
  have hplain : ∀ part ∈ t.splitOn '/', '/' ∉ part := fun part => Text.notMem_of_mem_splitOn
  have hparts := hitems
  have hback : List.intercalate ['/'] (t.splitOn '/') = t := List.intercalate_splitOn '/'
  rw [← hback] at hparts hescaped
  refine ⟨fun path => ?_, exists_parse_of_mem hplain (Or.inl rfl) hparts hescaped hsimple⟩
  rw [Bool.eq_iff_iff, hmatch items hitems]
  exact mem_denoted_iff_matchesParts (List.splitOn_ne_nil _ _) hplain (Or.inl rfl) hparts hescaped
    hsimple path

/-- No wildcard of a glob within one component stands for a separator. -/
theorem notMem_language_of_isWildcard {token : Token} (hg : g.isApart = true)
    (htoken : .token token ∈ g) (hwildcard : token.isWildcard = true) {w : Text}
    (hw : w ∈ token.language .component) : '/' ∉ w := by
  have hapart : token.isApart = true := List.all_eq_true.1 hg _ htoken
  cases token with
  | anyChar =>
      obtain ⟨c, hc, rfl⟩ := hw
      exact fun hmem => admits_iff.1 hc rfl (List.mem_singleton.1 hmem).symm
  | anyRun => exact fun hmem => admits_iff.1 (hw '/' hmem) rfl rfl
  | oneOf cls =>
      obtain ⟨c, hc, rfl⟩ := hw
      rw [List.mem_singleton]
      rintro rfl
      unfold CharClass.admits at hc
      rw [Token.isApart, Bool.and_eq_true] at hapart
      cases hnegated : cls.negated with
      | false =>
          rw [hnegated, if_neg Bool.false_ne_true] at hc
          rw [hnegated, hc] at hapart
          exact absurd hapart.2 Bool.false_ne_true
      | true =>
          rw [hnegated, if_pos rfl, Bool.and_eq_true] at hc
          exact absurd hc.2 Bool.false_ne_true
  | _ => cases hwildcard

end Apart

/-! ## Everything inside a directory -/

section Inside

variable {name : Text} {parts names : List Text}

/-- A single star matches every component. -/
theorem matchesPart_star (h : '/' ∉ name) : matchesPart ['*'] name = true := by
  have hparse : parse ['*'] = .ok [.token .anyRun] := by decide +kernel
  have hlanguage : name ∈ language .component [.token .anyRun] :=
    Language.mem_mul.2 ⟨name, fun c hc => admits_iff.2 fun _ hslash => h (hslash ▸ hc), [], rfl,
      List.append_nil name⟩
  rw [matchesPart, hparse]
  exact (isMatch_iff_mem_language _ _ _).2 hlanguage

/-- A recursive component and a star behind it stand for one component or more. -/
theorem matchesParts_anyInside (h : ∀ name ∈ names, '/' ∉ name) :
    matchesParts [['*', '*'], ['*']] names = true ↔ names ≠ [] := by
  rw [matchesParts_innerRun (by decide) (by simp)]
  constructor
  · rintro ⟨rest, hsuffix, hrest⟩ rfl
    rw [List.suffix_nil.1 hsuffix, matchesParts_nil_right (by simp)] at hrest
    cases hrest
  · intro hne
    have hlast := List.getLast_mem hne
    refine ⟨[names.getLast hne], ⟨names.dropLast, List.dropLast_append_getLast hne⟩, ?_⟩
    exact (matchesParts_plain (by decide)).2
      ⟨_, [], rfl, matchesPart_star (h _ hlast), matchesParts_nil_left.2 rfl⟩

/-- The components of a glob for everything inside match a path strictly below one that the components
of the directory match. -/
theorem matchesParts_inside (hlast : ∀ part ∈ parts.getLast?, isRecursive part = false)
    (h : ∀ name ∈ names, '/' ∉ name) :
    matchesParts (parts ++ [['*', '*'], ['*']]) names = true ↔
      ∃ front back, names = front ++ back ∧ back ≠ [] ∧ matchesParts parts front = true := by
  rw [matchesParts_append hlast (by simp)]
  constructor
  · rintro ⟨front, back, rfl, hfront, hback⟩
    rw [matchesParts_anyInside fun name hname => h name (List.mem_append_right _ hname)] at hback
    exact ⟨front, back, rfl, hback, hfront⟩
  · rintro ⟨front, back, rfl, hback, hfront⟩
    refine ⟨front, back, rfl, hfront, ?_⟩
    exact (matchesParts_anyInside fun name hname => h name (List.mem_append_right _ hname)).2 hback

end Inside

end Glob

end IgnoreRules
