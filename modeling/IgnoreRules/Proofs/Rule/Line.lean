import Mathlib.Data.List.Infix
import Mathlib.Data.List.TakeWhile
import IgnoreRules.Proofs.Rule.Unescape
import IgnoreRules.Proofs.Text.Ends
import IgnoreRules.Rule.Line

/-!
# The rule of a line

What reading a line makes of its pattern: the marks are taken off at the ends, and what is left is
normalised.

* `Line.parse_eq_rule_iff` : which lines state a rule;
* `Rule.named`, `Rule.ofTrimmed_eq` : what a line names, and the rule that comes of it;
* `Rule.wellEscaped_pattern` : no pattern has a needless escape;
* `Rule.pattern_of_inside` : the pattern of a line for everything inside a directory.
-/

namespace IgnoreRules

/-! ## Lines that state a rule -/

theorem Line.parse_eq_rule_iff {raw : Text} {r : Rule} :
    Line.parse raw = .rule r ↔ Text.trim raw ≠ [] ∧ (Text.trim raw).head? ≠ some '#' ∧
      r = Rule.ofTrimmed (Text.trim raw) := by
  unfold Line.parse
  split
  · next hnil => exact iff_of_false (fun h => by cases h) fun h => h.1 hnil
  · next rest hhash =>
      rw [hhash]
      exact iff_of_false (fun h => by cases h) fun h => h.2.1 rfl
  · next c rest hhash hline =>
      rw [hline, Line.rule.injEq]
      constructor
      · rintro rfl
        refine ⟨List.cons_ne_nil c rest, ?_, rfl⟩
        intro hc
        exact hhash (Option.some.inj hc)
      · rintro ⟨-, -, rfl⟩
        rfl

namespace Rule

variable {line : Text}

/-! ## Marks -/

/-- A line without the marks of a negated rule. -/
def unnegated (line : Text) : Text :=
  if ['!'].isPrefixOf line then Text.trim (line.dropWhile (· == '!')) else line

theorem unnegated_of_head? (h : line.head? ≠ some '!') : unnegated line = line := by
  have hunmarked : ['!'].isPrefixOf line = false := by
    rw [Text.singleton_isPrefixOf]
    simpa using h
  unfold unnegated
  rw [hunmarked, if_neg Bool.false_ne_true]

/-- What is left of a trimmed line without the marks of a negated rule is an end of it. -/
theorem unnegated_suffix (htrim : Text.trim line = line) : unnegated line <:+ line := by
  unfold unnegated
  split
  · rw [Text.trim_of_suffix (List.dropWhile_suffix _) htrim]
    exact (List.dropWhile_suffix _).trans (List.dropWhile_suffix _)
  · exact List.suffix_rfl

theorem trim_unnegated (htrim : Text.trim line = line) : Text.trim (unnegated line) = unnegated line := by
  unfold unnegated
  split
  · exact Text.trim_trim _
  · exact htrim

/-- What a line names: the line without any of its marks.  Separators in front are no marks. -/
def named (line : Text) : Text :=
  if ['/'].isSuffixOf (unnegated line) then
    Text.trim (Text.dropEndWhile (· == '/') (unnegated line))
  else
    unnegated line

/-- The rule of a line, read off what the line names. -/
theorem ofTrimmed_eq (line : Text) :
    ofTrimmed line =
      { pattern := normalize ((named line).head? == some '/') ((named line).dropWhile (· == '/'))
        anchored := (named line).head? == some '/' ||
          ((named line).dropWhile (· == '/')).contains '/'
        dirOnly := ['/'].isSuffixOf (unnegated line)
        negation := ['!'].isPrefixOf line } := by
  have hbody : (if ['/'].isPrefixOf (named line) then (named line).dropWhile (· == '/')
      else named line) = (named line).dropWhile (· == '/') := by
    split
    · rfl
    · next hrooted =>
        rw [Text.singleton_isPrefixOf, beq_iff_eq] at hrooted
        exact (Text.dropWhile_of_head?_ne hrooted).symm
  have hnamed : ofTrimmed line =
      { pattern := normalize (['/'].isPrefixOf (named line))
          (if ['/'].isPrefixOf (named line) then (named line).dropWhile (· == '/') else named line)
        anchored := ['/'].isPrefixOf (named line) ||
          (if ['/'].isPrefixOf (named line) then (named line).dropWhile (· == '/')
            else named line).contains '/'
        dirOnly := ['/'].isSuffixOf (unnegated line)
        negation := ['!'].isPrefixOf line } := rfl
  rw [hnamed, hbody, Text.singleton_isPrefixOf]

/-- Without the mark of a rule for directories, a line names what is left of it. -/
theorem ofTrimmed_of_getLast? (h : (unnegated line).getLast? ≠ some '/') :
    ofTrimmed line =
      { pattern := normalize ((unnegated line).head? == some '/')
          ((unnegated line).dropWhile (· == '/'))
        anchored := (unnegated line).head? == some '/' ||
          ((unnegated line).dropWhile (· == '/')).contains '/'
        dirOnly := false
        negation := ['!'].isPrefixOf line } := by
  have hdir : ['/'].isSuffixOf (unnegated line) = false := by
    rw [Text.singleton_isSuffixOf]
    simpa using h
  have hnamed : named line = unnegated line := by simp [named, hdir]
  rw [ofTrimmed_eq, hnamed, hdir]

/-! ## Patterns -/

/-- A body without needless escapes, made to apply at every depth unless it is rooted. -/
def deepened (rooted : Bool) (plain : Text) : Text :=
  if !rooted && !everyDepth.isPrefixOf plain then everyDepth ++ plain else plain

theorem normalize_eq (rooted : Bool) (body : Text) :
    normalize rooted body =
      if everythingInside.isSuffixOf (deepened rooted (unescape body)) then
        deepened rooted (unescape body) ++ ['/', '*']
      else deepened rooted (unescape body) :=
  rfl

theorem deepened_cases (rooted : Bool) (plain : Text) :
    deepened rooted plain = everyDepth ++ plain ∨ deepened rooted plain = plain := by
  unfold deepened
  split
  · exact Or.inl rfl
  · exact Or.inr rfl

/-- Normalising leaves no needless escape and adds none. -/
theorem wellEscaped_normalize (rooted : Bool) (body : Text) : WellEscaped (normalize rooted body) := by
  have hfront : WellEscaped everyDepth := wellEscaped_of_notMem (by decide)
  have hback : WellEscaped ['/', '*'] := wellEscaped_of_notMem (by decide)
  have hdeep : WellEscaped (deepened rooted (unescape body)) := by
    rcases deepened_cases rooted (unescape body) with h | h
    · rw [h]
      exact hfront.append (wellEscaped_unescape body)
    · rw [h]
      exact wellEscaped_unescape body
  rw [normalize_eq]
  split
  · exact hdeep.append hback
  · exact hdeep

theorem wellEscaped_pattern {raw : Text} {r : Rule} (h : Line.parse raw = .rule r) :
    WellEscaped r.pattern := by
  obtain ⟨-, -, rfl⟩ := Line.parse_eq_rule_iff.1 h
  exact wellEscaped_normalize _ _

/-! ## Everything inside a directory -/

/-- Whether a body applies at every depth already is seen in front of what is inside, unless the body
is a recursive component alone. -/
theorem everyDepth_isPrefixOf_inside {plain : Text} (h : plain ≠ ['*', '*']) :
    everyDepth.isPrefixOf (plain ++ everythingInside) = everyDepth.isPrefixOf plain := by
  rw [Bool.eq_iff_iff, List.isPrefixOf_iff_prefix, List.isPrefixOf_iff_prefix]
  refine ⟨fun hbegins => ?_, fun hbegins => hbegins.trans (List.prefix_append ..)⟩
  rcases List.prefix_or_prefix_of_prefix hbegins (List.prefix_append plain _) with hdeep | hshort
  · exact hdeep
  · rw [← List.mem_inits] at hshort
    simp only [everyDepth, List.inits, List.map_cons, List.map_nil, List.mem_cons,
      List.not_mem_nil, or_false] at hshort
    obtain rfl | rfl | rfl | rfl := hshort
    · exact absurd hbegins (by decide)
    · exact absurd hbegins (by decide)
    · exact absurd rfl h
    · exact List.prefix_rfl

/-- A body for everything inside a directory becomes a pattern that needs a component there.  The rest
of the pattern is that of the directory. -/
theorem normalize_inside (rooted : Bool) (front : Text) :
    ∃ above, normalize rooted (front ++ everythingInside) = above ++ everythingInside ++ ['/', '*'] ∧
      (above ≠ ['*', '*'] → ¬ everythingInside <:+ above → normalize rooted front = above) := by
  have hplain : unescape (front ++ everythingInside) = unescape front ++ everythingInside :=
    unescape_append_separator front ['*', '*']
  obtain ⟨above, habove, hsame⟩ : ∃ above,
      deepened rooted (unescape front ++ everythingInside) = above ++ everythingInside ∧
        (above ≠ ['*', '*'] → deepened rooted (unescape front) = above) := by
    by_cases hstars : unescape front = ['*', '*']
    · rw [hstars]
      cases rooted with
      | false => exact ⟨['*', '*'], rfl, fun h => absurd rfl h⟩
      | true => exact ⟨['*', '*'], rfl, fun h => absurd rfl h⟩
    · refine ⟨deepened rooted (unescape front), ?_, fun _ => rfl⟩
      unfold deepened
      rw [everyDepth_isPrefixOf_inside hstars]
      split
      · rw [List.append_assoc]
      · rfl
  have hends : everythingInside.isSuffixOf (above ++ everythingInside) = true :=
    List.isSuffixOf_iff_suffix.2 (List.suffix_append _ _)
  refine ⟨above, by rw [normalize_eq, hplain, habove, if_pos hends], fun hne hsuffix => ?_⟩
  rw [normalize_eq, hsame hne, if_neg]
  rwa [List.isSuffixOf_iff_suffix]

theorem trim_inside (front : Text) :
    Text.trim (front ++ everythingInside) = front.dropWhile Text.isBlank ++ everythingInside :=
  Text.trim_append front nofun (by rintro _ ⟨⟩; rfl) (by rintro _ ⟨⟩; rfl)

/-- What is left of a line for everything inside a directory is a line of that kind. -/
theorem unnegated_inside (front : Text) :
    ∃ front', unnegated (front ++ everythingInside) = front' ++ everythingInside ∧
      front' <:+ front ∧
      ((∀ c ∈ front.getLast?, Text.isBlank c = false) → unnegated front = front') := by
  cases front with
  | nil => exact ⟨[], rfl, List.suffix_rfl, fun _ => rfl⟩
  | cons c front =>
      have hmark : ['!'].isPrefixOf (c :: front ++ everythingInside) =
          ['!'].isPrefixOf (c :: front) := by
        rw [Text.singleton_isPrefixOf, Text.singleton_isPrefixOf]
        rfl
      unfold unnegated
      rw [hmark]
      split
      · refine ⟨((c :: front).dropWhile (· == '!')).dropWhile Text.isBlank, ?_, ?_, fun hlast => ?_⟩
        · rw [Text.dropWhile_append_of_head? _ (by rintro _ ⟨⟩; rfl), trim_inside]
        · exact (List.dropWhile_suffix _).trans (List.dropWhile_suffix _)
        · exact Text.trim_of_getLast? (Text.getLast?_of_suffix (List.dropWhile_suffix _) hlast)
      · exact ⟨c :: front, rfl, List.suffix_rfl, fun _ => rfl⟩

/-- A line for everything inside a directory states a rule that needs a component there, unless it
names no directory.  The rest of its pattern is the pattern of the line that names the directory, if
that does not end in a recursive component itself. -/
theorem pattern_of_inside {front : Text} {r : Rule}
    (h : Line.parse (front ++ everythingInside) = .rule r) :
    r.pattern = ['*', '*'] ∨ ∃ above, r.pattern = above ++ everythingInside ++ ['/', '*'] ∧
      (above ≠ ['*', '*'] → ¬ everythingInside <:+ above →
        ∀ top, Line.parse front = .rule top →
          (∀ c ∈ front.getLast?, Text.isBlank c = false ∧ c ≠ '/') → top.pattern = above) := by
  obtain ⟨-, -, rfl⟩ := Line.parse_eq_rule_iff.1 h
  rw [trim_inside]
  obtain ⟨front', hfront', hsuffix, hsame⟩ := unnegated_inside (front.dropWhile Text.isBlank)
  have hstar : everythingInside.getLast? = some '*' := rfl
  have hlast : (unnegated (front.dropWhile Text.isBlank ++ everythingInside)).getLast? ≠ some '/' := by
    rw [hfront', List.getLast?_append, hstar, Option.some_or]
    decide
  rw [ofTrimmed_of_getLast? hlast, hfront']
  dsimp only
  cases front' with
  | nil => exact Or.inl rfl
  | cons d front' =>
      rw [List.dropWhile_append]
      split
      · next hempty =>
          -- Nothing but separators stands in front, so the rule is rooted and all of its body is inside.
          rw [List.isEmpty_iff, List.dropWhile_eq_nil_iff] at hempty
          rw [List.cons_append, List.head?_cons, eq_of_beq (hempty d (List.mem_cons_self ..))]
          exact Or.inl rfl
      · obtain ⟨above, habove, htop⟩ := normalize_inside ((d :: front').head? == some '/')
          ((d :: front').dropWhile (· == '/'))
        refine Or.inr ⟨above, habove, fun hne hends top hparse hplain => ?_⟩
        obtain ⟨-, -, rfl⟩ := Line.parse_eq_rule_iff.1 hparse
        have hdrop := List.dropWhile_suffix (l := front) Text.isBlank
        have hplain' := Text.getLast?_of_suffix hdrop hplain
        have hline := hsame fun c hc => (hplain' c hc).1
        have hend : (unnegated (front.dropWhile Text.isBlank)).getLast? ≠ some '/' := by
          intro hslash
          rw [hline] at hslash
          exact (Text.getLast?_of_suffix hsuffix hplain' '/' hslash).2 rfl
        rw [Text.trim_of_getLast? fun c hc => (hplain c hc).1, ofTrimmed_of_getLast? hend, hline]
        exact htop hne hends

end Rule

end IgnoreRules
