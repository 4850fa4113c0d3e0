import IgnoreRules.Proofs.Glob.Separator
import IgnoreRules.Proofs.Rule.Line
import IgnoreRules.Proofs.RuleSet.Verdict
import IgnoreRules.Proofs.Text.Split

/-!
# Names escaped throughout

A line with a backslash in front of every character of a name states a rule for that name and no
other.  The backslashes hide the marks of a line; of those that unescaping keeps, each stands in front
of a character that would be special to the glob.

* `Rule.escaped`, `Rule.literal` : a name escaped throughout, and what unescaping leaves of it;
* `Rule.unescape_escaped` : that unescaping leaves this;
* `Rule.parse_rootedEscaped`, `Rule.parse_escaped` : the rules that escaped names state;
* `Rule.fits_literal`, `Rule.fits_deepLiteral` : the texts that these rules match.
-/

namespace IgnoreRules

namespace Rule

open Glob (Reads Item denoted)

/-! ## Escaping -/

/-- A name with a backslash in front of the characters that `p` picks out. -/
def escapeWhere (p : Char → Bool) (name : Text) : Text :=
  name.flatMap fun c => if p c then ['\\', c] else [c]

/-- A name with a backslash in front of every character but the separators. -/
def escaped (name : Text) : Text :=
  escapeWhere (· != '/') name

/-- A name with a backslash in front of every character that is special to a glob. -/
def literal (name : Text) : Text :=
  escapeWhere isSpecial name

section Escaping

variable {p : Char → Bool} {c : Char} {name front : Text}

theorem escapeWhere_cons (p : Char → Bool) (c : Char) (name : Text) :
    escapeWhere p (c :: name) = (if p c then ['\\', c] else [c]) ++ escapeWhere p name :=
  List.flatMap_cons

theorem escapeWhere_append (p : Char → Bool) (front name : Text) :
    escapeWhere p (front ++ name) = escapeWhere p front ++ escapeWhere p name :=
  List.flatMap_append

/-- The last character of a name stays the last one. -/
theorem getLast?_escapeWhere (p : Char → Bool) (name : Text) :
    (escapeWhere p name).getLast? = name.getLast? := by
  rcases List.eq_nil_or_concat name with rfl | ⟨front, c, rfl⟩
  · rfl
  · have hlast : (escapeWhere p [c]).getLast? = some c := by
      rw [escapeWhere_cons]
      split <;> rfl
    rw [List.concat_eq_append, List.getLast?_concat, escapeWhere_append, List.getLast?_append, hlast,
      Option.some_or]

theorem notMem_escapeWhere (h : '/' ∉ name) : '/' ∉ escapeWhere p name := by
  unfold escapeWhere
  rw [List.mem_flatMap]
  rintro ⟨c, hc, hslash⟩
  have hne : c ≠ '/' := fun heq => h (heq ▸ hc)
  split at hslash
  · simp [hne.symm] at hslash
  · simp [hne.symm] at hslash

/-- Of the backslashes in front of all characters those stay that a glob needs. -/
theorem unescape_escaped (name : Text) : unescape (escaped name) = literal name := by
  induction name with
  | nil => rfl
  | cons c name ih =>
      rw [escaped, literal, escapeWhere_cons, escapeWhere_cons, ← escaped, ← literal]
      -- The separator is the one character without a backslash, and it is not special.
      by_cases hc : c = '/'
      · have hplain : isSpecial '/' = false := by decide
        rw [hc, hplain, if_neg Bool.false_ne_true, List.singleton_append]
        exact (unescape_cons (by decide) (escaped name)).trans (congrArg _ ih)
      · rw [if_pos (bne_iff_ne.2 hc), List.cons_append, List.singleton_append, unescape_pair, ih]

/-- The last star of a name is escaped, so a name is never taken for everything inside. -/
theorem not_inside_literal (hname : name ≠ []) : ¬ everythingInside <:+ front ++ literal name := by
  rintro ⟨v, hv⟩
  obtain ⟨start, c, rfl⟩ := (List.eq_nil_or_concat name).resolve_left hname
  have hlast := congrArg List.getLast? hv
  rw [List.getLast?_append, List.getLast?_append, literal, getLast?_escapeWhere,
    List.concat_eq_append, List.getLast?_concat] at hlast
  obtain rfl : '*' = c := Option.some.inj hlast
  have hstar : literal (start ++ ['*']) = literal start ++ ['\\', '*'] :=
    escapeWhere_append isSpecial start ['*']
  -- The character in front of the last star is a star on one side and a backslash on the other.
  have hends : (v ++ ['/']) ++ ['*', '*'] = (front ++ literal start) ++ ['\\', '*'] := by
    rw [List.append_assoc, List.append_assoc, ← hstar, ← List.concat_eq_append]
    exact hv
  exact absurd (List.append_inj' hends rfl).2 (by decide)

end Escaping

/-! ## The rules of escaped names -/

section Lines

variable {name : Text}

/-- A body that is an escaped name becomes the name for the glob, at every depth unless rooted. -/
theorem normalize_escaped (rooted : Bool) (hname : name ≠ []) :
    normalize rooted (escaped name) =
      if rooted then literal name else deepened false (literal name) := by
  have hends : ¬ everythingInside.isSuffixOf (deepened rooted (literal name)) = true := by
    rw [List.isSuffixOf_iff_suffix]
    rcases deepened_cases rooted (literal name) with h | h
    · rw [h]
      exact not_inside_literal hname
    · rw [h, ← List.nil_append (literal name)]
      exact not_inside_literal hname
  rw [normalize_eq, unescape_escaped, if_neg hends]
  cases rooted with
  | false => rfl
  | true => rfl

/-- What is read of a line without marks at its ends. -/
theorem parse_of_ends {line : Text} (hne : line ≠ [])
    (hhead : ∀ c ∈ line.head?, Text.isBlank c = false ∧ c ≠ '#' ∧ c ≠ '!')
    (hlast : ∀ c ∈ line.getLast?, Text.isBlank c = false ∧ c ≠ '/') :
    Line.parse line = .rule
      { pattern := normalize (line.head? == some '/') (line.dropWhile (· == '/'))
        anchored := line.head? == some '/' || (line.dropWhile (· == '/')).contains '/'
        dirOnly := false
        negation := false } := by
  have htrim : Text.trim line = line :=
    Text.trim_of_ends (fun c hc => (hhead c hc).1) fun c hc => (hlast c hc).1
  have hbang : line.head? ≠ some '!' := fun h => (hhead '!' h).2.2 rfl
  have hunmarked : ['!'].isPrefixOf line = false := by
    rw [Text.singleton_isPrefixOf]
    simpa using hbang
  have hunnegated := unnegated_of_head? hbang
  have hend : (unnegated line).getLast? ≠ some '/' := by
    rw [hunnegated]
    exact fun h => (hlast '/' h).2 rfl
  refine Line.parse_eq_rule_iff.2 ⟨htrim.symm ▸ hne, ?_, ?_⟩
  · rw [htrim]
    exact fun h => (hhead '#' h).2.1 rfl
  · rw [htrim, ofTrimmed_of_getLast? hend, hunnegated, hunmarked]

/-- A pattern without needless escapes is stated by the line with a separator in front of it. -/
theorem parse_rooted {p : Text} (hne : p ≠ []) (hescaped : WellEscaped p) (hhead : p.head? ≠ some '/')
    (hlast : ∀ c ∈ p.getLast?, Text.isBlank c = false ∧ c ≠ '/')
    (hinside : ¬ everythingInside <:+ p) :
    Line.parse ('/' :: p) = .rule ⟨p, true, false, false⟩ := by
  have hends : ('/' :: p).getLast? = p.getLast? := by
    rw [List.getLast?_cons, List.getLast?_eq_some_getLast hne]
    rfl
  have hdrop : ('/' :: p).dropWhile (· == '/') = p := by
    rw [List.dropWhile_cons_of_pos (by decide), Text.dropWhile_of_head?_ne hhead]
  have hpattern : normalize true p = p := by
    rw [normalize_eq, hescaped.unescape_eq]
    exact if_neg fun h => hinside (List.isSuffixOf_iff_suffix.1 h)
  rw [parse_of_ends (List.cons_ne_nil _ _) (by rintro _ ⟨⟩; decide) (hends ▸ hlast), hdrop]
  exact congrArg (fun pattern => Line.rule ⟨pattern, true, false, false⟩) hpattern

theorem head?_escaped (hname : name ≠ []) (hhead : name.head? ≠ some '/') :
    (escaped name).head? = some '\\' := by
  cases name with
  | nil => exact absurd rfl hname
  | cons c name =>
      have hc : (c != '/') = true := by simpa using hhead
      rw [escaped, escapeWhere_cons, hc]
      rfl

theorem dropWhile_escaped (hname : name ≠ []) (hhead : name.head? ≠ some '/') :
    (escaped name).dropWhile (· == '/') = escaped name := by
  refine Text.dropWhile_of_head? fun c hc => ?_
  rw [head?_escaped hname hhead] at hc
  cases hc
  rfl

/-- A separator and an escaped path: the rule is for that path. -/
theorem parse_rootedEscaped (hname : name ≠ []) (hhead : name.head? ≠ some '/')
    (hlast : ∀ c ∈ name.getLast?, Text.isBlank c = false ∧ c ≠ '/') :
    Line.parse ('/' :: escaped name) = .rule ⟨literal name, true, false, false⟩ := by
  have hends : ('/' :: escaped name).getLast? = name.getLast? := by
    obtain ⟨c, hc⟩ : ∃ c, name.getLast? = some c := ⟨_, List.getLast?_eq_some_getLast hname⟩
    rw [List.getLast?_cons, escaped, getLast?_escapeWhere, hc]
    rfl
  have hdrop : ('/' :: escaped name).dropWhile (· == '/') = escaped name :=
    dropWhile_escaped hname hhead
  rw [parse_of_ends (List.cons_ne_nil _ _) (by rintro _ ⟨⟩; decide) (hends ▸ hlast), hdrop]
  exact congrArg (fun pattern => Line.rule ⟨pattern, true, false, false⟩) (normalize_escaped true hname)

/-- An escaped name: the rule is for that name at every depth. -/
theorem parse_escaped (hname : name ≠ []) (hslash : '/' ∉ name)
    (hlast : ∀ c ∈ name.getLast?, Text.isBlank c = false) :
    Line.parse (escaped name) = .rule ⟨everyDepth ++ literal name, false, false, false⟩ := by
  have hhead : name.head? ≠ some '/' := fun h => hslash (List.mem_of_head? h)
  have hback := head?_escaped hname hhead
  have hne : escaped name ≠ [] := by
    intro hnil
    rw [hnil] at hback
    cases hback
  have hends : ∀ c ∈ (escaped name).getLast?, Text.isBlank c = false ∧ c ≠ '/' := by
    rw [escaped, getLast?_escapeWhere]
    exact fun c hc => ⟨hlast c hc, fun hc' => hslash (hc' ▸ List.mem_of_getLast? hc)⟩
  have hplain : (escaped name).contains '/' = false := by
    rw [Bool.eq_false_iff, ne_eq, List.contains_iff_mem]
    exact notMem_escapeWhere hslash
  have hdeep : everyDepth.isPrefixOf (literal name) = false := by
    rw [Bool.eq_false_iff, ne_eq, List.isPrefixOf_iff_prefix]
    exact fun h => notMem_escapeWhere hslash (h.subset (by decide))
  rw [parse_of_ends hne (by rw [hback]; rintro _ ⟨⟩; decide) hends, dropWhile_escaped hname hhead, hback, hplain]
  refine congrArg (fun pattern => Line.rule ⟨pattern, false, false, false⟩)
    ((normalize_escaped false hname).trans ?_)
  unfold deepened
  rw [hdeep]
  rfl

end Lines

/-! ## What the rules match -/

section Globs

variable {scope : WildcardScope} {name text : Text}

/-- Alone, a rule that ignores files and directories alike has the verdict of its glob. -/
theorem overriding_single {r : Rule} (isDir : Bool) (hdir : r.dirOnly = false)
    (hnegation : r.negation = false) : overriding text isDir [r] false = r.fits text := by
  have happlies : r.applies text isDir = r.fits text := by
    rw [applies, hdir, Bool.false_and, Bool.not_false, Bool.and_true]
  rw [overriding, List.foldl_cons, List.foldl_nil, happlies, hnegation]
  cases r.fits text with
  | false => rfl
  | true => rfl

/-- The items of the glob of a name, a character each. -/
def characters (name : Text) : List Item :=
  name.map fun c => .one (.literal c)

theorem reads_literal (name : Text) (before : Option Char) :
    Reads before (literal name) (characters name) := by
  induction name generalizing before with
  | nil => exact .nil before
  | cons c name ih =>
      rw [literal, escapeWhere_cons]
      by_cases hc : isSpecial c = true
      · rw [if_pos hc]
        exact .one .escaped (ih _)
      · rw [if_neg hc]
        by_cases hcomma : c = ','
        · rw [hcomma]
          exact .comma (ih _)
        · refine .one (.ordinary ?_) (ih _)
          simp only [isSpecial, Bool.or_eq_true, beq_iff_eq, not_or] at hc
          simp [hc, hcomma]

theorem denoted_characters (name : Text) : denoted scope (characters name) = {name} := by
  induction name with
  | nil => rfl
  | cons c name ih =>
      rw [characters, List.map_cons, Glob.denoted_cons, ← characters, ih]
      ext w
      rw [Language.mem_mul]
      constructor
      · rintro ⟨_, rfl, _, rfl, rfl⟩
        rfl
      · rintro rfl
        exact ⟨[c], rfl, name, rfl, rfl⟩

theorem parse_literal (name : Text) :
    Glob.parse (literal name) = .ok ((characters name).map Item.piece) :=
  Glob.parse_of_reads (reads_literal name none)

/-- The rule for a path matches the path and nothing else. -/
theorem fits_literal {r : Rule} (h : r.pattern = literal name) : r.fits text = true ↔ text = name := by
  rw [fits, h, parse_literal]
  refine (Glob.isMatch_map_piece _ _).trans ?_
  rw [denoted_characters]
  rfl

theorem parse_deepLiteral (name : Text) :
    Glob.parse (everyDepth ++ literal name) =
      .ok ((.one .recursiveStart :: characters name).map Item.piece) :=
  Glob.parse_of_reads (.one (.recursiveStart (n := 2) (Nat.le_refl 2)) (reads_literal name _))

/-- The rule for a name matches the texts whose last component is the name. -/
theorem fits_deepLiteral {r : Rule} (h : r.pattern = everyDepth ++ literal name) (hname : '/' ∉ name) :
    r.fits text = true ↔ (text.splitOn '/').getLast? = some name := by
  rw [fits, h, parse_deepLiteral]
  refine (Glob.isMatch_map_piece _ _).trans ?_
  rw [Glob.denoted_cons, denoted_characters, Text.getLast?_splitOn_iff hname, Language.mem_mul]
  constructor
  · rintro ⟨a, rfl | rfl | ⟨u, rfl⟩, _, rfl, rfl⟩
    · exact Or.inl rfl
    · exact Or.inr ⟨[], rfl⟩
    · exact Or.inr ⟨u, by rw [List.append_assoc, List.singleton_append]⟩
  · rintro (rfl | ⟨u, rfl⟩)
    · exact ⟨[], Or.inl rfl, text, rfl, rfl⟩
    · exact ⟨u ++ ['/'], Or.inr (Or.inr ⟨u, rfl⟩), name, rfl, by
        rw [List.append_assoc, List.singleton_append]⟩

end Globs

end Rule

end IgnoreRules
