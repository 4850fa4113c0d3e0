import IgnoreRules.Proofs.Rule.Line
import IgnoreRules.Proofs.Rule.Projection

/-!
# The normal form of patterns

Whatever a line says, the pattern of its rule is in one of few forms.  A line that names something
without a separator states a rule for that name at every depth.  A line that names something with a
separator, but none in front, states a rule that begins with a recursive component, the line's own if
it begins with one.  And no pattern ends in everything inside a directory: one component more is asked
for there.

* `Rule.named_of_trimmed` : what a line names, step by step;
* `Rule.strictlyInside`, `Rule.normalize_eq_strictlyInside` : the last step to a pattern;
* `Rule.pattern_of_rootless`, `Rule.prefix_pattern`, `Rule.pattern_of_unanchored` : the patterns of lines;
* `Rule.pattern_normal` : the normal form.
-/

namespace IgnoreRules

namespace Rule

variable {line raw body t : Text} {r : Rule}

/-! ## What a line names -/

/-- What a line names is left of it when exclamation marks are cut off in front and separators behind,
with white space trimmed after each. -/
theorem named_of_trimmed (htrim : Text.trim line = line) :
    named line =
      Text.trim (Text.dropEndWhile (· == '/') (Text.trim (line.dropWhile (· == '!')))) := by
  have hfront : unnegated line = Text.trim (line.dropWhile (· == '!')) := by
    unfold unnegated
    split
    · rfl
    · next hmark =>
        rw [Text.singleton_isPrefixOf, beq_iff_eq] at hmark
        rw [Text.dropWhile_of_head?_ne hmark, htrim]
  unfold named
  rw [← hfront]
  split
  · rfl
  · next hmark =>
      rw [Text.singleton_isSuffixOf, beq_iff_eq] at hmark
      rw [Text.dropEndWhile_of_getLast?_ne hmark, trim_unnegated htrim]

/-- A rule is anchored by any separator in what its line names. -/
theorem anchored_ofTrimmed_eq_false_iff : (ofTrimmed line).anchored = false ↔ '/' ∉ named line := by
  rw [ofTrimmed_eq]
  dsimp only
  cases named line with
  | nil => simp
  | cons c rest =>
      by_cases hc : c = '/'
      · simp [hc]
      · simp [hc, Ne.symm hc]

/-! ## From a body to a pattern -/

/-- A body for everything inside a directory, with a component asked for there; any other as it is. -/
def strictlyInside (t : Text) : Text :=
  if everythingInside.isSuffixOf t then t ++ ['/', '*'] else t

theorem normalize_eq_strictlyInside (rooted : Bool) (body : Text) :
    normalize rooted body = strictlyInside (deepened rooted (unescape body)) :=
  rfl

theorem prefix_strictlyInside (t : Text) : t <+: strictlyInside t := by
  unfold strictlyInside
  split
  · exact List.prefix_append t _
  · exact List.prefix_rfl

theorem not_suffix_strictlyInside (t : Text) : ¬everythingInside <:+ strictlyInside t := by
  unfold strictlyInside
  split
  · next hinside =>
      -- The one text ends in two stars, the other in a separator and a star.
      rintro ⟨front, hends⟩
      have hsplit : (front ++ ['/']) ++ ['*', '*'] = t ++ ['/', '*'] := by
        simpa [everythingInside] using hends
      exact absurd (List.append_inj' hsplit rfl).2 (by decide)
  · next hother => rwa [List.isSuffixOf_iff_suffix] at hother

theorem deepened_of_begins (rooted : Bool) (h : everyDepth <+: t) : deepened rooted t = t := by
  unfold deepened
  rw [List.isPrefixOf_iff_prefix.2 h, Bool.not_true, Bool.and_false, if_neg Bool.false_ne_true]

theorem deepened_of_not_begins (h : ¬everyDepth <+: t) : deepened false t = everyDepth ++ t := by
  rw [← List.isPrefixOf_iff_prefix] at h
  simp [deepened, h]

theorem prefix_deepened (t : Text) : everyDepth <+: deepened false t := by
  by_cases h : everyDepth <+: t
  · rw [deepened_of_begins false h]
    exact h
  · rw [deepened_of_not_begins h]
    exact List.prefix_append everyDepth t

theorem prefix_normalize (body : Text) : everyDepth <+: normalize false body := by
  rw [normalize_eq_strictlyInside]
  exact (prefix_deepened _).trans (prefix_strictlyInside _)

/-! ## Bodies without separators -/

/-- Behind the component for every depth a name is everything inside only if it is two stars. -/
theorem suffix_everyDepth_append_iff (h : '/' ∉ t) :
    everythingInside <:+ everyDepth ++ t ↔ t = ['*', '*'] := by
  constructor
  · rintro ⟨front, hends⟩
    have hsplit : ['*', '*'] ++ '/' :: t = front ++ '/' :: ['*', '*'] := hends.symm
    exact ((List.append_cons_inj_of_notMem (by decide) h).1 hsplit).2.2
  · rintro rfl
    exact ⟨['*', '*'], rfl⟩

theorem normalize_of_notMem (h : '/' ∉ body) :
    normalize false body =
      if unescape body = ['*', '*'] then "**/**/*".toList else everyDepth ++ unescape body := by
  -- Unescaping brings in no separator, so the body cannot begin with a component of its own.
  have hplain : '/' ∉ unescape body := notMem_unescape h
  have hshallow : ¬everyDepth <+: unescape body := fun hdeep => hplain (hdeep.subset (by decide))
  rw [normalize_eq_strictlyInside, deepened_of_not_begins hshallow]
  unfold strictlyInside
  simp only [List.isSuffixOf_iff_suffix, suffix_everyDepth_append_iff hplain]
  split
  · next hstars =>
      rw [hstars]
      rfl
  · rfl

/-! ## The pattern of a line -/

/-- A line that names no separator in front states a rule with the normal form of what it names. -/
theorem pattern_of_rootless (h : Line.parse raw = .rule r)
    (hnamed : (named (Text.trim raw)).head? ≠ some '/') :
    r.pattern = normalize false (named (Text.trim raw)) := by
  obtain ⟨-, -, rfl⟩ := Line.parse_eq_rule_iff.1 h
  have hrooted : ((named (Text.trim raw)).head? == some '/') = false := by simpa using hnamed
  simp only [ofTrimmed_eq, hrooted, Text.dropWhile_of_head?_ne hnamed]

theorem prefix_pattern (h : Line.parse raw = .rule r)
    (hnamed : (named (Text.trim raw)).head? ≠ some '/') : everyDepth <+: r.pattern := by
  rw [pattern_of_rootless h hnamed]
  exact prefix_normalize _

theorem pattern_of_unanchored (h : Line.parse raw = .rule r) (hanchored : r.anchored = false) :
    '/' ∉ unescape (named (Text.trim raw)) ∧
      r.pattern = if unescape (named (Text.trim raw)) = ['*', '*'] then "**/**/*".toList
        else everyDepth ++ unescape (named (Text.trim raw)) := by
  have hplain : '/' ∉ named (Text.trim raw) := by
    obtain ⟨-, -, rfl⟩ := Line.parse_eq_rule_iff.1 h
    exact anchored_ofTrimmed_eq_false_iff.1 hanchored
  have hrootless : (named (Text.trim raw)).head? ≠ some '/' :=
    fun hhead => hplain (List.mem_of_mem_head? hhead)
  refine ⟨notMem_unescape hplain, ?_⟩
  rw [pattern_of_rootless h hrootless, normalize_of_notMem hplain]

theorem not_suffix_pattern (h : Line.parse raw = .rule r) : ¬everythingInside <:+ r.pattern := by
  obtain ⟨-, -, rfl⟩ := Line.parse_eq_rule_iff.1 h
  rw [ofTrimmed_eq]
  exact not_suffix_strictlyInside _

/-- The body of a line is left of it without white space at its ends, without exclamation marks in front
and without separators behind.  A rule is anchored by any separator in the body; without one its pattern
is a name behind a recursive component, or everything inside of everything.  If the body does not begin
with a separator the pattern begins with a recursive component, and none is put there where the body
without its needless escapes begins with one already.  No pattern ends in everything inside a directory. -/
theorem pattern_normal (h : Line.parse raw = .rule r) :
    let body := Text.trim (Text.dropEndWhile (· == '/')
      (Text.trim ((Text.trim raw).dropWhile (· == '!'))))
    (r.anchored = false ↔ '/' ∉ body) ∧
      (r.anchored = false →
        (∃ name, '/' ∉ name ∧ r.pattern = everyDepth ++ name) ∨ r.pattern = "**/**/*".toList) ∧
      (body.head? ≠ some '/' → everyDepth <+: r.pattern ∧
        (everyDepth <+: unescape body → r.pattern = strictlyInside (unescape body)) ∧
        (¬everyDepth <+: unescape body → r.pattern = strictlyInside (everyDepth ++ unescape body))) ∧
      ¬everythingInside <:+ r.pattern := by
  intro body
  have hbody : named (Text.trim raw) = body := named_of_trimmed (Text.trim_trim raw)
  refine ⟨?_, ?_, ?_, not_suffix_pattern h⟩
  · obtain ⟨-, -, rfl⟩ := Line.parse_eq_rule_iff.1 h
    rw [anchored_ofTrimmed_eq_false_iff, hbody]
  · intro hanchored
    obtain ⟨hplain, hpattern⟩ := pattern_of_unanchored h hanchored
    split at hpattern
    · exact Or.inr hpattern
    · exact Or.inl ⟨_, hplain, hpattern⟩
  · intro hrootless
    rw [← hbody] at hrootless ⊢
    have hpattern := pattern_of_rootless h hrootless
    refine ⟨prefix_pattern h hrootless, ?_, ?_⟩
    · intro hdeep
      rw [hpattern, normalize_eq_strictlyInside, deepened_of_begins false hdeep]
    · intro hshallow
      rw [hpattern, normalize_eq_strictlyInside, deepened_of_not_begins hshallow]

/-- Two stars alone, and a negated line that begins with a recursive component once its escapes are
dropped. -/
theorem pattern_normal_hidden :
    (∃ r, Line.parse " **/".toList = .rule r ∧ r.anchored = false ∧
      ((∃ name, '/' ∉ name ∧ r.pattern = everyDepth ++ name) ∨ r.pattern = "**/**/*".toList)) ∧
    ∃ r, Line.parse "!! **\\/a\\b/**\n".toList = .rule r ∧ r.anchored = true ∧
      r.pattern = strictlyInside "**/ab/**".toList ∧ ¬everythingInside <:+ r.pattern := by
  have hstars : Line.parse " **/".toList = .rule ⟨"**/**/*".toList, false, true, false⟩ := by decide
  have hnegated : Line.parse "!! **\\/a\\b/**\n".toList =
      .rule ⟨"**/ab/**/*".toList, true, false, true⟩ := by
    decide
  obtain ⟨-, hname, -, -⟩ := pattern_normal hstars
  obtain ⟨-, -, hdeep, hends⟩ := pattern_normal hnegated
  obtain ⟨-, hkept, -⟩ := hdeep (by decide)
  exact ⟨⟨_, hstars, rfl, hname rfl⟩, _, hnegated, rfl, hkept (by decide), hends⟩

end Rule

end IgnoreRules
