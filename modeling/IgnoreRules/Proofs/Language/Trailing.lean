import IgnoreRules.Proofs.Language.BlockScan
import IgnoreRules.Proofs.Language.Joined
import IgnoreRules.Proofs.Text.Ends
import IgnoreRules.Proofs.Text.Search

/-!
# Comments behind code

Where two slashes begin a comment line and a slash with a star a block, a line of code stays one when
two slashes and a text are put behind it.  The search for block markers does not stop at the slashes,
though: a marker in the text behind them opens a block all the same.  So a comment behind a line leaves
the counts of the lines above and of the line itself alone, and of those below as well unless it leaves
a block open; then they are counted as if they stood inside a block comment.

* `BlockMarkers.endsInside_trim`, `BlockMarkers.endsInside_append_cons` : the search for markers;
* `LanguageSyntax.classify_of_code`, `LanguageSyntax.classify_withComment` : a line of code;
* `LanguageSyntax.count_withComment`, `LanguageSyntax.count_trailing_opening` : the whole text.
-/

namespace IgnoreRules

/-! ## The search for markers -/

namespace BlockMarkers

variable {m : BlockMarkers} {inside : Bool} {t u v : Text} {c : Char}

/-- Where no marker can be found any more, nothing changes. -/
theorem endsInside_of_notInfix (h : ¬m.marker inside <:+: t) : m.endsInside inside t = inside := by
  rw [endsInside_eq, Text.afterFirst?_eq_none_iff.2 h]

/-- A text behind another without the marker that is looked for is searched as if it stood alone, if
no marker reaches over the character between them. -/
theorem endsInside_append_cons (hu : ¬m.marker inside <:+: u) (hc : c ∉ m.marker inside) :
    m.endsInside inside (u ++ c :: v) = m.endsInside inside v := by
  rw [endsInside_eq, Text.afterFirst?_append_cons hu hc, ← endsInside_eq]

/-- Markers without white space, none of them empty. -/
structure Solid (m : BlockMarkers) : Prop where
  marker_ne_nil : ∀ inside, m.marker inside ≠ []
  not_isBlank : ∀ inside, ∀ c ∈ m.marker inside, Text.isBlank c = false

theorem Solid.notMem (hm : m.Solid) (inside : Bool) (hv : ∀ c ∈ v, Text.isBlank c = true) :
    ∀ c ∈ v, c ∉ m.marker inside := by
  intro c hc hmarker
  have hblank := hv c hc
  rw [hm.not_isBlank inside c hmarker] at hblank
  cases hblank

theorem Solid.endsInside_append (hm : m.Solid) (hv : ∀ c ∈ v, Text.isBlank c = true) :
    m.endsInside inside (t ++ v) = m.endsInside inside t := by
  fun_induction endsInside m inside t with
  | case1 inside t hnone =>
      rw [endsInside_eq, Text.afterFirst?_append (hm.marker_ne_nil inside) (hm.notMem inside hv), hnone]
      rfl
  | case2 inside t rest hsome ih =>
      rw [endsInside_eq, Text.afterFirst?_append (hm.marker_ne_nil inside) (hm.notMem inside hv), hsome]
      exact ih

/-- White space at the ends of a text does not matter to the search for markers. -/
theorem Solid.endsInside_trim (hm : m.Solid) (inside : Bool) (t : Text) :
    m.endsInside inside (Text.trim t) = m.endsInside inside t := by
  obtain ⟨before, after, ht, hbefore, hafter⟩ := Text.exists_trim t
  calc m.endsInside inside (Text.trim t)
      = m.endsInside inside (Text.trim t ++ after) := (hm.endsInside_append hafter).symm
    _ = m.endsInside inside (before ++ (Text.trim t ++ after)) := by
          rw [endsInside_eq, endsInside_eq, Text.afterFirst?_append_of_notMem (hm.marker_ne_nil inside)
            (hm.notMem inside hbefore)]
    _ = m.endsInside inside t := by rw [← ht]

/-- A slash with a star on either side. -/
def starred : BlockMarkers :=
  ⟨['/', '*'], ['*', '/'], List.cons_ne_nil _ _⟩

theorem solid_starred : starred.Solid where
  marker_ne_nil inside := by
    cases inside with
    | true => exact List.cons_ne_nil _ _
    | false => exact List.cons_ne_nil _ _
  not_isBlank inside := by
    intro c hc
    have hmarker : c = '/' ∨ c = '*' := by
      cases inside with
      | true => simpa [marker, starred, or_comm] using hc
      | false => simpa [marker, starred] using hc
    rcases hmarker with rfl | rfl
    · decide
    · decide

end BlockMarkers

namespace LanguageSyntax

/-! ## Lines of code -/

/-- A line with a comment behind it. -/
def withComment (line comment : Text) : Text :=
  line ++ ' ' :: '/' :: '/' :: comment

/-- Only a line outside block comments that is not blank is one of code. -/
theorem outside_of_code {s : LanguageSyntax} {inside : Bool} {line : Text}
    (h : (s.classify inside line).1 = .code) : inside = false ∧ Text.trim line ≠ [] := by
  cases inside with
  | true => cases h
  | false =>
      refine ⟨rfl, ?_⟩
      intro hblank
      simp [classify, hblank] at h

variable (name : String) {front line back : Text}

/-- A line that is not blank and begins with no marker is code, and the markers in it are searched from
its beginning to its end. -/
theorem classify_of_code (hblank : Text.trim line ≠ []) (hopening : ¬['/', '*'] <+: Text.trim line)
    (hslashes : ¬['/', '/'] <+: Text.trim line) :
    (slashed name).classify false line = (.code, BlockMarkers.starred.endsInside false line) := by
  have hblock : (slashed name).opensBlock (Text.trim line) = false := by
    have hbegins : (slashed name).opensBlock (Text.trim line) = ['/', '*'].isPrefixOf (Text.trim line) := rfl
    rw [hbegins, ← Bool.not_eq_true, List.isPrefixOf_iff_prefix]
    exact hopening
  have hmarkers : (slashed name).lineMarkers.any (·.isPrefixOf (Text.trim line)) = false := by
    have hbegins : (slashed name).lineMarkers.any (·.isPrefixOf (Text.trim line)) =
        (['/', '/'].isPrefixOf (Text.trim line) || false) := rfl
    rw [hbegins, Bool.or_false, ← Bool.not_eq_true, List.isPrefixOf_iff_prefix]
    exact hslashes
  have hsearch : (slashed name).endsInside false (Text.trim line) =
      BlockMarkers.starred.endsInside false line :=
    BlockMarkers.solid_starred.endsInside_trim false line
  simp [classify, hblank, hblock, hmarkers, hsearch]

/-- What a line begins with, once it is trimmed, is still in the line itself when a comment is put
behind it. -/
theorem infix_of_prefix_trim {marker v : Text} (hblank : Text.trim line ≠ []) (hspace : ' ' ∉ marker)
    (h : marker <+: Text.trim (line ++ ' ' :: v)) : marker <:+: line := by
  have hcut : (line.dropWhile Text.isBlank).isEmpty = false := by
    rw [← Bool.not_eq_true, List.isEmpty_iff]
    intro hnil
    apply hblank
    rw [Text.trim, Text.trimWhile, hnil]
    rfl
  have hfront : (line ++ ' ' :: v).dropWhile Text.isBlank = line.dropWhile Text.isBlank ++ ' ' :: v := by
    simp [List.dropWhile_append, hcut]
  have hbegins : marker <+: line.dropWhile Text.isBlank ++ ' ' :: v := by
    rw [← hfront]
    exact h.trans (Text.prefix_trim _)
  have hkept : marker <+: line.dropWhile Text.isBlank := Text.prefix_of_prefix_append_cons hbegins hspace
  exact hkept.isInfix.trans (List.dropWhile_suffix _).isInfix

/-- A line of code without markers leaves no block comment open.  With a comment behind it, it is still
a line of code, and a block comment is open behind it if one is open behind the comment. -/
theorem classify_withComment (comment : Text) {inside : Bool}
    (hcode : ((slashed name).classify inside line).1 = .code)
    (hopening : ¬['/', '*'] <:+: line) (hslashes : ¬['/', '/'] <:+: line) :
    (slashed name).classify inside line = (.code, false) ∧
      (slashed name).classify inside (withComment line comment) =
        (.code, BlockMarkers.starred.endsInside false ('/' :: '/' :: comment)) := by
  obtain ⟨rfl, hblank⟩ := outside_of_code hcode
  have htrimmed : Text.trim line <:+: line :=
    (Text.prefix_trim line).isInfix.trans (List.dropWhile_suffix _).isInfix
  have hown : (slashed name).classify false line = (.code, BlockMarkers.starred.endsInside false line) := by
    apply classify_of_code name hblank
    · intro h
      exact hopening (h.isInfix.trans htrimmed)
    · intro h
      exact hslashes (h.isInfix.trans htrimmed)
  -- The comment does not make the line blank, for it has slashes in it.
  have hlong : Text.trim (withComment line comment) ≠ [] := by
    intro hnil
    obtain ⟨before, after, hline, hbefore, hafter⟩ := Text.exists_trim (withComment line comment)
    have hslash : '/' ∈ withComment line comment := by simp [withComment]
    rw [hnil, List.nil_append] at hline
    rw [hline] at hslash
    rcases List.mem_append.1 hslash with hmem | hmem
    · exact absurd (hbefore '/' hmem) (by decide)
    · exact absurd (hafter '/' hmem) (by decide)
  have hcommented : (slashed name).classify false (withComment line comment) =
      (.code, BlockMarkers.starred.endsInside false (withComment line comment)) := by
    apply classify_of_code name hlong
    · intro h
      exact hopening (infix_of_prefix_trim hblank (by decide) h)
    · intro h
      exact hslashes (infix_of_prefix_trim hblank (by decide) h)
  constructor
  · have hclosed : BlockMarkers.starred.endsInside false line = false :=
      BlockMarkers.endsInside_of_notInfix hopening
    rw [hown, hclosed]
  · -- No marker reaches over the blank in front of the slashes.
    have hspace : ' ' ∉ BlockMarkers.starred.marker false := by decide
    have hbehind : BlockMarkers.starred.endsInside false (withComment line comment) =
        BlockMarkers.starred.endsInside false ('/' :: '/' :: comment) :=
      BlockMarkers.endsInside_append_cons hopening hspace
    rw [hcommented, hbehind]

/-! ## Texts -/

/-- A text in which a line of code stands is counted in three parts: the lines above, the line, and the
lines below from what the line leaves open. -/
theorem count_line_of_code {s : LanguageSyntax} {opens : Bool}
    (hfront : ∀ c ∈ front.getLast?, Text.isLineEnd c = true)
    (hback : ∀ c ∈ back.head?, Text.isLineEnd c = true) (hline : ∀ c ∈ line, Text.isLineEnd c = false)
    (hcode : s.classify (s.leavesOpen front) line = (.code, opens)) :
    s.count (front ++ (line ++ back)) =
      s.count front + ⟨1, 0, 0, 1⟩ + (s.countFrom opens (Text.splitLines back).tail).1 := by
  have hne : line ≠ [] := by
    intro hnil
    have hblank := (outside_of_code (congrArg Prod.fst hcode)).2
    rw [hnil] at hblank
    exact hblank rfl
  have hone : (0 : LineCount).addLine .code = ⟨1, 0, 0, 1⟩ := rfl
  have hopen : (s.countFrom false (Text.splitLines front)).2 = s.leavesOpen front := rfl
  rw [count_eq, Text.splitLines_line hfront hback hline hne, countFrom_append, hopen, countFrom_cons, hcode,
    hone, ← add_assoc, count_eq]

/-- A comment is put behind a line of code that has no marker in it.  The lines above it, and the line
itself, count as they did, and the text has as many lines as before.  The lines below are counted from
what the comment leaves open, so that the whole count stays as it was if, and only if, theirs does, and
in any case if no block comment begins in the comment. -/
theorem count_withComment (comment : Text)
    (hfront : ∀ c ∈ front.getLast?, Text.isLineEnd c = true)
    (hback : ∀ c ∈ back.head?, Text.isLineEnd c = true) (hline : ∀ c ∈ line, Text.isLineEnd c = false)
    (hcomment : ∀ c ∈ comment, Text.isLineEnd c = false)
    (hcode : ((slashed name).classify ((slashed name).leavesOpen front) line).1 = .code)
    (hopening : ¬['/', '*'] <:+: line) (hslashes : ¬['/', '/'] <:+: line) :
    let s := slashed name
    let plain := front ++ (line ++ back)
    let commented := front ++ (withComment line comment ++ back)
    let below := (Text.splitLines back).tail
    let opens := BlockMarkers.starred.endsInside false ('/' :: '/' :: comment)
    s.count plain = s.count front + ⟨1, 0, 0, 1⟩ + (s.countFrom false below).1 ∧
      s.count commented = s.count front + ⟨1, 0, 0, 1⟩ + (s.countFrom opens below).1 ∧
      (s.count commented).lines = (s.count plain).lines ∧
      (s.count commented = s.count plain ↔ (s.countFrom opens below).1 = (s.countFrom false below).1) ∧
      (¬['/', '*'] <:+: '/' :: '/' :: comment → s.count commented = s.count plain) := by
  intro s plain commented below opens
  obtain ⟨hown, hbehind⟩ := classify_withComment name comment hcode hopening hslashes
  have hlong : ∀ c ∈ withComment line comment, Text.isLineEnd c = false := by
    intro c hc
    simp only [withComment, List.mem_append, List.mem_cons] at hc
    rcases hc with hc | rfl | rfl | rfl | hc
    · exact hline c hc
    · rfl
    · rfl
    · rfl
    · exact hcomment c hc
  have hplain : s.count plain = s.count front + ⟨1, 0, 0, 1⟩ + (s.countFrom false below).1 :=
    count_line_of_code hfront hback hline hown
  have hcommented : s.count commented = s.count front + ⟨1, 0, 0, 1⟩ + (s.countFrom opens below).1 :=
    count_line_of_code hfront hback hlong hbehind
  have hsame : s.count commented = s.count plain ↔
      (s.countFrom opens below).1 = (s.countFrom false below).1 := by
    rw [hplain, hcommented]
    exact add_right_inj _
  refine ⟨hplain, hcommented, ?_, hsame, ?_⟩
  · rw [hplain, hcommented]
    simp only [LineCount.add_def, lines_countFrom]
  · intro hplainComment
    have hclosed : opens = false := BlockMarkers.endsInside_of_notInfix hplainComment
    exact hsame.2 (by rw [hclosed])

/-- A comment behind the first line below a block comment; its text closes a block but opens none. -/
theorem count_withComment_closing :
    let s := slashed "JavaScript"
    let front := "/* one\n   two */\n".toList
    let line := "  x = 1;".toList
    let comment := " end */ ".toList
    let back := "\r\n\ny = 2; /* three\n".toList
    (s.classify (s.leavesOpen front) line).1 = .code ∧
      s.count (front ++ (line ++ back)) = ⟨2, 2, 1, 5⟩ ∧
      s.count (front ++ (withComment line comment ++ back)) = ⟨2, 2, 1, 5⟩ := by
  intro s front line comment back
  have hcode : (s.classify (s.leavesOpen front) line).1 = .code := by decide +kernel
  have hplain : s.count (front ++ (line ++ back)) = ⟨2, 2, 1, 5⟩ := by decide +kernel
  have hfront : front.getLast? = some '\n' := by decide
  have hback : back.head? = some '\r' := by decide
  obtain ⟨-, -, -, -, hsame⟩ := count_withComment "JavaScript" comment
    (by rw [hfront]; rintro _ ⟨⟩; rfl) (by rw [hback]; rintro _ ⟨⟩; rfl)
    (Text.unbroken_of_all (by decide)) (Text.unbroken_of_all (by decide)) hcode
    (by decide +kernel) (by decide +kernel)
  exact ⟨hcode, hplain, (hsame (by decide +kernel)).trans hplain⟩

/-- A comment that names some files opens a block: the line below is no longer counted as code. -/
theorem count_trailing_opening :
    let s := slashed "JavaScript"
    let line := "x = 1;".toList
    let comment := " src/*.js".toList
    let back := "\ny = 2;\n".toList
    (s.classify false line).1 = .code ∧ ¬['/', '*'] <:+: line ∧ ¬['*', '/'] <:+: line ∧
      ¬['/', '/'] <:+: line ∧ (∀ c ∈ comment, Text.isLineEnd c = false) ∧
      s.count (line ++ back) = ⟨2, 0, 0, 2⟩ ∧
      s.count (withComment line comment ++ back) = ⟨1, 1, 0, 2⟩ := by
  intro s line comment back
  have hcode : (s.classify false line).1 = .code := by decide +kernel
  have hplain : s.count (line ++ back) = ⟨2, 0, 0, 2⟩ := by decide +kernel
  have hcommented : s.count (withComment line comment ++ back) = ⟨1, 1, 0, 2⟩ := by decide +kernel
  exact ⟨hcode, by decide +kernel, by decide +kernel, by decide +kernel,
    Text.unbroken_of_all (by decide), hplain, hcommented⟩

end LanguageSyntax

end IgnoreRules
