import IgnoreRules.Text.Lines

/-!
# Cutting texts into lines

A line feed cuts a text into two parts whose lines do not depend on each other: whatever stands behind
it neither joins the last line in front of it nor is joined by it.  The only trace it leaves is that a
part without any last line of its own may end in an empty one.

* `Text.splitLines_append_lineFeed` : the lines of two texts with a line feed between them;
* `Text.splitLines_lineFeed` : what a line feed adds to the lines in front of it;
* `Text.splitLines_unifyReturns`, `Text.withReturns` : line endings in other spellings;
* `Text.splitLines_of_unbroken`, `Text.not_isLineEnd_of_mem_splitLines` : lines are not cut again;
* `Text.splitLines_line` : a line inside a text.
-/

namespace IgnoreRules

namespace Text

/-! ## Lines, character by character -/

/-- Puts a character in front of some lines, where a line ending begins a new one. -/
def addChar (c : Char) (lines : List Text) : List Text :=
  if isLineEnd c then [] :: lines else consLine c lines

theorem splitLines_eq_foldr (t : Text) : splitLines t = (joinReturnFeed t).foldr addChar [] :=
  rfl

theorem addChar_lineEnd {c : Char} (h : isLineEnd c = true) (lines : List Text) :
    addChar c lines = [] :: lines :=
  if_pos h

theorem addChar_ordinary {c : Char} (h : isLineEnd c = false) (lines : List Text) :
    addChar c lines = consLine c lines := by
  have hordinary : ¬isLineEnd c = true := by
    rw [h]
    exact Bool.false_ne_true
  exact if_neg hordinary

theorem addChar_cons (c : Char) (line : Text) (lines after : List Text) :
    addChar c (line :: lines ++ after) = addChar c (line :: lines) ++ after := by
  unfold addChar
  split
  · rfl
  · rfl

theorem foldr_addChar_ne_nil (t line : Text) (lines : List Text) :
    t.foldr addChar (line :: lines) ≠ [] := by
  induction t with
  | nil => exact List.cons_ne_nil line lines
  | cons c t ih =>
      rcases List.exists_cons_of_ne_nil ih with ⟨first, rest, hlines⟩
      have hfold : (c :: t).foldr addChar (line :: lines) = addChar c (first :: rest) := by
        rw [List.foldr_cons, hlines]
      rw [hfold]
      unfold addChar
      split
      · exact List.cons_ne_nil _ _
      · exact List.cons_ne_nil _ _

/-- Characters in front of some lines only change the first of them. -/
theorem foldr_addChar_cons (t line : Text) (after : List Text) :
    t.foldr addChar (line :: after) = t.foldr addChar [line] ++ after := by
  induction t with
  | nil => rfl
  | cons c t ih =>
      rcases List.exists_cons_of_ne_nil (foldr_addChar_ne_nil t line []) with ⟨first, rest, hlines⟩
      calc (c :: t).foldr addChar (line :: after)
          = addChar c (t.foldr addChar [line] ++ after) := by rw [List.foldr_cons, ih]
        _ = addChar c (first :: rest ++ after) := by rw [hlines]
        _ = addChar c (first :: rest) ++ after := addChar_cons c first rest after
        _ = (c :: t).foldr addChar [line] ++ after := by rw [List.foldr_cons, hlines]

/-- A line that ends where a text ends is there already, or it is empty and comes last. -/
theorem foldr_addChar_blank (t : Text) :
    t.foldr addChar [[]] = t.foldr addChar [] ∨ t.foldr addChar [[]] = t.foldr addChar [] ++ [[]] := by
  induction t with
  | nil => exact Or.inr rfl
  | cons c t ih =>
      rcases ih with hsame | hblank
      · exact Or.inl (congrArg (addChar c) hsame)
      · have hfold : (c :: t).foldr addChar [[]] = addChar c (t.foldr addChar [] ++ [[]]) :=
          congrArg (addChar c) hblank
        cases hlines : t.foldr addChar [] with
        | nil =>
            -- Nothing follows: an ordinary character fills the empty line, an ending leaves it.
            rw [hfold, hlines, List.foldr_cons, hlines]
            cases hend : isLineEnd c with
            | true => exact Or.inr (by rw [addChar_lineEnd hend, addChar_lineEnd hend]; rfl)
            | false => exact Or.inl (by rw [addChar_ordinary hend, addChar_ordinary hend]; rfl)
        | cons first rest =>
            rw [hfold, hlines, List.foldr_cons, hlines]
            exact Or.inr (addChar_cons c first rest [[]])

/-! ## Carriage returns -/

/-- Without a carriage return there is nothing to drop. -/
theorem joinReturnFeed_of_no_return {t : Text} (h : '\r' ∉ t) : joinReturnFeed t = t := by
  induction t with
  | nil => rfl
  | cons c t ih =>
      have hc : c ≠ '\r' := fun hc => h (hc ▸ List.mem_cons_self ..)
      have ht : joinReturnFeed t = t := ih fun hmem => h (List.mem_cons_of_mem c hmem)
      rw [joinReturnFeed, if_neg fun hpair => hc hpair.1, ht]

/-- Two texts keep their carriage returns side by side unless the pair of a return and a feed is
formed between them. -/
theorem joinReturnFeed_append {a b : Text} (h : ¬(a.getLast? = some '\r' ∧ b.head? = some '\n')) :
    joinReturnFeed (a ++ b) = joinReturnFeed a ++ joinReturnFeed b := by
  induction a with
  | nil => rfl
  | cons c a ih =>
      cases a with
      | nil =>
          have hkept : ¬(c = '\r' ∧ b.head? = some '\n') := by
            intro hpair
            exact h ⟨congrArg some hpair.1, hpair.2⟩
          have halone : ¬(c = '\r' ∧ ([] : Text).head? = some '\n') := by
            intro hpair
            cases hpair.2
          simp only [List.cons_append, List.nil_append, joinReturnFeed, if_neg hkept, if_neg halone]
      | cons d a =>
          have htail : joinReturnFeed (d :: a ++ b) = joinReturnFeed (d :: a) ++ joinReturnFeed b := by
            apply ih
            intro hpair
            exact h ⟨by rw [List.getLast?_cons_cons]; exact hpair.1, hpair.2⟩
          have hcons : ∀ t : Text, joinReturnFeed (c :: d :: t) =
              if c = '\r' ∧ some d = some '\n' then joinReturnFeed (d :: t)
              else c :: joinReturnFeed (d :: t) := fun t => rfl
          rw [List.cons_append, List.cons_append, hcons, hcons, ← List.cons_append, htail]
          split
          · rfl
          · rfl

theorem joinReturnFeed_lineFeed (t : Text) : joinReturnFeed ('\n' :: t) = '\n' :: joinReturnFeed t := by
  have hfeed : ¬('\n' = '\r' ∧ t.head? = some '\n') := by
    intro hpair
    exact absurd hpair.1 (by decide)
  simp only [joinReturnFeed, if_neg hfeed]

theorem joinReturnFeed_return_lineFeed (t : Text) :
    joinReturnFeed ('\r' :: '\n' :: t) = '\n' :: joinReturnFeed t := by
  have hpair : '\r' = '\r' ∧ ('\n' :: t).head? = some '\n' := ⟨rfl, rfl⟩
  rw [joinReturnFeed, if_pos hpair, joinReturnFeed_lineFeed]

/-- In front of a line feed a text stays what it is, but for a carriage return at its end. -/
theorem exists_joinReturnFeed_lineFeed (a : Text) :
    ∃ front, (∀ b, joinReturnFeed (a ++ '\n' :: b) = front ++ '\n' :: joinReturnFeed b) ∧
      (joinReturnFeed a = front ∨ joinReturnFeed a = front ++ ['\r']) := by
  by_cases hreturn : a.getLast? = some '\r'
  · rcases List.getLast?_eq_some_iff.1 hreturn with ⟨init, rfl⟩
    have hinit : ∀ b, joinReturnFeed (init ++ '\r' :: b) =
        joinReturnFeed init ++ joinReturnFeed ('\r' :: b) := by
      intro b
      apply joinReturnFeed_append
      intro hpair
      exact absurd (Option.some.inj hpair.2) (by decide)
    refine ⟨joinReturnFeed init, ?_, Or.inr (hinit [])⟩
    intro b
    calc joinReturnFeed (init ++ ['\r'] ++ '\n' :: b)
        = joinReturnFeed (init ++ '\r' :: '\n' :: b) := by rw [List.append_assoc]; rfl
      _ = joinReturnFeed init ++ joinReturnFeed ('\r' :: '\n' :: b) := hinit ('\n' :: b)
      _ = joinReturnFeed init ++ '\n' :: joinReturnFeed b := by rw [joinReturnFeed_return_lineFeed]
  · refine ⟨joinReturnFeed a, ?_, Or.inl rfl⟩
    intro b
    rw [joinReturnFeed_append fun hpair => hreturn hpair.1, joinReturnFeed_lineFeed]

/-! ## A line feed between two texts -/

/-- A line feed keeps the lines on its two sides apart. -/
theorem splitLines_append_lineFeed (a b : Text) :
    splitLines (a ++ '\n' :: b) = splitLines (a ++ ['\n']) ++ splitLines b := by
  rcases exists_joinReturnFeed_lineFeed a with ⟨front, hfront, -⟩
  have hlines : ∀ b, splitLines (a ++ '\n' :: b) = front.foldr addChar [[]] ++ splitLines b := by
    intro b
    calc splitLines (a ++ '\n' :: b)
        = (front ++ '\n' :: joinReturnFeed b).foldr addChar [] := by
            rw [splitLines_eq_foldr, hfront]
      _ = front.foldr addChar ([] :: splitLines b) := by
            rw [List.foldr_append, List.foldr_cons, addChar_lineEnd (by decide), splitLines_eq_foldr]
      _ = front.foldr addChar [[]] ++ splitLines b := foldr_addChar_cons front [] _
  have halone : splitLines (a ++ ['\n']) = front.foldr addChar [[]] := by
    rw [hlines []]
    exact List.append_nil _
  rw [hlines b, halone]

/-- A line feed at the end of a text ends its last line, or adds an empty one. -/
theorem splitLines_lineFeed (a : Text) :
    splitLines (a ++ ['\n']) = splitLines a ∨ splitLines (a ++ ['\n']) = splitLines a ++ [[]] := by
  rcases exists_joinReturnFeed_lineFeed a with ⟨front, hfront, hown⟩
  have hended : splitLines (a ++ ['\n']) = front.foldr addChar [[]] := by
    rw [splitLines_eq_foldr, hfront, List.foldr_append]
    rfl
  rcases hown with hsame | hreturn
  · have hopen : splitLines a = front.foldr addChar [] := by rw [splitLines_eq_foldr, hsame]
    rw [hended, hopen]
    exact foldr_addChar_blank front
  -- The carriage return has ended the last line already.
  · have hclosed : splitLines a = front.foldr addChar [[]] := by
      rw [splitLines_eq_foldr, hreturn, List.foldr_append]
      rfl
    exact Or.inl (hended.trans hclosed.symm)

/-- A carriage return at the end of a text ends its last line, or adds an empty one. -/
theorem splitLines_return (a : Text) :
    splitLines (a ++ ['\r']) = splitLines a ∨ splitLines (a ++ ['\r']) = splitLines a ++ [[]] := by
  have hapart : joinReturnFeed (a ++ ['\r']) = joinReturnFeed a ++ ['\r'] := by
    apply joinReturnFeed_append
    intro hpair
    exact absurd (Option.some.inj hpair.2) (by decide)
  have hended : splitLines (a ++ ['\r']) = (joinReturnFeed a).foldr addChar [[]] := by
    rw [splitLines_eq_foldr, hapart, List.foldr_append]
    rfl
  rw [hended, splitLines_eq_foldr]
  exact foldr_addChar_blank (joinReturnFeed a)

/-! ## Other spellings of line endings -/

/-- A text with a carriage return in front of every line feed. -/
def withReturns (t : Text) : Text :=
  t.flatMap fun c => if c = '\n' then ['\r', '\n'] else [c]

theorem withReturns_lineFeed (t : Text) : withReturns ('\n' :: t) = '\r' :: '\n' :: withReturns t :=
  rfl

theorem withReturns_cons {c : Char} (h : c ≠ '\n') (t : Text) :
    withReturns (c :: t) = c :: withReturns t := by
  simp [withReturns, h]

/-- A carriage return ends a line just as a line feed does. -/
theorem addChar_unified (c : Char) (lines : List Text) :
    addChar (if c = '\r' then '\n' else c) lines = addChar c lines := by
  by_cases h : c = '\r'
  · subst h
    rfl
  · rw [if_neg h]

/-- Unifying line endings leaves the lines as they are. -/
theorem splitLines_unifyReturns (t : Text) : splitLines (unifyReturns t) = splitLines t := by
  have hnone : '\r' ∉ unifyReturns t := by
    intro hmem
    obtain ⟨c, -, hc⟩ := List.mem_map.1 hmem
    split at hc
    · exact absurd hc (by decide)
    · next hother => exact hother hc
  calc splitLines (unifyReturns t)
      = (unifyReturns t).foldr addChar [] := by
          rw [splitLines_eq_foldr, joinReturnFeed_of_no_return hnone]
    _ = (joinReturnFeed t).foldr (fun c lines => addChar (if c = '\r' then '\n' else c) lines) [] :=
          List.foldr_map
    _ = (joinReturnFeed t).foldr addChar [] := by simp only [addChar_unified]
    _ = splitLines t := (splitLines_eq_foldr t).symm

/-! ## Lines of lines -/

theorem not_isLineEnd_of_mem_foldr {t line : Text} (hmem : line ∈ t.foldr addChar []) :
    ∀ c ∈ line, isLineEnd c = false := by
  induction t generalizing line with
  | nil => cases hmem
  | cons d t ih =>
      rw [List.foldr_cons] at hmem
      intro c hc
      cases hend : isLineEnd d with
      | true =>
          rw [addChar_lineEnd hend] at hmem
          rcases List.mem_cons.1 hmem with rfl | hrest
          · cases hc
          · exact ih hrest c hc
      | false =>
          rw [addChar_ordinary hend] at hmem
          cases hlines : t.foldr addChar [] with
          | nil =>
              rw [hlines] at hmem
              have hline : line = [d] := List.mem_singleton.1 hmem
              rw [hline] at hc
              rw [List.mem_singleton.1 hc]
              exact hend
          | cons first rest =>
              rw [hlines] at hmem ih
              rcases List.mem_cons.1 hmem with rfl | hrest
              · rcases List.mem_cons.1 hc with rfl | hc
                · exact hend
                · exact ih (List.mem_cons_self ..) c hc
              · exact ih (List.mem_cons_of_mem _ hrest) c hc

/-- No line holds a line ending. -/
theorem not_isLineEnd_of_mem_splitLines {t line : Text} (hmem : line ∈ splitLines t) :
    ∀ c ∈ line, isLineEnd c = false :=
  not_isLineEnd_of_mem_foldr hmem

theorem joinReturnFeed_of_unbroken {t : Text} (h : ∀ c ∈ t, isLineEnd c = false) :
    joinReturnFeed t = t := by
  apply joinReturnFeed_of_no_return
  intro hreturn
  exact absurd (h '\r' hreturn) (by decide)

/-- A text without line endings is a single line, or none if it is empty. -/
theorem splitLines_of_unbroken {t : Text} (h : ∀ c ∈ t, isLineEnd c = false) :
    splitLines t = if t = [] then [] else [t] := by
  rw [splitLines_eq_foldr, joinReturnFeed_of_unbroken h]
  induction t with
  | nil => rfl
  | cons c t ih =>
      have hc : isLineEnd c = false := h c (List.mem_cons_self ..)
      have ht := ih fun d hd => h d (List.mem_cons_of_mem c hd)
      rw [List.foldr_cons, ht, if_neg (List.cons_ne_nil c t), addChar_ordinary hc]
      cases t with
      | nil => rfl
      | cons d t => rfl

/-! ## A line inside a text -/

theorem unbroken_of_all {t : Text} (h : t.all (!isLineEnd ·) = true) : ∀ c ∈ t, isLineEnd c = false := by
  simpa using h

theorem getLast?_joinReturnFeed (t : Text) : (joinReturnFeed t).getLast? = t.getLast? := by
  induction t with
  | nil => rfl
  | cons c t ih =>
      unfold joinReturnFeed
      split
      · next hpair =>
          cases t with
          | nil => cases hpair.2
          | cons d t => rw [ih, List.getLast?_cons_cons]
      · rw [List.getLast?_cons, List.getLast?_cons, ih]

/-- In front of a line ending there is a line to which nothing was added. -/
theorem exists_splitLines_of_head? {t : Text} (h : ∀ c ∈ t.head?, isLineEnd c = true) :
    splitLines t = [] ∨ ∃ rest, splitLines t = [] :: rest := by
  have hjoined : ∀ c ∈ (joinReturnFeed t).head?, isLineEnd c = true := by
    cases t with
    | nil => exact h
    | cons c t =>
        unfold joinReturnFeed
        split
        · next hpair =>
            -- What is left of the pair is its line feed.
            obtain ⟨u, rfl⟩ := List.head?_eq_some_iff.1 hpair.2
            rw [joinReturnFeed_lineFeed]
            simp [isLineEnd]
        · exact h
  rw [splitLines_eq_foldr]
  cases hlines : joinReturnFeed t with
  | nil => exact Or.inl rfl
  | cons c u =>
      have hc : isLineEnd c = true := hjoined c (by rw [hlines]; rfl)
      exact Or.inr ⟨u.foldr addChar [], by rw [List.foldr_cons, addChar_lineEnd hc]⟩

/-- The characters of a line are added to the line that they stand in front of. -/
theorem foldr_addChar_line {line : Text} (hline : ∀ c ∈ line, isLineEnd c = false) (hne : line ≠ [])
    {lines : List Text} (hlines : lines = [] ∨ ∃ rest, lines = [] :: rest) :
    line.foldr addChar lines = line :: lines.tail := by
  induction line with
  | nil => exact absurd rfl hne
  | cons c line ih =>
      have hc : isLineEnd c = false := hline c List.mem_cons_self
      rw [List.foldr_cons]
      by_cases hempty : line = []
      · rw [hempty, List.foldr_nil, addChar_ordinary hc]
        rcases hlines with rfl | ⟨rest, rfl⟩
        · rfl
        · rfl
      · have hrest := ih (fun d hd => hline d (List.mem_cons_of_mem c hd)) hempty
        rw [hrest, addChar_ordinary hc]
        rfl

/-- A line that stands between the beginning or a line ending and the end or a line ending is one of
the lines of the text.  The lines above it do not depend on it, and neither do those below. -/
theorem splitLines_line {front line back : Text} (hfront : ∀ c ∈ front.getLast?, isLineEnd c = true)
    (hback : ∀ c ∈ back.head?, isLineEnd c = true) (hline : ∀ c ∈ line, isLineEnd c = false)
    (hne : line ≠ []) :
    splitLines (front ++ (line ++ back)) = splitLines front ++ line :: (splitLines back).tail := by
  -- No pair of a return and a feed is formed where the line begins or where it ends.
  have hjoined : joinReturnFeed (front ++ (line ++ back)) =
      joinReturnFeed front ++ (line ++ joinReturnFeed back) := by
    rw [joinReturnFeed_append, joinReturnFeed_append, joinReturnFeed_of_unbroken hline]
    · intro hpair
      have hreturn := hline '\r' (List.mem_of_getLast? hpair.1)
      exact absurd hreturn (by decide)
    · intro hpair
      obtain ⟨c, rest, hcons⟩ := List.exists_cons_of_ne_nil hne
      rw [hcons] at hpair hline
      have hfeed : c = '\n' := Option.some.inj hpair.2
      exact absurd (hline c List.mem_cons_self) (by rw [hfeed]; decide)
  have habove : (joinReturnFeed front).foldr addChar [line] = splitLines front ++ [line] := by
    rcases List.eq_nil_or_concat (joinReturnFeed front) with hnone | ⟨init, c, hinit⟩
    · rw [splitLines_eq_foldr, hnone]
      rfl
    · have hc : isLineEnd c = true := by
        apply hfront
        rw [← getLast?_joinReturnFeed, hinit]
        simp
      rw [splitLines_eq_foldr, hinit, List.concat_eq_append, List.foldr_append, List.foldr_append]
      simp only [List.foldr_cons, List.foldr_nil, addChar_lineEnd hc]
      exact foldr_addChar_cons init [] [line]
  calc splitLines (front ++ (line ++ back))
      = (joinReturnFeed front).foldr addChar (line.foldr addChar (splitLines back)) := by
          rw [splitLines_eq_foldr, hjoined, List.foldr_append, List.foldr_append, splitLines_eq_foldr]
    _ = (joinReturnFeed front).foldr addChar (line :: (splitLines back).tail) := by
          rw [foldr_addChar_line hline hne (exists_splitLines_of_head? hback)]
    _ = splitLines front ++ line :: (splitLines back).tail := by
          rw [foldr_addChar_cons, habove, List.append_assoc, List.singleton_append]

end Text

end IgnoreRules
