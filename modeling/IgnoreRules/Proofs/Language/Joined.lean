import IgnoreRules.Proofs.Language.LineCount
import IgnoreRules.Proofs.Text.Lines

/-!
# Counting texts that follow one another

All that counting carries from one line to the next is whether a block comment is open.  A text that
ends its last line and leaves no block comment open can therefore be counted on its own, whatever
follows it.  Where it leaves one open, the lines that follow are comments, blank ones included, up to
and including the first that leaves none open; from there on counting starts over.

* `LanguageSyntax.countFrom` : counting lines, inside a block comment or outside;
* `LanguageSyntax.countFrom_append` : lines that follow others;
* `LanguageSyntax.countFrom_inside`, `LanguageSyntax.countFrom_closing` : lines that start inside;
* `LanguageSyntax.count_joined` : the count of two texts, one behind the other.
-/

namespace IgnoreRules

namespace LineCount

/-- What a line adds does not depend on the lines counted before. -/
theorem addLine_eq (n : LineCount) (kind : LineKind) :
    n.addLine kind = n + (0 : LineCount).addLine kind := by
  cases kind with
  | code => simp [addLine, add_def, zero_def]
  | comment => simp [addLine, add_def, zero_def]
  | blank => simp [addLine, add_def, zero_def]

theorem lines_addLine (n : LineCount) (kind : LineKind) : (n.addLine kind).lines = n.lines + 1 := by
  cases kind with
  | code => rfl
  | comment => rfl
  | blank => rfl

end LineCount

namespace LanguageSyntax

variable (s : LanguageSyntax)

/-- The count of some lines and whether a block comment is open behind them, by whether one is open in
front of them. -/
def countFrom (inside : Bool) (lines : List Text) : LineCount × Bool :=
  lines.foldl s.countLine (0, inside)

/-- Whether a block comment is open behind a text. -/
def leavesOpen (t : Text) : Bool :=
  (s.countFrom false (Text.splitLines t)).2

/-- Whether a line that starts inside a block comment leaves one open. -/
def keepsOpen (line : Text) : Bool :=
  (s.classify true line).2

theorem count_eq (t : Text) : s.count t = (s.countFrom false (Text.splitLines t)).1 :=
  rfl

/-! ## One line after the other -/

/-- Counting on from a count adds to it what counting from nothing gives. -/
theorem foldl_countLine (n : LineCount) (inside : Bool) (lines : List Text) :
    lines.foldl s.countLine (n, inside) =
      (n + (s.countFrom inside lines).1, (s.countFrom inside lines).2) := by
  induction lines generalizing n inside with
  | nil => simp [countFrom]
  | cons line lines ih =>
      have hstep : ∀ m : LineCount, s.countLine (m, inside) line =
          (m.addLine (s.classify inside line).1, (s.classify inside line).2) := fun _ => rfl
      -- The first line is added to `n` on one side and to nothing on the other.
      have hfirst : s.countFrom inside (line :: lines) =
          ((0 : LineCount).addLine (s.classify inside line).1 +
              (s.countFrom (s.classify inside line).2 lines).1,
            (s.countFrom (s.classify inside line).2 lines).2) := by
        rw [countFrom, List.foldl_cons, hstep, ih]
      rw [List.foldl_cons, hstep, ih, hfirst, LineCount.addLine_eq n, add_assoc]

theorem countFrom_cons (inside : Bool) (line : Text) (lines : List Text) :
    s.countFrom inside (line :: lines) =
      ((0 : LineCount).addLine (s.classify inside line).1 +
          (s.countFrom (s.classify inside line).2 lines).1,
        (s.countFrom (s.classify inside line).2 lines).2) :=
  s.foldl_countLine _ _ lines

/-- Lines that follow others are counted from where these leave off. -/
theorem countFrom_append (inside : Bool) (front back : List Text) :
    s.countFrom inside (front ++ back) =
      ((s.countFrom inside front).1 + (s.countFrom (s.countFrom inside front).2 back).1,
        (s.countFrom (s.countFrom inside front).2 back).2) := by
  calc s.countFrom inside (front ++ back)
      = back.foldl s.countLine (s.countFrom inside front) := List.foldl_append
    _ = _ := s.foldl_countLine _ _ back

theorem lines_countFrom (inside : Bool) (lines : List Text) :
    (s.countFrom inside lines).1.lines = lines.length := by
  induction lines generalizing inside with
  | nil => rfl
  | cons line lines ih =>
      have hfirst : ((0 : LineCount).addLine (s.classify inside line).1).lines = 1 :=
        LineCount.lines_addLine 0 _
      rw [countFrom_cons]
      simp [LineCount.add_def, hfirst, ih, add_comm]

/-! ## Inside a block comment -/

variable {s} {front lines rest : List Text} {line a b : Text}

theorem countFrom_inside_cons (line : Text) (lines : List Text) :
    s.countFrom true (line :: lines) =
      (⟨0, 1, 0, 1⟩ + (s.countFrom (s.keepsOpen line) lines).1, (s.countFrom (s.keepsOpen line) lines).2) :=
  s.countFrom_cons true line lines

/-- As long as every line keeps a block comment open, all of them are comments. -/
theorem countFrom_inside (h : ∀ line ∈ lines, s.keepsOpen line = true) :
    s.countFrom true lines = (⟨0, lines.length, 0, lines.length⟩, true) := by
  induction lines with
  | nil => rfl
  | cons line lines ih =>
      have hline : s.keepsOpen line = true := h line List.mem_cons_self
      have hlines := ih fun l hl => h l (List.mem_cons_of_mem line hl)
      rw [countFrom_inside_cons, hline, hlines]
      simp [LineCount.add_def, add_comm]

/-- The line that leaves no block comment open is the last that counts as a comment because of it. -/
theorem countFrom_closing (hfront : ∀ l ∈ front, s.keepsOpen l = true) (hline : s.keepsOpen line = false) :
    (s.countFrom true (front ++ line :: rest)).1 =
      ⟨0, front.length + 1, 0, front.length + 1⟩ + (s.countFrom false rest).1 := by
  have hcomments : (⟨0, front.length, 0, front.length⟩ + ⟨0, 1, 0, 1⟩ : LineCount) =
      ⟨0, front.length + 1, 0, front.length + 1⟩ := rfl
  rw [countFrom_append, countFrom_inside hfront, countFrom_inside_cons, hline, ← add_assoc, hcomments]

/-! ## Two texts -/

/-- A text behind one that ends its last line is counted from where that leaves off. -/
theorem count_append (ha : a.getLast? = some '\n') :
    s.count (a ++ b) = s.count a + (s.countFrom (s.leavesOpen a) (Text.splitLines b)).1 := by
  obtain ⟨front, rfl⟩ := List.getLast?_eq_some_iff.1 ha
  -- The first text ends its last line, so no line of it runs on into the second.
  have hlines : Text.splitLines (front ++ ['\n'] ++ b) =
      Text.splitLines (front ++ ['\n']) ++ Text.splitLines b := by
    rw [List.append_assoc]
    exact Text.splitLines_append_lineFeed front b
  rw [count_eq, hlines, countFrom_append]
  rfl

/-- Every text has as many lines as it is cut into, each of one kind.  Behind a text that ends its last
line, another adds the count it has on its own if no block comment is open in between.  If one is open,
the lines of the other text are comments up to and including the first that leaves none open, or all of
them; the lines behind that one are counted as if they stood alone. -/
theorem count_joined (s : LanguageSyntax) :
    (∀ t, (s.count t).lines = (Text.splitLines t).length ∧
      (s.count t).code + (s.count t).comment + (s.count t).blank = (s.count t).lines) ∧
    ∀ a b, a.getLast? = some '\n' →
      (s.leavesOpen a = false → s.count (a ++ b) = s.count a + s.count b) ∧
      (s.leavesOpen a = true →
        (∀ front line rest, Text.splitLines b = front ++ line :: rest →
          (∀ l ∈ front, s.keepsOpen l = true) → s.keepsOpen line = false →
          s.count (a ++ b) = s.count a + ⟨0, front.length + 1, 0, front.length + 1⟩ +
            (s.countFrom false rest).1) ∧
        ((∀ line ∈ Text.splitLines b, s.keepsOpen line = true) →
          s.count (a ++ b) =
            s.count a + ⟨0, (Text.splitLines b).length, 0, (Text.splitLines b).length⟩)) := by
  constructor
  · intro t
    exact ⟨s.lines_countFrom false _, s.balanced_count t⟩
  · intro a b ha
    refine ⟨?_, ?_⟩
    · intro hclosed
      rw [count_append ha, hclosed]
      rfl
    · intro hopen
      rw [count_append ha, hopen]
      refine ⟨?_, ?_⟩
      · intro front line rest hb hfront hline
        rw [hb, countFrom_closing hfront hline, add_assoc]
      · intro hall
        rw [countFrom_inside hall]

/-- A text that ends inside a block comment, and one behind it with a blank line in that comment. -/
theorem count_joined_inside :
    let s := LanguageSyntax.make "Python" ["#"] (some ("\"\"\"", "\"\"\""))
    s.leavesOpen "x = 1\n\"\"\"one\n".toList = true ∧
      s.count ("x = 1\n\"\"\"one\n".toList ++ "\n  two\n\"\"\" # three\n\ny = 2\n".toList) =
        ⟨1, 1, 0, 2⟩ + ⟨0, 3, 0, 3⟩ + ⟨1, 0, 1, 2⟩ := by
  intro s
  have hopen : s.leavesOpen "x = 1\n\"\"\"one\n".toList = true := by decide +kernel
  have hfront : s.count "x = 1\n\"\"\"one\n".toList = ⟨1, 1, 0, 2⟩ := by decide +kernel
  have hrest : (s.countFrom false ["".toList, "y = 2".toList]).1 = ⟨1, 0, 1, 2⟩ := by decide +kernel
  obtain ⟨hcomments, -⟩ := ((count_joined s).2 "x = 1\n\"\"\"one\n".toList
    "\n  two\n\"\"\" # three\n\ny = 2\n".toList rfl).2 hopen
  refine ⟨hopen, ?_⟩
  rw [hcomments ["".toList, "  two".toList] "\"\"\" # three".toList ["".toList, "y = 2".toList]
    (by decide +kernel) (by decide +kernel) (by decide +kernel), hfront, hrest]
  rfl

end LanguageSyntax

end IgnoreRules
