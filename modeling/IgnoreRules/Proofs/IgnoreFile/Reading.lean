import IgnoreRules.Proofs.FileSystem.Writing
import IgnoreRules.Proofs.IgnoreFile.Validation

/-!
# Files that are read in full

An ignore file is read in full when it is UTF-8, is not too large and has not too many patterns.  What
its patterns are does not matter.  Then its lines are those of the text that was written, however the
line endings are spelled, and taking the lines together and apart again changes no rule.

* `IgnoreFile.Holds` : that something is such a file, and the text it holds;
* `IgnoreFile.isComplete_ofNode_iff` : what is read in full;
* `IgnoreFile.lines_ofNode` : the lines that are read;
* `IgnoreFile.load_of_written` : a text, written to a file and loaded.
-/

namespace IgnoreRules

namespace IgnoreFile

/-- Something in a file system is a file that can be read in full, and this is the text it holds. -/
structure Holds (node : Node) (content : Text) : Prop where
  file : ∃ bytes, node = .file bytes ∧ bytes.size ≤ maxBytes ∧ Text.decode? bytes = some content
  few : RuleSet.ruleCount (Text.splitLines content) ≤ maxPatterns

/-! ## Counting patterns -/

section Counting

variable {path : Path} {content : Text}

/-- A text is inspected to its end if and only if it has not too many patterns. -/
theorem isComplete_ofText_iff :
    (ofText path content).isComplete = true ↔
      RuleSet.ruleCount (Text.splitLines content) ≤ maxPatterns := by
  unfold isComplete
  rcases ofText_cases path content with ⟨hfew, hfull⟩ | ⟨front, line, back, hlines, hline, hcount, hstopped⟩
  · rw [hfull, fatalProblems_inspected]
    exact iff_of_true rfl hfew
  · -- The line that stopped the inspection states one rule more than allowed.
    have hmany : maxPatterns < RuleSet.ruleCount (Text.splitLines content) := by
      rw [hlines, ruleCount_append, ruleCount_cons_of_pattern hline, hcount]
      omega
    rw [hstopped, fatalProblems_inspected]
    exact iff_of_false Bool.false_ne_true (Nat.not_le.2 hmany)

end Counting

/-! ## What a path leads to -/

section Nodes

variable {files : FileSystem} {path : Path} {node : Node} {content : Text}

theorem read_of_node (h : files.node path = .ok node) : read files path = .ok (ofNode path node) := by
  unfold read
  rw [h]

theorem ofNode_of_holds (h : Holds node content) :
    ofNode path node = ofText path (Text.unifyReturns content) := by
  obtain ⟨bytes, rfl, hsize, hdecoded⟩ := h.file
  simp [ofNode, Nat.not_lt.2 hsize, hdecoded]

/-- What is read in full is a file that holds a text, and nothing else. -/
theorem isComplete_ofNode_iff : (ofNode path node).isComplete = true ↔ ∃ content, Holds node content := by
  constructor
  · intro hcomplete
    cases node with
    | folder inside => cases hcomplete
    | file bytes =>
        by_cases hlarge : maxBytes < bytes.size
        · simp only [ofNode, if_pos hlarge] at hcomplete
          cases hcomplete
        · simp only [ofNode, if_neg hlarge] at hcomplete
          cases hdecoded : Text.decode? bytes with
          | none =>
              rw [hdecoded] at hcomplete
              cases hcomplete
          | some content =>
              rw [hdecoded] at hcomplete
              have hfew := isComplete_ofText_iff.1 hcomplete
              rw [Text.splitLines_unifyReturns] at hfew
              exact ⟨content, ⟨bytes, rfl, Nat.not_lt.1 hlarge, hdecoded⟩, hfew⟩
  · rintro ⟨content, h⟩
    rw [ofNode_of_holds h, isComplete_ofText_iff, Text.splitLines_unifyReturns]
    exact h.few

/-- The lines that are read are those of the text that the file holds. -/
theorem lines_ofNode (h : Holds node content) : (ofNode path node).lines = Text.splitLines content := by
  have hcomplete : (ofText path (Text.unifyReturns content)).isComplete = true := by
    rw [← ofNode_of_holds h]
    exact isComplete_ofNode_iff.2 ⟨content, h⟩
  rw [ofNode_of_holds h, (ofText_of_isComplete hcomplete).1, Text.splitLines_unifyReturns]

/-- The lines of a text, joined again, state the rules of the text. -/
theorem ofText_text_ofNode (h : Holds node content) :
    Rule.ofText (ofNode path node).text = Rule.ofText content := by
  have hunbroken : ∀ line ∈ (ofNode path node).lines, ∀ c ∈ line, Text.isLineEnd c = false := by
    intro line hline
    rw [lines_ofNode h] at hline
    exact Text.not_isLineEnd_of_mem_splitLines hline
  calc Rule.ofText (ofNode path node).text
      = Rule.ofLines (ofNode path node).lines := Rule.ofText_joinLines hunbroken
    _ = Rule.ofText content := congrArg Rule.ofLines (lines_ofNode h)

end Nodes

/-! ## Writing and loading -/

section Written

variable {files files' : FileSystem} {path : Path} {t : Text}

/-- A text within the limits, written to a file, is what the file holds. -/
theorem exists_holds_of_write (h : files.write path (Text.encode t) = .ok files')
    (hsize : Text.byteLength t ≤ maxBytes)
    (hfew : RuleSet.ruleCount (Text.splitLines t) ≤ maxPatterns) :
    ∃ node, files'.node path = .ok node ∧ Holds node t := by
  have hnode := FileSystem.read_eq_ok_iff.1 (FileSystem.read_of_write h)
  exact ⟨_, hnode, ⟨_, rfl, hsize, Text.decode?_encode t⟩, hfew⟩

/-- A text within the limits that is written to a file and loaded is read in full, line by line as it
was; its lines, its lines joined to a text, and the text that was written state the same rules.  Nor
does it matter for the rules of any text whether its lines end in line feeds or in pairs of a carriage
return and a line feed. -/
theorem load_of_written (t : Text) :
    (Text.byteLength t ≤ maxBytes → RuleSet.ruleCount (Text.splitLines t) ≤ maxPatterns →
      ∀ (w : World) (path : Path) (files : FileSystem),
        w.files.write path (Text.encode t) = .ok files →
        ∃ f, (load path { w with files := files }).1 = .ok f ∧ f.isComplete = true ∧
          f.lines = Text.splitLines t ∧
          Rule.ofLines (Text.splitLines f.text) = Rule.ofLines (Text.splitLines t) ∧
          Rule.ofLines f.lines = Rule.ofLines (Text.splitLines t)) ∧
    ∀ root, RuleSet.ofText root (Text.withReturns t) = RuleSet.ofText root t := by
  constructor
  · intro hsize hfew w path files hwrite
    obtain ⟨node, hnode, hholds⟩ := exists_holds_of_write hwrite hsize hfew
    refine ⟨ofNode path node, ?_, isComplete_ofNode_iff.2 ⟨t, hholds⟩, lines_ofNode hholds,
      ofText_text_ofNode hholds, ?_⟩
    · rw [load_fst]
      exact read_of_node hnode
    · rw [lines_ofNode hholds]
  · intro root
    calc RuleSet.ofText root (Text.withReturns t)
        = RuleSet.ofRules root (Rule.ofText (Text.withReturns t)) := RuleSet.ofText_eq_ofRules root _
      _ = RuleSet.ofRules root (Rule.ofText t) := by rw [Rule.ofText_withReturns]
      _ = RuleSet.ofText root t := (RuleSet.ofText_eq_ofRules root t).symm

/-- A byte order mark, all kinds of line endings and an empty line at the end: the lines that come back
are those that were written. -/
theorem load_of_written_mixed :
    ∃ (w : World) (files : FileSystem) (f : IgnoreFile),
      w.files.write (Path.parse "f".toList)
        (Text.encode "\uFEFF*.o\r\nb/\r\r!c\u2028\x7b\n\n".toList) = .ok files ∧
      (load (Path.parse "f".toList) { w with files := files }).1 = .ok f ∧
      f.lines = ["\uFEFF*.o".toList, "b/".toList, [], "!c".toList, "\x7b".toList, []] := by
  have hsize : Text.byteLength "\uFEFF*.o\r\nb/\r\r!c\u2028\x7b\n\n".toList ≤ maxBytes := by
    decide +kernel
  have hfew : RuleSet.ruleCount (Text.splitLines "\uFEFF*.o\r\nb/\r\r!c\u2028\x7b\n\n".toList) ≤
      maxPatterns := by
    decide +kernel
  have hlines : Text.splitLines "\uFEFF*.o\r\nb/\r\r!c\u2028\x7b\n\n".toList =
      ["\uFEFF*.o".toList, "b/".toList, [], "!c".toList, "\x7b".toList, []] := by
    decide +kernel
  obtain ⟨w, hfiles⟩ : ∃ w : World, w.files = ⟨.empty, []⟩ :=
    ⟨.ofFiles ⟨.empty, []⟩, rfl⟩
  obtain ⟨files, hwrite⟩ : ∃ files, w.files.write (Path.parse "f".toList)
      (Text.encode "\uFEFF*.o\r\nb/\r\r!c\u2028\x7b\n\n".toList) = .ok files := by
    rw [hfiles]
    exact ⟨_, rfl⟩
  obtain ⟨f, hf, -, hflines, -⟩ := (load_of_written _).1 hsize hfew w _ files hwrite
  exact ⟨w, files, f, hwrite, hf, hflines.trans hlines⟩

end Written

end IgnoreFile

end IgnoreRules
