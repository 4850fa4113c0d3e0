import IgnoreRules.Proofs.IgnoreFile.Reading

/-!
# What a loaded file accounts for

Every line that is read from a file is counted as one kind of line, pattern lines are listed without the
white space around them, and problems and doubts follow the lines they are about.  A file with too many
patterns is read up to the first of those that are too many; the only fatal problem is this one, and it
comes last.

* `IgnoreFile.sum_tallyOf` : the kinds of lines add up to the lines that were read;
* `IgnoreFile.pairwise_stopped`, `IgnoreFile.pairwise_doubtsFrom` : problems and doubts in the order of
  the lines;
* `IgnoreFile.load_accounts` : what is loaded from a file with a text.
-/

namespace IgnoreRules

namespace IgnoreFile

/-! ## Kinds of lines -/

theorem kind_counted_once (line : Line) :
    (if decide (line = .blank) = true then 1 else 0) + (if decide (line = .comment) = true then 1 else 0) +
      (if line.rule?.isSome = true then 1 else 0) = 1 := by
  cases line with
  | blank => rfl
  | comment => rfl
  | rule r => rfl

/-- Every line is counted as one kind. -/
theorem sum_tallyOf (total : Nat) (entries : List Entry) :
    (tallyOf total entries).blank + (tallyOf total entries).comment + (tallyOf total entries).pattern =
      entries.length := by
  induction entries with
  | nil => rfl
  | cons e entries ih =>
      have hfirst := kind_counted_once e.line
      simp only [tallyOf, List.countP_cons, List.length_cons] at ih ⊢
      omega

theorem sum_tally_inspected (path : Path) (total : Nat) (read : List Text) (stop : List Problem) :
    (inspected path total read stop).tally.blank + (inspected path total read stop).tally.comment +
      (inspected path total read stop).tally.pattern = read.length := by
  have hlength : (numbered 0 read).length = read.length := by simp [numbered]
  exact (sum_tallyOf total (numbered 0 read)).trans hlength

theorem length_patterns_inspected (path : Path) (total : Nat) (read : List Text) (stop : List Problem) :
    (inspected path total read stop).patterns.length = RuleSet.ruleCount read := by
  calc (inspected path total read stop).patterns.length
      = (read.filter Line.isPattern).length := List.length_map _
    _ = RuleSet.ruleCount read := List.countP_eq_length_filter.symm

/-! ## The order of problems and doubts -/

section Order

variable {start : Nat} {lines : List Text} {p : Problem} {d : Doubt} {e : Entry}

theorem line_le_of_mem_problemsFrom (h : p ∈ problemsFrom start lines) : p.line ≤ start + lines.length := by
  obtain ⟨i, line, fault, hline, -, rfl⟩ := mem_problemsFrom_iff.1 h
  have hi : i < lines.length := (List.getElem?_eq_some_iff.1 hline).1
  show start + i + 1 ≤ start + lines.length
  omega

/-- The problem that stops the inspection lies behind those of the lines that were read. -/
theorem pairwise_stopped (front : List Text) (cause : Cause) :
    (problemsFrom 0 front ++ [(⟨front.length + 1, [], cause⟩ : Problem)]).Pairwise
      fun p q => p.line < q.line := by
  rw [List.pairwise_append]
  refine ⟨pairwise_problemsFrom 0 front, List.pairwise_singleton _ _, ?_⟩
  intro p hp q hq
  have hline : p.line ≤ 0 + front.length := line_le_of_mem_problemsFrom hp
  rw [List.mem_singleton.1 hq]
  show p.line < front.length + 1
  omega

theorem line_of_mem_doubts (h : d ∈ e.doubts) : d.line = e.number := by
  unfold Entry.doubts at h
  split at h
  · obtain ⟨concern, -, rfl⟩ := List.mem_map.1 h
    rfl
  · cases h

theorem lt_line_of_mem_doubts (h : d ∈ (numbered start lines).flatMap Entry.doubts) : start < d.line := by
  obtain ⟨e, he, hd⟩ := List.mem_flatMap.1 h
  obtain ⟨⟨line, i⟩, hi, rfl⟩ := List.mem_map.1 he
  have hstart : start ≤ i := (List.mem_zipIdx hi).1
  rw [line_of_mem_doubts hd]
  show start < i + 1
  omega

/-- Doubts come in the order of their lines; a line may give rise to several. -/
theorem pairwise_doubtsFrom (start : Nat) (lines : List Text) :
    ((numbered start lines).flatMap Entry.doubts).Pairwise fun d d' => d.line ≤ d'.line := by
  induction lines generalizing start with
  | nil => exact .nil
  | cons line lines ih =>
      -- The doubts about one line share its number, and all that come later have a greater one.
      rw [numbered_cons, List.flatMap_cons, List.pairwise_append]
      refine ⟨?_, ih (start + 1), ?_⟩
      · apply List.pairwise_of_forall_mem_list
        intro d hd d' hd'
        exact ((line_of_mem_doubts hd).trans (line_of_mem_doubts hd').symm).le
      · intro d hd d' hd'
        have hfirst : d.line = start + 1 := line_of_mem_doubts hd
        have hlater : start + 1 < d'.line := lt_line_of_mem_doubts hd'
        omega

end Order

/-! ## Loading -/

section Loading

variable {w : World} {path : Path} {bytes : ByteArray} {content : Text}

theorem load_of_read (hread : w.files.read path = .ok bytes) (hsize : bytes.size ≤ maxBytes)
    (hdecoded : Text.decode? bytes = some content) :
    (load path w).1 = .ok (ofText path (Text.unifyReturns content)) := by
  have hnode : w.files.node path = .ok (.file bytes) := FileSystem.read_eq_ok_iff.1 hread
  rw [load_fst, read_of_node hnode]
  simp [ofNode, Nat.not_lt.2 hsize, hdecoded]

/-- What is loaded from a file of at most the allowed size with a text in it.  If not too many of its
lines state a rule, all of them are read, and each is counted as one kind.  Otherwise the one fatal
problem comes last and is at the line that states one rule more than allowed; exactly the lines in front
of it are read, counted by kind and searched for patterns, while all lines count towards the total.
Problems come in the order of their lines, one for each at most, and so do doubts. -/
theorem load_accounts (hread : w.files.read path = .ok bytes) (hsize : bytes.size ≤ maxBytes)
    (hdecoded : Text.decode? bytes = some content) :
    ∃ f, (load path w).1 = .ok f ∧
      f.tally.total = (Text.splitLines (Text.unifyReturns content)).length ∧
      f.patterns = (f.lines.filter Line.isPattern).map Text.trim ∧
      (RuleSet.ruleCount (Text.splitLines (Text.unifyReturns content)) ≤ maxPatterns →
        f.isComplete = true ∧ f.lines = Text.splitLines (Text.unifyReturns content) ∧
        f.tally.blank + f.tally.comment + f.tally.pattern = f.tally.total) ∧
      (maxPatterns < RuleSet.ruleCount (Text.splitLines (Text.unifyReturns content)) →
        ∃ front line back,
          Text.splitLines (Text.unifyReturns content) = front ++ line :: back ∧
          Line.isPattern line = true ∧ RuleSet.ruleCount front = maxPatterns ∧
          f.fatalProblems = [⟨front.length + 1, [], .tooManyPatterns⟩] ∧
          f.problems.getLast? = some ⟨front.length + 1, [], .tooManyPatterns⟩ ∧
          f.lines = front ∧ f.patterns.length = maxPatterns ∧
          f.tally.blank + f.tally.comment + f.tally.pattern = f.lines.length) ∧
      f.problems.Pairwise (fun p q => p.line < q.line) ∧
      f.doubts.Pairwise (fun d d' => d.line ≤ d'.line) := by
  refine ⟨_, load_of_read hread hsize hdecoded, ?_⟩
  rcases ofText_cases path (Text.unifyReturns content) with
    ⟨hfew, hfull⟩ | ⟨front, line, back, hlines, hline, hcount, hstopped⟩
  · rw [hfull]
    refine ⟨rfl, rfl, ?_, ?_, ?_, pairwise_doubtsFrom 0 _⟩
    · intro _
      refine ⟨?_, rfl, sum_tally_inspected path _ _ _⟩
      rw [isComplete, fatalProblems_inspected]
      rfl
    · intro hmany
      exact absurd hfew (Nat.not_le.2 hmany)
    · show (problemsFrom 0 _ ++ []).Pairwise _
      rw [List.append_nil]
      exact pairwise_problemsFrom 0 _
  · rw [hstopped]
    refine ⟨rfl, rfl, ?_, ?_, pairwise_stopped front _, pairwise_doubtsFrom 0 front⟩
    · intro hfew
      -- The line that stopped the inspection states one rule more than allowed.
      rw [hlines, ruleCount_append, ruleCount_cons_of_pattern hline, hcount] at hfew
      omega
    · intro _
      refine ⟨front, line, back, hlines, hline, hcount, ?_, List.getLast?_concat, rfl, ?_,
        sum_tally_inspected path _ _ _⟩
      · rw [fatalProblems_inspected]
        rfl
      · rw [length_patterns_inspected, hcount]

/-! ### A file with too many patterns -/

/-- A comment, `n` patterns, a comment and a blank line, and two more patterns. -/
def crowded (n : Nat) : Text :=
  "#\n".toList ++ ((List.replicate n "a\n".toList).flatten ++ "#\n\nb\nc".toList)

theorem splitLines_crowded (n : Nat) :
    Text.splitLines (crowded n) =
      (['#'] :: List.replicate n ['a'] ++ [['#'], []]) ++ ['b'] :: [['c']] := by
  have hcopies : Text.splitLines ((List.replicate n "a\n".toList).flatten ++ "#\n\nb\nc".toList) =
      List.replicate n ['a'] ++ [['#'], [], ['b'], ['c']] := by
    induction n with
    | zero => decide
    | succ n ih =>
        calc Text.splitLines ((List.replicate (n + 1) "a\n".toList).flatten ++ "#\n\nb\nc".toList)
            = Text.splitLines ['a', '\n'] ++
                Text.splitLines ((List.replicate n "a\n".toList).flatten ++ "#\n\nb\nc".toList) :=
              Text.splitLines_append_lineFeed ['a'] _
          _ = List.replicate (n + 1) ['a'] ++ [['#'], [], ['b'], ['c']] := by
              rw [ih]
              rfl
  calc Text.splitLines (crowded n)
      = Text.splitLines ['#', '\n'] ++
          Text.splitLines ((List.replicate n "a\n".toList).flatten ++ "#\n\nb\nc".toList) :=
        Text.splitLines_append_lineFeed ['#'] _
    _ = (['#'] :: List.replicate n ['a'] ++ [['#'], []]) ++ ['b'] :: [['c']] := by
        rw [hcopies, List.append_assoc]
        rfl

theorem ruleCount_crowded (n : Nat) :
    RuleSet.ruleCount (['#'] :: List.replicate n ['a'] ++ [['#'], []]) = n := by
  have hcopies : RuleSet.ruleCount (List.replicate n ['a']) = n := by
    rw [RuleSet.ruleCount, List.countP_replicate]
    exact if_pos (by decide)
  rw [ruleCount_append, ruleCount_cons_of_other (by decide), hcopies]
  rfl

theorem length_crowded (n : Nat) :
    (['#'] :: List.replicate n ['a'] ++ [['#'], []] : List Text).length = n + 3 := by
  simp

theorem byteLength_crowded (n : Nat) : Text.byteLength (crowded n) = 2 * n + 8 := by
  have hcopies : Text.byteLength (List.replicate n "a\n".toList).flatten = 2 * n := by
    induction n with
    | zero => decide +kernel
    | succ n ih =>
        have hline : Text.byteLength "a\n".toList = 2 := by decide +kernel
        rw [List.replicate_succ, List.flatten_cons, Text.byteLength_append, hline, ih]
        omega
  have hfirst : Text.byteLength "#\n".toList = 2 := by decide +kernel
  have hlast : Text.byteLength "#\n\nb\nc".toList = 6 := by decide +kernel
  rw [crowded, Text.byteLength_append, Text.byteLength_append, hcopies, hfirst, hlast]
  omega

/-- There is one line behind a given number of patterns that is a pattern itself. -/
theorem front_eq_of_ruleCount {front back front' back' : List Text} {line line' : Text}
    (h : front ++ line :: back = front' ++ line' :: back') (hline : Line.isPattern line = true)
    (hline' : Line.isPattern line' = true)
    (hcount : RuleSet.ruleCount front = RuleSet.ruleCount front') : front = front' := by
  -- What one front has more than the other would begin with a pattern.
  rcases List.append_eq_append_iff.1 h with ⟨more, rfl, hmore⟩ | ⟨more, rfl, hmore⟩
  · cases more with
    | nil => rw [List.append_nil]
    | cons first more =>
        obtain ⟨rfl, -⟩ := List.cons.inj hmore
        rw [ruleCount_append, ruleCount_cons_of_pattern hline] at hcount
        omega
  · cases more with
    | nil => rw [List.append_nil]
    | cons first more =>
        obtain ⟨rfl, -⟩ := List.cons.inj hmore
        rw [ruleCount_append, ruleCount_cons_of_pattern hline'] at hcount
        omega

/-- Reading stops at the first pattern too many, behind the comment and the blank line in front of it. -/
theorem load_accounts_crowded :
    ∃ (w : World) (f : IgnoreFile), w.files.read (Path.parse "f".toList) =
        .ok (Text.encode (crowded maxPatterns)) ∧
      (load (Path.parse "f".toList) w).1 = .ok f ∧
      f.fatalProblems = [⟨maxPatterns + 4, [], .tooManyPatterns⟩] ∧
      f.lines = ['#'] :: List.replicate maxPatterns ['a'] ++ [['#'], []] ∧
      f.tally.total = maxPatterns + 5 := by
  obtain ⟨w, hfiles⟩ : ∃ w : World,
      w.files = ⟨.file "f".toList (Text.encode (crowded maxPatterns)) .empty, []⟩ :=
    ⟨.ofFiles _, rfl⟩
  have hread : w.files.read (Path.parse "f".toList) = .ok (Text.encode (crowded maxPatterns)) := by
    rw [hfiles]
    rfl
  have hsize : (Text.encode (crowded maxPatterns)).size ≤ maxBytes := by
    have hlength := byteLength_crowded maxPatterns
    unfold Text.byteLength at hlength
    rw [hlength]
    decide
  have hlines : Text.splitLines (Text.unifyReturns (crowded maxPatterns)) =
      (['#'] :: List.replicate maxPatterns ['a'] ++ [['#'], []]) ++ ['b'] :: [['c']] := by
    rw [Text.splitLines_unifyReturns, splitLines_crowded]
  have hcount := ruleCount_crowded maxPatterns
  have hover : maxPatterns < RuleSet.ruleCount
      ((['#'] :: List.replicate maxPatterns ['a'] ++ [['#'], []]) ++ ['b'] :: [['c']]) := by
    rw [ruleCount_append, hcount]
    exact Nat.lt_add_of_pos_right (by decide)
  obtain ⟨f, hf, htotal, -, -, hmany, -⟩ := load_accounts hread hsize (Text.decode?_encode _)
  rw [hlines] at htotal hmany
  obtain ⟨front, line, back, hsplit, hline, hfront, hfatal, -, hread', -⟩ := hmany hover
  obtain rfl := front_eq_of_ruleCount hsplit (by decide) hline (hcount.trans hfront.symm)
  refine ⟨w, f, hread, hf, ?_, hread', ?_⟩
  · rw [hfatal, length_crowded]
  · rw [htotal, List.length_append, length_crowded]
    exact Nat.add_assoc maxPatterns 3 2

end Loading

end IgnoreFile

end IgnoreRules
