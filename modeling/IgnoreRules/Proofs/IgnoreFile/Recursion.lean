import IgnoreRules.Proofs.Glob.Runs
import IgnoreRules.Proofs.IgnoreFile.Accounting
import IgnoreRules.Proofs.Text.Search
import IgnoreRules.Proofs.Text.Split

/-!
# Doubts about recursion

A doubt is recorded where two stars stand together in a component of a pattern without filling it.  That
is said of the text of the pattern, while a glob is read construct by construct.  No run of wildcards that
is read as a single one goes without the doubt.  But it is recorded as well for a recursive run of more
than two stars, and for stars behind a backslash or inside brackets, which are no wildcards.

* `IgnoreFile.exists_isPartialRecursion_iff` : the test, as a statement about two stars of a text;
* `IgnoreFile.mem_doubts_iff` : the doubts about one line of a file;
* `IgnoreFile.load_doubts_recursion`, `IgnoreFile.load_doubts_textual` : when the doubt is recorded, and
  three lines for which it should not be.
-/

namespace IgnoreRules

namespace Glob

/-- An end of a text bounds a component like a separator. -/
theorem bounds_iff {neighbour : Option Char} : Bounds neighbour ↔ ∀ c ∈ neighbour, c = '/' := by
  cases neighbour with
  | none => simp [Bounds]
  | some c => simp [Bounds]

end Glob

namespace IgnoreFile

open Glob

/-! ## Two stars in a component -/

section Components

variable {component t : Text}

theorem isPartialRecursion_iff :
    isPartialRecursion component = true ↔ ['*', '*'] <:+: component ∧ component ≠ ['*', '*'] := by
  rw [isPartialRecursion, Bool.and_eq_true, Text.hasPart_iff, bne_iff_ne]

/-- Some component is in doubt where two stars stand together and do not fill theirs. -/
theorem exists_isPartialRecursion_iff :
    (∃ component ∈ t.splitOn '/', isPartialRecursion component = true) ↔
      ∃ front back, PartialPair t front back := by
  constructor
  · rintro ⟨component, hmem, hdoubt⟩
    obtain ⟨⟨left, right, rfl⟩, hfilled⟩ := isPartialRecursion_iff.1 hdoubt
    obtain ⟨hslash, above, below, rfl, -, -⟩ := Text.mem_splitOn_iff.1 hmem
    refine ⟨above ++ left, right ++ below, by simp, ?_⟩
    rintro ⟨hfront, hback⟩
    apply hfilled
    -- What stands between the stars and a separator is empty, for the component has no separator.
    simp only [List.mem_append, not_or] at hslash
    have hleft : left = [] := Text.eq_nil_of_getLast? hslash.1.1 (bounds_iff.1 hfront)
    have hright : right = [] := Text.eq_nil_of_head? hslash.2 (bounds_iff.1 hback)
    rw [hleft, hright]
    rfl
  · rintro ⟨front, back, rfl, hpair⟩
    obtain ⟨above, left, right, below, rfl, rfl, hleft, hright, habove, hbelow⟩ :=
      Text.exists_part_around front back
    refine ⟨left ++ '*' :: '*' :: right, ?_, ?_⟩
    · rw [Text.mem_splitOn_iff]
      exact ⟨by simp [hleft, hright], above, below, by simp, habove, hbelow⟩
    · rw [isPartialRecursion_iff]
      refine ⟨⟨left, right, by simp⟩, ?_⟩
      intro hfilled
      have hlength := congrArg List.length hfilled
      simp only [List.length_append, List.length_cons, List.length_nil] at hlength
      obtain rfl : left = [] := List.length_eq_zero_iff.1 (by omega)
      obtain rfl : right = [] := List.length_eq_zero_iff.1 (by omega)
      apply hpair
      simpa [bounds_iff] using And.intro habove hbelow

theorem exists_mem_concerns_iff {pattern : Text} {r : Rule} :
    (∃ component, Concern.partialRecursion component ∈ concerns pattern r) ↔
      ∃ component ∈ r.pattern.splitOn '/', isPartialRecursion component = true := by
  have hfound : (∃ component, (r.pattern.splitOn '/').find? isPartialRecursion = some component) ↔
      ∃ component ∈ r.pattern.splitOn '/', isPartialRecursion component = true := by
    rw [← Option.isSome_iff_exists, List.find?_isSome]
  rw [← hfound]
  -- The other concern is never of this kind.
  simp [concerns]

end Components

/-! ## Doubts about a line -/

section Lines

variable {path : Path} {f : IgnoreFile} {lines : List Text} {line : Text} {i : Nat} {d : Doubt}
  {w : World}

theorem mem_doubts_iff (hline : lines[i]? = some line) :
    (d ∈ (numbered 0 lines).flatMap Entry.doubts ∧ d.line = i + 1) ↔
      d ∈ Entry.doubts ⟨i + 1, line, Line.parse line⟩ := by
  constructor
  · rintro ⟨hmem, hnumber⟩
    obtain ⟨e, he, hd⟩ := List.mem_flatMap.1 hmem
    obtain ⟨⟨line', j⟩, hj, rfl⟩ := List.mem_map.1 he
    have hsame : j = i := by
      have hown := line_of_mem_doubts hd
      simp only at hown
      omega
    rw [hsame, List.mem_zipIdx_iff_getElem?] at hj
    obtain rfl : line' = line := Option.some.inj (hj.symm.trans hline)
    rw [hsame] at hd
    exact hd
  · intro hd
    refine ⟨?_, line_of_mem_doubts hd⟩
    rw [List.mem_flatMap]
    refine ⟨_, ?_, hd⟩
    exact List.mem_map.2 ⟨(line, i), List.mem_zipIdx_iff_getElem?.2 hline, rfl⟩

theorem exists_inspected_of_ofText (path : Path) (content : Text) :
    ∃ total read stop, ofText path content = inspected path total read stop := by
  rcases ofText_cases path content with ⟨-, hfull⟩ | ⟨front, line, back, -, -, -, hstopped⟩
  · exact ⟨_, _, _, hfull⟩
  · exact ⟨_, _, _, hstopped⟩

/-- A file of which a line is read is inspected. -/
theorem exists_inspected_of_load (h : (load path w).1 = .ok f) (hline : f.lines[i]? = some line) :
    ∃ total stop, f = inspected path total f.lines stop := by
  have hfailed : ∀ cause, f ≠ failed path cause := by
    rintro cause rfl
    cases hline
  suffices hinspected : ∃ total read stop, f = inspected path total read stop by
    obtain ⟨total, read, stop, rfl⟩ := hinspected
    exact ⟨total, stop, rfl⟩
  rw [load_fst] at h
  unfold IgnoreFile.read at h
  split at h
  · next node hnode =>
      obtain rfl := Except.ok.inj h
      cases node with
      | folder inside => exact absurd rfl (hfailed _)
      | file bytes =>
          unfold ofNode at hfailed ⊢
          dsimp only at hfailed ⊢
          split
          · next hlarge => exact absurd (if_pos hlarge) (hfailed _)
          · next hsmall =>
              rw [if_neg hsmall] at hfailed
              cases hdecoded : Text.decode? bytes with
              | none => exact absurd (by rw [hdecoded]) (hfailed (.unreadable "not UTF-8"))
              | some content => exact exists_inspected_of_ofText path _
  · split at h
    · exact absurd (Except.ok.inj h).symm (hfailed _)
    · cases h

/-- The doubt is recorded for a line that is read and states a rule, whether the rule compiles or not,
in just three cases: the pattern has a run of wildcards that is read as a single one, or a recursive run
of more than two stars, or two stars together that do not fill a component and of which the first is no
wildcard.  Whatever run of wildcards the pattern has, compiling the rule takes it as the one token that
these cases speak of. -/
theorem load_doubts_recursion {r : Rule} (hload : (load path w).1 = .ok f)
    (hline : f.lines[i]? = some line) (hrule : Line.parse line = .rule r) :
    ((∃ component, ⟨i + 1, Text.trim line, .partialRecursion component⟩ ∈ f.doubts) ↔
        HasPlainRun r.pattern ∨ HasLongRun r.pattern ∨ HasLiteralPair r.pattern) ∧
      ∀ front n back, r.pattern = front ++ (List.replicate n '*' ++ back) → WildcardRun front back →
        1 ≤ n → ∃ d : Draft, Glob.parse r.pattern =
          if runToken front n back = .anyDirs then
            readFrom (d.add (runToken front n back)) (some '/') back.tail
          else readFrom (d.add (runToken front n back)) (some '*') back := by
  obtain ⟨total, stop, hf⟩ := exists_inspected_of_load hload hline
  have hdoubts : f.doubts = (numbered 0 f.lines).flatMap Entry.doubts := by
    rw [hf]
    rfl
  have hrecorded : ∀ component, ⟨i + 1, Text.trim line, .partialRecursion component⟩ ∈ f.doubts ↔
      Concern.partialRecursion component ∈ concerns (Text.trim line) r := by
    intro component
    have hown := mem_doubts_iff (d := ⟨i + 1, Text.trim line, .partialRecursion component⟩) hline
    simp only [and_true] at hown
    rw [hdoubts, hown, hrule]
    simp [Entry.doubts]
  constructor
  · simp only [hrecorded]
    rw [exists_mem_concerns_iff, exists_isPartialRecursion_iff, exists_partialPair_iff]
  · intro front n back hpattern hrun hn
    rw [hpattern]
    exact hrun.parse_eq hn

theorem exists_load_of_text (t : Text) (hsize : (Text.encode t).size ≤ maxBytes) :
    ∃ w : World, (load (Path.parse "f".toList) w).1 =
      .ok (ofText (Path.parse "f".toList) (Text.unifyReturns t)) := by
  obtain ⟨w, hfiles⟩ : ∃ w : World, w.files = ⟨.file "f".toList (Text.encode t) .empty, []⟩ :=
    ⟨.ofFiles _, rfl⟩
  have hread : w.files.read (Path.parse "f".toList) = .ok (Text.encode t) := by
    rw [hfiles]
    rfl
  exact ⟨w, load_of_read hread hsize (Text.decode?_encode t)⟩

/-- A negated rule with two stars inside a name, behind a comment. -/
theorem load_doubts_recursion_inner :
    ∃ (w : World) (f : IgnoreFile), (load (Path.parse "f".toList) w).1 = .ok f ∧
      f.lines[1]? = some "!a**b/c ".toList ∧
      Line.parse "!a**b/c ".toList = .rule ⟨"**/a**b/c".toList, true, false, true⟩ ∧
      (∃ component, ⟨2, "!a**b/c".toList, .partialRecursion component⟩ ∈ f.doubts) ∧
      ∃ d : Draft, Glob.parse "**/a**b/c".toList = readFrom (d.add .anyRun) (some '*') "b/c".toList := by
  obtain ⟨w, hload⟩ := exists_load_of_text "#\n!a**b/c \n".toList (by decide +kernel)
  have hrule : Line.parse "!a**b/c ".toList = .rule ⟨"**/a**b/c".toList, true, false, true⟩ := by
    decide +kernel
  have hline : (ofText (Path.parse "f".toList) (Text.unifyReturns "#\n!a**b/c \n".toList)).lines[1]? =
      some "!a**b/c ".toList := by
    decide +kernel
  have hrun : WildcardRun "**/a".toList "b/c".toList := by decide +kernel
  obtain ⟨hdoubt, hread⟩ := load_doubts_recursion hload hline hrule
  have htrim : Text.trim "!a**b/c ".toList = "!a**b/c".toList := by decide
  rw [htrim] at hdoubt
  exact ⟨w, _, hload, hline, hrule, hdoubt.2 (Or.inl (by decide +kernel)),
    hread "**/a".toList 2 "b/c".toList rfl hrun (by decide)⟩

/-- The doubt is recorded for two members of a bracket expression, for a star that is escaped with
another behind it, and for a recursive run of three stars; no pattern has a run that is read as a single
wildcard. -/
theorem load_doubts_textual :
    ∃ (w : World) (f : IgnoreFile), (load (Path.parse "f".toList) w).1 = .ok f ∧
      f.lines = ["/[**]".toList, "/a\\**".toList, "/***/x".toList] ∧
      f.doubts = [⟨1, "/[**]".toList, .partialRecursion "[**]".toList⟩,
        ⟨2, "/a\\**".toList, .partialRecursion "a\\**".toList⟩,
        ⟨3, "/***/x".toList, .partialRecursion "***".toList⟩] ∧
      f.lines.map Line.parse = [.rule ⟨"[**]".toList, true, false, false⟩,
        .rule ⟨"a\\**".toList, true, false, false⟩, .rule ⟨"***/x".toList, true, false, false⟩] ∧
      ∀ pattern ∈ ["[**]".toList, "a\\**".toList, "***/x".toList],
        (Glob.parse pattern).isOk = true ∧ ¬HasPlainRun pattern := by
  obtain ⟨w, hload⟩ := exists_load_of_text "/[**]\n/a\\**\n/***/x\n".toList (by decide +kernel)
  exact ⟨w, _, hload, by decide +kernel, by decide +kernel, by decide +kernel, by decide +kernel⟩

end Lines

end IgnoreFile

end IgnoreRules
