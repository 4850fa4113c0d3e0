import IgnoreRules.Proofs.Path
import IgnoreRules.Proofs.RuleSet.Verdict

/-!
# The text that rules are asked about

Rules are asked about the components of a path below their directory.  It does not matter how these are
spelled, nor whether the path is given from the directory or, when the directory is known from the root,
as a path from the root.  The text never begins or ends with a separator, and it is empty for the
directory itself, which no rule ignores.

* `RuleSet.candidate_below`, `RuleSet.candidate_inside`, `RuleSet.candidate_elsewhere` : the text for
  paths from the root and from the directory;
* `RuleSet.deciding?_congr`, `RuleSet.isIgnored_of_candidate_nil` : paths with one text have one answer,
  and there is none where the text is empty;
* `RuleSet.candidate_of_spellings` : the spellings of a path.
-/

namespace IgnoreRules

namespace RuleSet

variable {s : RuleSet} {p q : Path} {isDir : Bool} {parts : List Text} {rel : Text}

/-! ## Paths from the root and from the directory -/

theorem candidate_of_relativeTo (hp : p.relativeTo s.root = ⟨.relative, parts⟩)
    (h : ∀ part ∈ parts, part ≠ [] ∧ '/' ∉ part) : s.candidate p = List.intercalate ['/'] parts := by
  unfold candidate
  dsimp only
  rw [hp]
  by_cases hparts : parts = []
  · rw [hparts]
    rfl
  · have hne : (⟨.relative, parts⟩ : Path) ≠ Path.here := fun h => hparts (congrArg Path.parts h)
    rw [if_neg hne]
    exact Path.unrootedText_eq nofun hparts h

/-- The rules are asked about what is left of a path behind their directory. -/
theorem candidate_below (h : ∀ part ∈ parts, part ≠ [] ∧ '/' ∉ part) :
    s.candidate ⟨s.root.anchor, s.root.parts ++ parts⟩ = List.intercalate ['/'] parts := by
  refine candidate_of_relativeTo ?_ h
  unfold Path.relativeTo
  rw [if_pos ⟨rfl, List.prefix_append _ _⟩, List.drop_left]

/-- A path that is given from a directory known from the root is left as it is. -/
theorem candidate_inside (hroot : s.root.isAbsolute = true) (h : ∀ part ∈ parts, part ≠ [] ∧ '/' ∉ part) :
    s.candidate ⟨.relative, parts⟩ = List.intercalate ['/'] parts := by
  refine candidate_of_relativeTo ?_ h
  unfold Path.relativeTo
  rw [if_neg]
  rintro ⟨hanchor, -⟩
  rw [Path.isAbsolute, ← hanchor] at hroot
  cases hroot

/-- A path from the root is not cut at a directory that begins elsewhere. -/
theorem candidate_elsewhere (hroot : s.root.anchor = .relative) (hparts : parts ≠ [])
    (h : ∀ part ∈ parts, part ≠ [] ∧ '/' ∉ part) :
    s.candidate ⟨.root, parts⟩ = List.intercalate ['/'] parts := by
  have hunchanged : Path.relativeTo ⟨.root, parts⟩ s.root = ⟨.root, parts⟩ := by
    unfold Path.relativeTo
    rw [hroot]
    exact if_neg fun h => by cases h.1
  have hne : (⟨.root, parts⟩ : Path) ≠ Path.here := fun h => by cases h
  unfold candidate
  dsimp only
  rw [hunchanged, if_neg hne]
  exact Path.unrootedText_eq nofun hparts h

/-! ## Spellings -/

/-- Rules are asked about nothing but the text of a path. -/
theorem deciding?_congr (h : s.candidate p = s.candidate q) (isDir : Bool) :
    s.deciding? p isDir = s.deciding? q isDir := by
  unfold deciding?
  rw [h]

theorem isIgnored_congr (h : s.candidate p = s.candidate q) (isDir : Bool) :
    s.isIgnored p isDir = s.isIgnored q isDir := by
  unfold isIgnored
  rw [deciding?_congr h]

/-- Where nothing is left to ask about, rules have no answer. -/
theorem isIgnored_of_candidate_nil (h : s.candidate p = []) (isDir : Bool) :
    s.deciding? p isDir = none ∧ s.isIgnored p isDir = false := by
  have hnone : s.deciding? p isDir = none := deciding?_eq_none_iff.2 (Or.inl h)
  refine ⟨hnone, ?_⟩
  unfold isIgnored
  rw [hnone]

/-- The text for a path that is spelled from the directory, and for the same path from the root. -/
theorem candidate_of_head? (hroot : s.root.isAbsolute = true) (hrel : rel.head? ≠ some '/') :
    s.candidate (Path.parse rel) = List.intercalate ['/'] (Path.partsOf rel) ∧
      s.candidate (s.root.append (Path.parse rel)) = List.intercalate ['/'] (Path.partsOf rel) := by
  have hparts : ∀ part ∈ Path.partsOf rel, part ≠ [] ∧ '/' ∉ part := fun _ => Path.part_of_parse
  rw [Path.append_of_relative (by rw [Path.parse_of_head? hrel]), Path.parse_of_head? hrel]
  exact ⟨candidate_inside hroot hparts, candidate_below hparts⟩

/-- A relative text and the same text behind a directory that is known from the root spell one path for
the rules of that directory: they are asked about its components, and so they are for every other text
with these components.  What they are asked about has no separator at its ends and is itself a spelling
of the path.  It is empty exactly for the directory itself, about which the rules say nothing. -/
theorem candidate_of_spellings (hroot : s.root.isAbsolute = true) (hrel : rel.head? ≠ some '/') :
    s.candidate (s.root.append (Path.parse rel)) = s.candidate (Path.parse rel) ∧
      s.candidate (Path.parse rel) = List.intercalate ['/'] (Path.partsOf rel) ∧
      (∀ other, other.head? ≠ some '/' → Path.partsOf other = Path.partsOf rel →
        ∀ p ∈ [Path.parse other, s.root.append (Path.parse other)], ∀ isDir,
          s.deciding? p isDir = s.deciding? (Path.parse rel) isDir ∧
          s.isIgnored p isDir = s.isIgnored (Path.parse rel) isDir) ∧
      (s.candidate (Path.parse rel)).head? ≠ some '/' ∧
      (s.candidate (Path.parse rel)).getLast? ≠ some '/' ∧
      s.candidate (Path.parse (s.candidate (Path.parse rel))) = s.candidate (Path.parse rel) ∧
      (s.candidate (Path.parse rel) = [] ↔ Path.partsOf rel = []) ∧
      (Path.partsOf rel = [] → ∀ isDir, s.deciding? (Path.parse rel) isDir = none ∧
        s.isIgnored (Path.parse rel) isDir = false) := by
  have hparts : ∀ part ∈ Path.partsOf rel, part ≠ [] ∧ '/' ∉ part := fun _ => Path.part_of_parse
  obtain ⟨hhere, hbelow⟩ := candidate_of_head? hroot hrel
  have hnil : s.candidate (Path.parse rel) = [] ↔ Path.partsOf rel = [] := by
    rw [hhere]
    exact Path.intercalate_eq_nil_iff hparts
  refine ⟨hbelow.trans hhere.symm, hhere, ?_, ?_, ?_, ?_, hnil, ?_⟩
  · intro other hother hsame p hp isDir
    obtain ⟨hhere', hbelow'⟩ := candidate_of_head? hroot hother
    have htext : s.candidate p = s.candidate (Path.parse rel) := by
      rw [hhere, ← hsame]
      rcases List.mem_pair.1 hp with rfl | rfl
      · exact hhere'
      · exact hbelow'
    exact ⟨deciding?_congr htext isDir, isIgnored_congr htext isDir⟩
  · rw [hhere]
    exact Path.head?_intercalate hparts
  · rw [hhere]
    exact Path.getLast?_intercalate hparts
  · -- What the rules are asked about is read as the components it was written from.
    rw [hhere, Path.parse_intercalate_partsOf hrel, hhere]
  · intro hempty
    exact isIgnored_of_candidate_nil (hnil.2 hempty)

/-- Below a directory with an anchor of its own, two spellings of a path with a parent in it, and the
directory. -/
theorem candidate_of_spellings_doubleRoot :
    ∃ s, ofLines (Path.parse "//x".toList) ["b".toList] = .ok s ∧
      s.candidate (Path.parse "./a//../b/.".toList) = "a/../b".toList ∧
      s.isIgnored (Path.parse "./a//../b/.".toList) true = true ∧
      s.isIgnored (s.root.append (Path.parse "a/./../b/".toList)) true = true ∧
      s.isIgnored (Path.parse "./.".toList) true = false := by
  have hrules : Rule.ofLines ["b".toList] = [⟨"**/b".toList, false, false, false⟩] := by decide
  obtain ⟨s, hs⟩ : ∃ s, ofLines (Path.parse "//x".toList) ["b".toList] = .ok s := by
    apply exists_ofRules_eq_ok_iff.2
    rw [hrules, List.forall_mem_singleton]
    exact ⟨[.token .anyDirs, .token (.char 'b')], by decide +kernel⟩
  have hroot : s.root.isAbsolute = true := by
    rw [(rules_of_ofLines hs).1]
    decide
  obtain ⟨-, htext, hsame, -⟩ := candidate_of_spellings hroot
    (show "./a//../b/.".toList.head? ≠ some '/' by decide)
  obtain ⟨-, -, -, -, -, -, -, hnone⟩ := candidate_of_spellings hroot
    (show "./.".toList.head? ≠ some '/' by decide)
  have hignored : s.isIgnored (Path.parse "./a//../b/.".toList) true = true := by
    rw [isIgnored_eq_overriding, htext, (rules_of_ofLines hs).2]
    decide +kernel
  refine ⟨s, hs, htext.trans (by decide), hignored, ?_, (hnone (by decide) true).2⟩
  have hrespelled := hsame "a/./../b/".toList (by decide) (by decide)
    (s.root.append (Path.parse "a/./../b/".toList)) (by simp) true
  exact hrespelled.2.trans hignored

end RuleSet

end IgnoreRules
