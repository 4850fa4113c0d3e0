import IgnoreRules.Proofs.FileSystem.Writing
import IgnoreRules.Proofs.Statistics.Totals
import IgnoreRules.Proofs.Walk.Files

/-!
# Statistics by language

The statistics of a tree name each language once, and name exactly the languages of those files that a
walk keeps and that can be read.  What stands behind a language is the sum over its files, field by
field, in whatever order these are counted.

* `Statistics.languages_add` : the languages after one more count;
* `World.countFile_eq_some_iff` : which files are counted, and as what;
* `World.get?_countAll_of_perm` : the order of the files has no part;
* `World.mem_languages_statistics_iff`, `World.eq_sum_of_mem_entries` : what is named and what stands
  behind it;
* `World.statistics_exact` : the statistics of a tree.
-/

namespace IgnoreRules

/-! ## Languages -/

namespace Statistics

/-- The languages that there are counts of. -/
def languages (s : Statistics) : List Text :=
  s.entries.map (·.1)

variable {s : Statistics} {language : Text} {n : LineCount}

theorem languages_add (s : Statistics) (language : Text) (count : LineCount) :
    (s.add language count).languages =
      if language ∈ s.languages then s.languages else s.languages ++ [language] := by
  have hany : s.entries.any (·.1 = language) = true ↔ language ∈ s.languages := by
    simp [languages, List.any_eq_true]
  -- An entry that is changed keeps its language.
  have hsame : ∀ e : Text × LineCount,
      (if e.1 = language then (language, e.2 + count) else e).1 = e.1 := by
    intro e
    by_cases he : e.1 = language
    · simp [he]
    · simp [he]
  unfold add
  by_cases hnamed : language ∈ s.languages
  · rw [if_pos (hany.2 hnamed), if_pos hnamed]
    simp [languages, hsame]
  · rw [if_neg (mt hany.1 hnamed), if_neg hnamed]
    simp [languages]

theorem nodup_languages_add (h : s.languages.Nodup) (language : Text) (count : LineCount) :
    (s.add language count).languages.Nodup := by
  rw [languages_add]
  by_cases hnamed : language ∈ s.languages
  · simpa [hnamed] using h
  · rw [if_neg hnamed]
    simpa using h.concat hnamed

/-- Where every language is named once, there is one count of each. -/
theorem mem_entries_iff (h : s.languages.Nodup) : (language, n) ∈ s.entries ↔ s.get? language = some n :=
  (lookup_eq_some_iff_of_nodup h).symm

theorem mem_languages_iff (h : s.languages.Nodup) :
    language ∈ s.languages ↔ ∃ n, s.get? language = some n := by
  simp only [languages, List.mem_map, ← mem_entries_iff h]
  constructor
  · rintro ⟨⟨_, n⟩, hmem, rfl⟩
    exact ⟨n, hmem⟩
  · rintro ⟨n, hmem⟩
    exact ⟨(language, n), hmem, rfl⟩

end Statistics

/-! ## Files and their languages -/

namespace World

variable {w : World} {language : Text} {n : LineCount} {p : Path} {paths paths' : List Path}

/-- A file is counted as its language if it has one and can be read. -/
theorem countFile_eq_some_iff :
    (w.countFile p).1 = some (language, n) ↔
      ∃ s bytes, LanguageSyntax.ofPath? p = some s ∧ s.name = language ∧ w.files.read p = .ok bytes ∧
        n = s.count (Text.unifyReturns (Text.decodeLossy bytes)) := by
  unfold countFile countFileAs
  cases hsyntax : LanguageSyntax.ofPath? p with
  | none => simp
  | some s =>
      cases hread : w.files.read p with
      | error e => simp
      | ok bytes => simp [eq_comm]

theorem mem_countsIn_iff :
    n ∈ w.countsIn language paths ↔ ∃ p ∈ paths, (w.countFile p).1 = some (language, n) := by
  have hcount : ∀ found : Option (Text × LineCount),
      (found.filter (·.1 = language)).map (·.2) = some n ↔ found = some (language, n) := by
    intro found
    cases found with
    | none => simp
    | some entry =>
        by_cases hlanguage : entry.1 = language
        · simp [Option.filter_some, hlanguage, Prod.ext_iff]
        · simp [Option.filter_some, hlanguage, Prod.ext_iff]
  simp only [countsIn, List.mem_filterMap, hcount]

theorem balanced_of_mem_countsIn (h : n ∈ w.countsIn language paths) : n.Balanced := by
  obtain ⟨p, -, hp⟩ := mem_countsIn_iff.1 h
  obtain ⟨s, bytes, -, -, -, rfl⟩ := countFile_eq_some_iff.1 hp
  exact s.balanced_count _

/-- The order of the files has no part in a total. -/
theorem get?_countAll_of_perm (h : paths'.Perm paths) (language : Text) :
    (w.countAll paths').1.get? language = (w.countAll paths).1.get? language := by
  have hcounts : (w.countsIn language paths').Perm (w.countsIn language paths) := h.filterMap _
  apply Option.ext
  intro n
  have hnil : w.countsIn language paths' = [] ↔ w.countsIn language paths = [] := by
    rw [← List.length_eq_zero_iff, ← List.length_eq_zero_iff, hcounts.length_eq]
  rw [get?_countAll_eq_some_iff, get?_countAll_eq_some_iff, hcounts.sum_eq, ne_eq, ne_eq, hnil]

/-- However many files are counted, each language is named once. -/
theorem nodup_languages_foldl {progress : Statistics × World} (h : progress.1.languages.Nodup)
    (paths : List Path) : (paths.foldl addFile progress).1.languages.Nodup := by
  induction paths generalizing progress with
  | nil => exact h
  | cons p paths ih =>
      apply ih
      unfold addFile
      cases progress.2.countFile p with
      | mk found after =>
          cases found with
          | none => exact h
          | some entry => exact Statistics.nodup_languages_add h entry.1 entry.2

theorem nodup_languages_statistics (w : World) (rules : RuleSet) (root : Path) :
    (w.statistics rules root).1.languages.Nodup := by
  have hnone : (({}, (w.walk rules root).2) : Statistics × World).1.languages.Nodup := List.nodup_nil
  exact nodup_languages_foldl hnone _

/-- A language is named if a file of the walk is in it and can be read. -/
theorem mem_languages_statistics_iff {rules : RuleSet} {root : Path} :
    language ∈ (w.statistics rules root).1.languages ↔
      ∃ p ∈ (w.walk rules root).1, ∃ s bytes, LanguageSyntax.ofPath? p = some s ∧
        s.name = language ∧ w.files.read p = .ok bytes := by
  simp only [Statistics.mem_languages_iff (nodup_languages_statistics w rules root),
    get?_statistics_eq_some_iff]
  constructor
  · rintro ⟨n, hcounts, -⟩
    obtain ⟨m, hm⟩ := List.exists_mem_of_ne_nil _ hcounts
    obtain ⟨p, hp, hcount⟩ := mem_countsIn_iff.1 hm
    obtain ⟨s, bytes, hsyntax, hname, hread, -⟩ := countFile_eq_some_iff.1 hcount
    exact ⟨p, hp, s, bytes, hsyntax, hname, hread⟩
  · rintro ⟨p, hp, s, bytes, hsyntax, hname, hread⟩
    have hcount := countFile_eq_some_iff.2 ⟨s, bytes, hsyntax, hname, hread, rfl⟩
    exact ⟨_, List.ne_nil_of_mem (mem_countsIn_iff.2 ⟨p, hp, hcount⟩), rfl⟩

/-- What stands behind a language is the sum over its files. -/
theorem eq_sum_of_mem_entries {rules : RuleSet} {root : Path}
    (h : (language, n) ∈ (w.statistics rules root).1.entries) :
    n = (w.countsIn language (w.walk rules root).1).sum := by
  rw [Statistics.mem_entries_iff (nodup_languages_statistics w rules root),
    get?_statistics_eq_some_iff] at h
  exact h.2

/-- Counting the files of a walk in any order comes to the statistics. -/
theorem get?_countAll_eq_statistics {rules : RuleSet} {root : Path}
    (h : paths.Perm (w.walk rules root).1) (language : Text) :
    (w.countAll paths).1.get? language = (w.statistics rules root).1.get? language := by
  rw [get?_countAll_of_perm h]
  apply Option.ext
  intro n
  rw [get?_countAll_eq_some_iff, get?_statistics_eq_some_iff]

/-- A walk meets no file twice, and none at all where there is no directory. -/
theorem nodup_walk (h : w.files.root.Distinct) (rules : RuleSet) (root : Path) :
    (w.walk rules root).1.Nodup := by
  cases hfolder : w.files.folder root with
  | error e => simp [walk, visits, hfolder, Walk.filesOf]
  | ok folder =>
      rw [walk_fst hfolder]
      exact Walk.nodup_files (FileSystem.distinct_of_folder h hfolder)

/-- The statistics of a tree have one entry for every language that a file of the walk is in and can be
read, and for no other.  The entry is the sum, field by field, of the counts of all these files, each of
which the walk meets once; its lines are code, comment and blank lines.  Counting the files in another
order leads to the same. -/
theorem statistics_exact (w : World) (rules : RuleSet) (root : Path) :
    (w.statistics rules root).1.languages.Nodup ∧
    (∀ language, language ∈ (w.statistics rules root).1.languages ↔
      ∃ p ∈ (w.walk rules root).1, ∃ s bytes, LanguageSyntax.ofPath? p = some s ∧
        s.name = language ∧ w.files.read p = .ok bytes) ∧
    (∀ language n, (language, n) ∈ (w.statistics rules root).1.entries →
      n.code = ((w.countsIn language (w.walk rules root).1).map (·.code)).sum ∧
      n.comment = ((w.countsIn language (w.walk rules root).1).map (·.comment)).sum ∧
      n.blank = ((w.countsIn language (w.walk rules root).1).map (·.blank)).sum ∧
      n.lines = ((w.countsIn language (w.walk rules root).1).map (·.lines)).sum ∧
      n.code + n.comment + n.blank = n.lines) ∧
    (∀ paths, paths.Perm (w.walk rules root).1 → ∀ language,
      (w.countAll paths).1.get? language = (w.statistics rules root).1.get? language) ∧
    (w.files.root.Distinct → (w.walk rules root).1.Nodup) := by
  refine ⟨nodup_languages_statistics w rules root, fun language => mem_languages_statistics_iff, ?_,
    fun paths hperm language => get?_countAll_eq_statistics hperm language,
    fun hdistinct => nodup_walk hdistinct rules root⟩
  intro language n hmem
  obtain rfl := eq_sum_of_mem_entries hmem
  have hbalanced : ((w.countsIn language (w.walk rules root).1).sum).Balanced :=
    LineCount.balanced_sum fun n hn => balanced_of_mem_countsIn hn
  refine ⟨?_, ?_, ?_, ?_, hbalanced⟩
  · rw [LineCount.sum_eq]
  · rw [LineCount.sum_eq]
  · rw [LineCount.sum_eq]
  · rw [LineCount.sum_eq]

end World

end IgnoreRules
