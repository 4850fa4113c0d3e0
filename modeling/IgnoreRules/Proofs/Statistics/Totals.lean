import IgnoreRules.Proofs.Language.LineCount
import IgnoreRules.Statistics

/-!
# Totals by language

The statistics of some files have a count for a language exactly when one of the files is in that
language, and the count is the sum over all files that are.  The count of a file is never negative.

* `World.countsIn` : the counts of the files in a language;
* `World.get?_countAll_eq_some_iff`, `World.get?_statistics_eq_some_iff` : the count of a language.
-/

namespace IgnoreRules

/-! ## One more file -/

namespace Statistics

theorem lookup_map_add (entries : List (Text × LineCount)) (language k : Text) (count : LineCount) :
    (entries.map fun e => if e.1 = language then (language, e.2 + count) else e).lookup k =
      if k = language then (entries.lookup language).map (· + count) else entries.lookup k := by
  induction entries with
  | nil => simp
  | cons e entries ih =>
      rw [List.map_cons, List.lookup_cons, List.lookup_cons, List.lookup_cons, ih]
      -- The entry in front is the one looked for, the one that is changed, both, or neither.
      by_cases hk : k = language
      · subst hk
        by_cases he : k = e.1
        · simp [he]
        · simp [beq_eq_false_iff_ne.2 he, Ne.symm he]
      · by_cases he : e.1 = language
        · simp [he, hk, beq_eq_false_iff_ne.2 hk]
        · simp [he, hk]

theorem lookup_eq_none_of_any_eq_false {entries : List (Text × LineCount)} {language : Text}
    (h : entries.any (·.1 = language) = false) : entries.lookup language = none := by
  rw [List.lookup_eq_none_iff]
  intro e he
  have hother := List.any_eq_false.1 h e he
  exact bne_iff_ne.2 fun hlanguage => hother (decide_eq_true hlanguage.symm)

theorem exists_lookup_of_any {entries : List (Text × LineCount)} {language : Text}
    (h : entries.any (·.1 = language) = true) : ∃ n, entries.lookup language = some n := by
  cases hlookup : entries.lookup language with
  | some n => exact ⟨n, rfl⟩
  | none =>
      rw [List.lookup_eq_none_iff] at hlookup
      obtain ⟨e, he, hlanguage⟩ := List.any_eq_true.1 h
      have hother := hlookup e he
      simp_all

/-- Adding to a language changes the count of that language alone. -/
theorem get?_add (s : Statistics) (language k : Text) (count : LineCount) :
    (s.add language count).get? k =
      if k = language then some ((s.get? language).getD 0 + count) else s.get? k := by
  unfold get? add
  cases hany : s.entries.any (·.1 = language) with
  | true =>
      obtain ⟨n, hn⟩ := exists_lookup_of_any hany
      simp [lookup_map_add, hn]
  | false =>
      have hnone := lookup_eq_none_of_any_eq_false hany
      by_cases hk : k = language
      · simp [List.lookup_append, hk, hnone]
      · simp [List.lookup_append, List.lookup_cons, hk, beq_eq_false_iff_ne.2 hk]

end Statistics

/-! ## All files -/

namespace World

section Totals

variable {w w' : World} {language : Text} {n : LineCount}

/-- Counting a file only looks at the files. -/
theorem countFile_congr (h : w'.files = w.files) (p : Path) :
    (w'.countFile p).1 = (w.countFile p).1 := by
  unfold countFile countFileAs
  rw [h]
  cases LanguageSyntax.ofPath? p with
  | none => rfl
  | some syntaxOf =>
      dsimp only
      cases w.files.read p with
      | error e => rfl
      | ok bytes => rfl

theorem files_countFile (w : World) (p : Path) : (w.countFile p).2.files = w.files := by
  unfold countFile countFileAs
  cases LanguageSyntax.ofPath? p with
  | none => rfl
  | some syntaxOf =>
      dsimp only
      cases w.files.read p with
      | error e => rfl
      | ok bytes => rfl

theorem nonneg_of_countFile {p : Path} (h : (w.countFile p).1 = some (language, n)) : 0 ≤ n := by
  unfold countFile countFileAs at h
  split at h
  · cases h
  · split at h
    · cases h
    · cases h
      exact LanguageSyntax.count_nonneg _ _

/-- The counts of those files that are in a language. -/
def countsIn (w : World) (language : Text) (paths : List Path) : List LineCount :=
  paths.filterMap fun p => ((w.countFile p).1.filter (·.1 = language)).map (·.2)

theorem countsIn_congr (h : w'.files = w.files) (language : Text) (paths : List Path) :
    w'.countsIn language paths = w.countsIn language paths := by
  unfold countsIn
  simp only [countFile_congr h]

theorem nonneg_of_mem_countsIn {paths : List Path} (h : n ∈ w.countsIn language paths) : 0 ≤ n := by
  obtain ⟨p, -, hp⟩ := List.mem_filterMap.1 h
  obtain ⟨⟨found, m⟩, hfound, rfl⟩ := Option.map_eq_some_iff.1 hp
  exact nonneg_of_countFile (Option.eq_some_of_filter_eq_some hfound)

/-- A total, and a count that is added to it; at first there is none. -/
def addCount (total : Option LineCount) (n : LineCount) : Option LineCount :=
  some (total.getD 0 + n)

theorem foldl_addCount_some (m : LineCount) (counts : List LineCount) :
    counts.foldl addCount (some m) = some (m + counts.sum) := by
  induction counts generalizing m with
  | nil => simp
  | cons n counts ih =>
      calc (n :: counts).foldl addCount (some m)
          = counts.foldl addCount (some (m + n)) := rfl
        _ = some (m + n + counts.sum) := ih (m + n)
        _ = some (m + (n :: counts).sum) := by rw [List.sum_cons, add_assoc]

theorem foldl_addCount_eq_some_iff {counts : List LineCount} :
    counts.foldl addCount none = some n ↔ counts ≠ [] ∧ n = counts.sum := by
  cases counts with
  | nil => simp
  | cons m counts =>
      have hfirst : (m :: counts).foldl addCount none = counts.foldl addCount (some m) := by
        simp [addCount]
      rw [hfirst, foldl_addCount_some, List.sum_cons]
      simp [eq_comm]

/-- One file adds its count to the total of its language, if it has one. -/
theorem get?_addFile {progress : Statistics × World} (h : progress.2.files = w.files) (p : Path) :
    (addFile progress p).1.get? language =
      (w.countsIn language [p]).foldl addCount (progress.1.get? language) := by
  have hsame := countFile_congr h p
  unfold addFile countsIn
  cases hfound : progress.2.countFile p with
  | mk found after =>
      have hcount : (w.countFile p).1 = found := by rw [← hsame, hfound]
      cases found with
      | none => simp [hcount]
      | some entry =>
          by_cases hlanguage : entry.1 = language
          · simp [Option.filter_some, hcount, hlanguage, Statistics.get?_add, addCount]
          · simp [hcount, hlanguage, Statistics.get?_add, Ne.symm hlanguage]

theorem files_addFile (progress : Statistics × World) (p : Path) :
    (addFile progress p).2.files = progress.2.files := by
  have hfiles := files_countFile progress.2 p
  unfold addFile
  cases hfound : progress.2.countFile p with
  | mk found after =>
      rw [hfound] at hfiles
      cases found with
      | none => exact hfiles
      | some entry => exact hfiles

theorem get?_foldl_addFile {progress : Statistics × World} (h : progress.2.files = w.files)
    (paths : List Path) :
    (paths.foldl addFile progress).1.get? language =
      (w.countsIn language paths).foldl addCount (progress.1.get? language) := by
  -- The counts of the files so far are in the statistics already.
  induction paths generalizing progress with
  | nil => rfl
  | cons p paths ih =>
      have hsplit : w.countsIn language (p :: paths) =
          w.countsIn language [p] ++ w.countsIn language paths :=
        List.filterMap_append (l := [p])
      calc ((p :: paths).foldl addFile progress).1.get? language
          = (w.countsIn language paths).foldl addCount ((addFile progress p).1.get? language) :=
            ih ((files_addFile progress p).trans h)
        _ = (w.countsIn language (p :: paths)).foldl addCount (progress.1.get? language) := by
            rw [get?_addFile h, hsplit, List.foldl_append]

/-- The count of a language is the sum over the files that are in it, if there are any. -/
theorem get?_countAll_eq_some_iff {paths : List Path} :
    (w.countAll paths).1.get? language = some n ↔
      w.countsIn language paths ≠ [] ∧ n = (w.countsIn language paths).sum := by
  rw [← foldl_addCount_eq_some_iff]
  have hcounted : (w.countAll paths).1.get? language =
      (w.countsIn language paths).foldl addCount none := get?_foldl_addFile rfl paths
  rw [hcounted]

theorem files_walk (w : World) (rules : RuleSet) (root : Path) :
    (w.walk rules root).2.files = w.files := by
  have hvisits : ∀ (visits : List Visit) (v : World), (visits.foldl noteVisit v).files = v.files := by
    intro visits
    induction visits with
    | nil => exact fun v => rfl
    | cons visit visits ih => exact fun v => ih (v.noteVisit visit)
  exact hvisits _ w

/-- Statistics only look at the files. -/
theorem fst_foldl_addFile_congr {progress progress' : Statistics × World} (h : progress'.1 = progress.1)
    (hfiles : progress'.2.files = progress.2.files) (paths : List Path) :
    (paths.foldl addFile progress').1 = (paths.foldl addFile progress).1 := by
  induction paths generalizing progress progress' with
  | nil => exact h
  | cons p paths ih =>
      apply ih
      · have hcount := countFile_congr hfiles p
        unfold addFile
        cases hafter : progress.2.countFile p with
        | mk found after =>
            cases hafter' : progress'.2.countFile p with
            | mk found' after' =>
                rw [hafter, hafter'] at hcount
                dsimp only at hcount
                subst hcount
                cases found' with
                | none => exact h
                | some entry => exact congrArg (Statistics.add · entry.1 entry.2) h
      · rw [files_addFile, files_addFile, hfiles]

theorem fst_walk_congr (h : w'.files = w.files) (rules : RuleSet) (root : Path) :
    (w'.walk rules root).1 = (w.walk rules root).1 := by
  unfold walk visits
  rw [h]

theorem fst_statistics_congr (h : w'.files = w.files) (rules : RuleSet) (root : Path) :
    (w'.statistics rules root).1 = (w.statistics rules root).1 := by
  have hfiles : (w'.walk rules root).2.files = (w.walk rules root).2.files := by
    rw [files_walk, files_walk, h]
  have hcounted : ((w'.walk rules root).1.foldl addFile ({}, (w'.walk rules root).2)).1 =
      ((w.walk rules root).1.foldl addFile ({}, (w.walk rules root).2)).1 := by
    rw [fst_walk_congr h]
    exact fst_foldl_addFile_congr (by rfl) hfiles _
  exact hcounted

/-- The statistics below a path are those of the files that a walk keeps. -/
theorem get?_statistics_eq_some_iff {rules : RuleSet} {root : Path} :
    (w.statistics rules root).1.get? language = some n ↔
      w.countsIn language (w.walk rules root).1 ≠ [] ∧
        n = (w.countsIn language (w.walk rules root).1).sum := by
  have hcounts := countsIn_congr (files_walk w rules root) language (w.walk rules root).1
  rw [← hcounts]
  exact get?_countAll_eq_some_iff

end Totals

end World

end IgnoreRules
