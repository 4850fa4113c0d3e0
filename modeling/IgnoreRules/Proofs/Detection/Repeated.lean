import IgnoreRules.Proofs.Detection.Found
import IgnoreRules.Proofs.Project.Run
import IgnoreRules.Proofs.Template.Unusable

/-!
# Keys that are reported more than once

Every detector that finds something reports its key, whatever the others report.  A key is therefore
reported as often as detectors of that key find something: at most once from a table in which no key
stands twice, as in the standard one, but twice where two detectors of one key both find something.  A
project takes the texts of its templates key by key, so it takes a template as often as its key is
reported.

* `Detectors.count_detect`, `Detectors.nodup_detect_iff` : how often a key is reported;
* `Session.texts_of_parse` : the texts that a project takes from its templates;
* `Detectors.reported_per_detector`, `Detectors.reported_twice` : keys, and the texts of a project.
-/

namespace IgnoreRules

namespace Detectors

variable {ds : Detectors} {entries : List DirEntry} {key : Text}

/-! ## Keys -/

/-- A key is reported once for each of its detectors that finds something. -/
theorem count_detect (ds : Detectors) (entries : List DirEntry) (key : Text) :
    (ds.detect entries).count key = ds.countP fun d => d.template = key ∧ d.Finds entries := by
  rw [detect_eq]
  induction ds with
  | nil => rfl
  | cons d ds ih =>
      by_cases hfinds : d.Finds entries
      · by_cases hkey : d.template = key
        · simp [hfinds, hkey, ih]
        · simp [hfinds, hkey, ih]
      · simp [hfinds, ih]

/-- No key is reported twice unless two of its detectors find something. -/
theorem nodup_detect_iff : (ds.detect entries).Nodup ↔
    ds.Pairwise fun d d' => d.Finds entries → d'.Finds entries → d.template ≠ d'.template := by
  simp [detect_eq, List.Nodup, List.pairwise_map, List.pairwise_filter]

theorem nodup_detect (h : (ds.map (·.template)).Nodup) (entries : List DirEntry) :
    (ds.detect entries).Nodup := by
  rw [detect_eq]
  have hsub : ((ds.filter (·.Finds entries)).map (·.template)).Sublist (ds.map (·.template)) :=
    List.Sublist.map _ List.filter_sublist
  exact hsub.nodup h

theorem nodup_templates_standard : (standard.map (·.template)).Nodup := by
  decide

/-- What is reported for a path is what is reported for some entries, for none unless it leads to a
directory. -/
theorem exists_detect_of_world {w : World} {path : Path} {keys : List Text}
    (h : (w.detect ds path).1 = .ok keys) : ∃ entries, keys = ds.detect entries := by
  cases hfolder : w.files.folder path with
  | ok folder =>
      rw [World.detect_of_folder hfolder] at h
      exact ⟨_, (Except.ok.inj h).symm⟩
  | error e =>
      have hnone : ds.detect [] = [] := by simp [detect, Detector.detects]
      simp only [World.detect, hfolder] at h
      split at h
      · exact ⟨[], by rw [hnone, ← Except.ok.inj h]⟩
      · cases h

end Detectors

/-! ## Texts of a project -/

namespace Session

variable {s : Session}

/-- The texts of templates are those of a listing, or there are none. -/
theorem exists_listing_of_templateTexts {keys : List Text} {texts : List Json}
    (h : (s.templateTexts keys).1 = .ok texts) :
    texts = [] ∨ ∃ listing : Listing, texts = (keys.filterMap listing.get?).map (·.contents) := by
  cases hstore : s.storeOf with
  | error e => simp [templateTexts, hstore] at h
  | ok store =>
      rw [fst_templateTexts hstore] at h
      cases hload : (store.load s.world).1 with
      | ok listing =>
          rw [hload] at h
          exact Or.inr ⟨listing, (Except.ok.inj h).symm⟩
      | error e =>
          rw [hload] at h
          cases e with
          | template cause => exact Or.inl (Except.ok.inj h).symm
          | _ => cases h

/-- Templates do not change which languages were found. -/
theorem languages_templateTexts (s : Session) (keys : List Text) :
    (s.templateTexts keys).2.project.languages = s.project.languages := by
  unfold templateTexts
  split
  · rfl
  · split <;> rfl

/-- A project takes its texts from the templates of the keys that are reported, key by key. -/
theorem texts_of_parse (h : s.parse.1 = .ok ()) :
    ∃ keys, (s.world.detect s.project.detectors s.project.dir).1 = .ok keys ∧
      s.parse.2.project.languages = some keys ∧
      (s.parse.2.project.texts = none ∨ ∃ listing : Listing,
        s.parse.2.project.texts = some ((keys.filterMap listing.get?).map (·.contents))) := by
  rcases parse_ends s with ⟨e, w, -, hparse⟩ |
    ⟨keys, w, hdetect, ⟨e, s', -, hparse⟩ | ⟨texts, s', htexts, hparse⟩⟩
  · rw [hparse] at h
    cases h
  · rw [hparse] at h
    cases h
  · have hset := s'.texts_setTexts (if texts.isEmpty then none else some texts)
    have hlanguages : s'.project.languages = some keys := by
      have hkept := languages_templateTexts (s.knowing keys w) keys
      rw [htexts] at hkept
      exact hkept
    have hlisting : texts = [] ∨ ∃ listing : Listing,
        texts = (keys.filterMap listing.get?).map (·.contents) :=
      exists_listing_of_templateTexts (congrArg Prod.fst htexts)
    rw [hparse]
    refine ⟨keys, congrArg Prod.fst hdetect, hset.2.2.trans hlanguages, ?_⟩
    rw [hset.1]
    -- Without any text the project is left without texts.
    rcases hlisting with rfl | ⟨listing, rfl⟩
    · exact Or.inl rfl
    · by_cases hnone : keys.filterMap listing.get? = []
      · exact Or.inl (by simp [hnone])
      · exact Or.inr ⟨listing, by simp [hnone]⟩

end Session

namespace Detectors

/-- A key is reported as often as detectors with that key find something.  So no key is reported twice
where no two detectors of one key find something, and never from a table in which no key stands twice.
A project that is set up takes the template of each key that is reported, as often as it is reported. -/
theorem reported_per_detector (ds : Detectors) :
    (∀ entries key, (ds.detect entries).count key =
      ds.countP fun d => d.template = key ∧ d.Finds entries) ∧
    (∀ entries, (ds.detect entries).Nodup ↔ ds.Pairwise fun d d' =>
      d.Finds entries → d'.Finds entries → d.template ≠ d'.template) ∧
    ((ds.map (·.template)).Nodup → ∀ entries, (ds.detect entries).Nodup) ∧
    ∀ s : Session, s.project.detectors = ds → s.parse.1 = .ok () →
      ∃ entries keys, keys = ds.detect entries ∧
        (s.world.detect ds s.project.dir).1 = .ok keys ∧
        s.parse.2.project.languages = some keys ∧
        (s.parse.2.project.texts = none ∨ ∃ listing : Listing,
          s.parse.2.project.texts = some ((keys.filterMap listing.get?).map (·.contents))) := by
  refine ⟨ds.count_detect, fun entries => nodup_detect_iff, nodup_detect, ?_⟩
  intro s hds h
  rcases Session.texts_of_parse h with ⟨keys, hkeys, hproject⟩
  rw [hds] at hkeys
  rcases exists_detect_of_world hkeys with ⟨entries, hentries⟩
  exact ⟨entries, keys, hentries, hkeys, hproject⟩

/-! ### One key for two detectors -/

/-- Two detectors of one key. -/
def doubled : Detectors :=
  [⟨"x".toList, [.name "a".toList]⟩, ⟨"x".toList, [.name "b".toList]⟩]

/-- A project with those detectors and a template for the key, in a directory with files for both. -/
def doubledProject : Session :=
  ⟨⟨Path.parse "/p".toList, false, doubled,
      some (.ofListing ⟨[], .here, 1000⟩ ⟨[("x".toList, Template.ofText "x".toList "*.o".toList)]⟩),
      none, none, none, none⟩,
    .ofFiles ⟨.folder "p".toList (.file "a".toList .empty (.file "b".toList .empty .empty)) .empty, []⟩⟩

/-- Among files for both detectors the key is reported twice, and the project takes its template twice. -/
theorem reported_twice :
    ¬ (doubled.detect [.ofName "a".toList true, .ofName "b".toList true]).Nodup ∧
      doubledProject.parse.2.project.texts = some [.string "*.o".toList, .string "*.o".toList] :=
  ⟨by decide +kernel, rfl⟩

/-- Two markers of one language are one key in the standard table; two detectors of one key are two keys
of a project. -/
theorem reported_per_detector_standard :
    (standard.detect [.ofName "go.mod".toList true, .ofName "go.sum".toList true]).Nodup ∧
      ∃ keys, doubledProject.parse.2.project.languages = some keys ∧ keys.count "x".toList = 2 := by
  have hparse : doubledProject.parse.1 = .ok () := rfl
  have hnodup := (reported_per_detector standard).2.2.1 nodup_templates_standard
  rcases (reported_per_detector doubled).2.2.2 doubledProject rfl hparse with
    ⟨entries, keys, -, hkeys, hlanguages, -⟩
  refine ⟨hnodup _, keys, hlanguages, ?_⟩
  have htwice : (doubledProject.world.detect doubled (Path.parse "/p".toList)).1 =
      .ok ["x".toList, "x".toList] := rfl
  rw [Except.ok.inj (hkeys.symm.trans htwice)]
  decide

end Detectors

end IgnoreRules
