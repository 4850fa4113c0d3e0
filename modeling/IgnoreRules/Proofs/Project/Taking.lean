import IgnoreRules.Proofs.Project.OwnFile
import IgnoreRules.Proofs.Template.Unusable

/-!
# Taking texts one after the other

A project takes its texts from templates, from its own ignore file and from others.  Each way of taking
them is described by what it adds to the texts there are, or by its failure; either way the files of
the world stay as they are, so that it does not matter in what order they are looked at.

* `IgnoreFile.completeAt`, `IgnoreFile.textAt` : whether a file is there in full, and its text;
* `Listing.called` : the contents of the templates that a directory calls for;
* `Session.Has` : a project in a world, with some texts and the rules that they determine;
* `Session.parse_of_listing`, `Session.Has.useIgnoreFile`, `Session.Has.addIgnoreFile` : what each way of
  taking texts adds.
-/

namespace IgnoreRules

/-! ## Texts of files -/

namespace IgnoreFile

/-- Whether there is a file and it is read in full. -/
def completeAt (files : FileSystem) (path : Path) : Bool :=
  match read files path with
  | .ok f => f.isComplete
  | .error _ => false

/-- The text that is read from a file; nothing is read where there is none. -/
def textAt (files : FileSystem) (path : Path) : Text :=
  match read files path with
  | .ok f => f.text
  | .error _ => []

section Texts

variable {files : FileSystem} {path : Path} {f : IgnoreFile}

theorem textAt_of_read (h : read files path = .ok f) : textAt files path = f.text := by
  unfold textAt
  rw [h]

theorem textAt_of_absent (h : files.exists? path = .ok false) : textAt files path = [] :=
  textAt_of_read (read_of_absent h)

theorem exists_read_of_completeAt (h : completeAt files path = true) :
    ∃ f, read files path = .ok f ∧ f.isComplete = true := by
  unfold completeAt at h
  split at h
  · next f hread => exact ⟨f, hread, h⟩
  · cases h

theorem isComplete_of_not_completeAt (h : completeAt files path = false) (hread : read files path = .ok f) :
    f.isComplete = false := by
  unfold completeAt at h
  rw [hread] at h
  exact h

/-- What is read from something that is there is not a missing file. -/
theorem isMissing_of_read (h : files.exists? path = .ok true) (hread : read files path = .ok f) :
    f.isMissing = false := by
  unfold FileSystem.exists? FileSystem.ask at h
  split at h
  · next node hnode =>
      cases (read_of_node hnode).symm.trans hread
      exact isMissing_ofNode path node
  · split at h
    · cases h
    · cases h

theorem exists?_of_completeAt (h : completeAt files path = true) : files.exists? path = .ok true := by
  obtain ⟨f, hread, hcomplete⟩ := exists_read_of_completeAt h
  cases hexists : files.exists? path with
  | error e =>
      rw [read_of_unreachable hexists] at hread
      cases hread
  | ok found =>
      cases found with
      | true => rfl
      | false =>
          rw [read_of_absent hexists] at hread
          cases hread
          cases hcomplete

/-- Reporting on a file only writes to the journal. -/
theorem files_report (f : IgnoreFile) (w : World) : (f.report w).files = w.files := by
  have hnoted : ∀ {α : Type} (level : Log.Level) (message : α → String) (l : List α) (w : World),
      (l.foldl (fun w a => w.note level Log.Component.files (message a)) w).files = w.files := by
    intro α level message l
    induction l with
    | nil => exact fun w => rfl
    | cons a l ih => exact fun w => ih (w.note level Log.Component.files (message a))
  unfold report
  dsimp only
  split
  · rfl
  · exact (hnoted .warning _ f.doubts _).trans (hnoted .error _ f.problems w)

end Texts

end IgnoreFile

/-- The languages that some detectors find where a path leads; there are none unless it leads to a
directory. -/
def Detectors.found (ds : Detectors) (files : FileSystem) (path : Path) : List Text :=
  match files.folder path with
  | .error _ => []
  | .ok folder => ds.detect (World.dirEntries path folder)

/-- The contents of the templates that a directory calls for: those of the detectors that find
something in it, in the order of the detectors, as far as there are such templates. -/
def Listing.called (l : Listing) (files : FileSystem) (dir : Path) : List Json :=
  match files.folder dir with
  | .error _ => []
  | .ok folder => Detectors.standard.filterMap fun d =>
      if d.detects (World.dirEntries dir folder) then (l.get? d.template).map (·.contents) else none

/-! ## A project with some texts -/

namespace Session

/-- A project in a world: its directory, the files there are, its texts, and the rules of the texts. -/
structure Has (s : Session) (dir : Path) (files : FileSystem) (texts : List Text) : Prop where
  dir_eq : s.project.dir = dir
  files_eq : s.world.files = files
  texts_eq : s.project.texts.getD [] = texts.map .string
  rules : ∃ rules, s.project.rules = some rules ∧ Project.RulesOf dir texts rules

section Taking

variable {s : Session} {dir path : Path} {files : FileSystem} {texts : List Text} {text : Text}

theorem has_setTexts {chosen : Option (List Json)} (hdir : s.project.dir = dir)
    (hfiles : s.world.files = files) (htexts : chosen.getD [] = texts.map .string) :
    (s.setTexts chosen).1 = .ok () ∧ (s.setTexts chosen).2.Has dir files texts := by
  subst hdir hfiles
  obtain ⟨rules, hproject, hrules⟩ := project_setTexts s htexts
  refine ⟨?_, ?_, files_setTexts s chosen, ?_, rules, ?_, hrules⟩
  · rw [setTexts_of_texts htexts]
  · rw [hproject]
  · rw [hproject]
    exact htexts
  · rw [hproject]

/-- One more text. -/
theorem Has.setText (h : s.Has dir files texts) {w : World} (hw : w.files = s.world.files) (text : Text) :
    (({ s with world := w } : Session).setText text true).1 = .ok () ∧
      (({ s with world := w } : Session).setText text true).2.Has dir files (texts ++ [text]) := by
  apply has_setTexts (s := { s with world := w }) h.dir_eq (hw.trans h.files_eq)
  rw [if_pos rfl, Option.getD_some, h.texts_eq, List.map_append]
  rfl

/-! ## Templates -/

/-- Looking for languages where there is something cannot fail. -/
theorem detect_of_exists {w : World} (detectors : Detectors) (h : w.files.exists? path = .ok true) :
    (w.detect detectors path).1 = .ok (detectors.found w.files path) := by
  unfold FileSystem.exists? FileSystem.ask at h
  unfold World.detect Detectors.found FileSystem.folder
  split at h
  · next node hnode =>
      rw [hnode]
      cases node with
      | file content => rfl
      | folder inside => rfl
  · split at h
    · cases h
    · cases h

theorem files_noteUnknown (listing : Listing) (w : World) (keys : List Text) :
    (TemplateStore.noteUnknown listing w keys).files = w.files := by
  unfold TemplateStore.noteUnknown
  induction keys generalizing w with
  | nil => rfl
  | cons key keys ih =>
      rw [List.foldl_cons, ih]
      split
      · rfl
      · rfl

/-- The keys that the detectors report lead to the templates that a directory calls for. -/
theorem called_eq (listing : Listing) (files : FileSystem) (dir : Path) :
    ((Detectors.standard.found files dir).filterMap listing.get?).map (·.contents) =
      listing.called files dir := by
  unfold Listing.called Detectors.found Detectors.detect
  cases files.folder dir with
  | error e => rfl
  | ok folder =>
      dsimp only
      rw [List.map_filterMap, List.filterMap_map, List.filterMap_filter]
      rfl

/-- A store that holds its templates answers from them. -/
theorem templateTexts_of_listing {store : TemplateStore} {listing : Listing}
    (hstore : s.project.store = some store) (hlisting : store.listing = some listing)
    (languages : List Text) :
    ∃ w, w.files = s.world.files ∧
      s.templateTexts languages =
        (.ok ((languages.filterMap listing.get?).map (·.contents)), s.afterStore store w) := by
  refine ⟨TemplateStore.noteUnknown listing s.world languages, files_noteUnknown _ _ _, ?_⟩
  unfold templateTexts storeOf
  rw [hstore]
  dsimp only
  unfold TemplateStore.textsFor TemplateStore.load
  rw [hlisting]

/-- Setting up a project with templates at hand sets the contents of those its directory calls for. -/
theorem parse_of_listing {store : TemplateStore} {listing : Listing}
    (hstore : s.project.store = some store) (hlisting : store.listing = some listing)
    (hdetectors : s.project.detectors = Detectors.standard)
    (hexists : s.world.files.exists? s.project.dir = .ok true) :
    ∃ (s' : Session) (chosen : Option (List Json)), s'.project.dir = s.project.dir ∧
      s'.world.files = s.world.files ∧
      chosen.getD [] = listing.called s.world.files s.project.dir ∧ s.parse = s'.setTexts chosen := by
  have hdetect := detect_of_exists s.project.detectors hexists
  have hfiles := (s.world.detect_unchanged s.project.detectors s.project.dir).1
  rcases hdetected : s.world.detect s.project.detectors s.project.dir with ⟨outcome, w⟩
  rw [hdetected] at hdetect hfiles
  dsimp only at hdetect hfiles
  subst hdetect
  -- The store is asked after the languages are noted, in the world that looking for them left.
  obtain ⟨w', hw', htexts⟩ := templateTexts_of_listing (s := s.knowing _ w) hstore hlisting _
  refine ⟨_, _, ?_, hw'.trans hfiles, ?_, (parse_of_detect hdetected).2 _ _ htexts⟩
  · rfl
  · rw [getD_brought, hdetectors, called_eq]

/-! ## Ignore files -/

/-- The project's own file: one more text, which is empty where there is no such file. -/
theorem Has.useIgnoreFile (h : s.Has dir files texts)
    (hown : files.exists? (dir.child IgnoreFile.standardName) = .ok false ∨
      IgnoreFile.completeAt files (dir.child IgnoreFile.standardName) = true) :
    (s.useIgnoreFile true).1 = .ok () ∧ (s.useIgnoreFile true).2.Has dir files
      (texts ++ [IgnoreFile.textAt files (dir.child IgnoreFile.standardName)]) := by
  have hplace : s.ownFile = dir.child IgnoreFile.standardName := by
    unfold ownFile
    rw [h.dir_eq]
  rw [← h.files_eq, ← hplace] at hown ⊢
  cases hown with
  | inl habsent =>
      rw [useIgnoreFile_of_missing (IgnoreFile.read_of_absent habsent) rfl,
        IgnoreFile.textAt_of_absent habsent]
      exact h.files_eq ▸ h.setText (IgnoreFile.files_report _ _) []
  | inr hcomplete =>
      obtain ⟨f, hread, hf⟩ := IgnoreFile.exists_read_of_completeAt hcomplete
      have hfound := IgnoreFile.isMissing_of_read (IgnoreFile.exists?_of_completeAt hcomplete) hread
      rw [useIgnoreFile_of_complete hread hfound hf, IgnoreFile.textAt_of_read hread]
      exact h.files_eq ▸ h.setText (IgnoreFile.files_report _ _) f.text

/-- The project's own file is refused when there is something and it is not read in full. -/
theorem Has.useIgnoreFile_refused (h : s.Has dir files texts)
    (hpresent : files.exists? (dir.child IgnoreFile.standardName) ≠ .ok false)
    (hnot : IgnoreFile.completeAt files (dir.child IgnoreFile.standardName) = false) :
    ∃ e, (s.useIgnoreFile true).1 = .error e := by
  have hplace : s.ownFile = dir.child IgnoreFile.standardName := by
    unfold ownFile
    rw [h.dir_eq]
  rw [← h.files_eq, ← hplace] at hpresent hnot
  cases hexists : s.world.files.exists? s.ownFile with
  | error e =>
      have hread := IgnoreFile.read_of_unreachable hexists
      exact ⟨_, congrArg Prod.fst (useIgnoreFile_of_unreachable hread)⟩
  | ok found =>
      cases found with
      | false => exact absurd hexists hpresent
      | true =>
          cases hread : IgnoreFile.read s.world.files s.ownFile with
          | error e => exact ⟨_, congrArg Prod.fst (useIgnoreFile_of_unreachable hread)⟩
          | ok f =>
              obtain ⟨reason, hrefused⟩ := useIgnoreFile_of_incomplete true hread
                (IgnoreFile.isMissing_of_read hexists hread)
                (IgnoreFile.isComplete_of_not_completeAt hnot hread)
              exact ⟨_, congrArg Prod.fst hrefused⟩

/-- Another file that is read in full: one more text. -/
theorem Has.addIgnoreFile (h : s.Has dir files texts) (hcomplete : IgnoreFile.completeAt files path = true) :
    (s.addIgnoreFile path).1 = .ok () ∧
      (s.addIgnoreFile path).2.Has dir files (texts ++ [IgnoreFile.textAt files path]) := by
  rw [← h.files_eq] at hcomplete ⊢
  obtain ⟨f, hread, hf⟩ := IgnoreFile.exists_read_of_completeAt hcomplete
  have hadded : s.addIgnoreFile path =
      ({ s with world := f.report s.world } : Session).setText f.text true := by
    unfold Session.addIgnoreFile IgnoreFile.load
    rw [hread]
    dsimp only
    rw [textOf_of_isComplete hf]
  rw [hadded, IgnoreFile.textAt_of_read hread]
  exact h.files_eq ▸ h.setText (IgnoreFile.files_report _ _) f.text

/-- Any other file is refused. -/
theorem Has.addIgnoreFile_refused (h : s.Has dir files texts)
    (hnot : IgnoreFile.completeAt files path = false) : ∃ e, (s.addIgnoreFile path).1 = .error e := by
  rw [← h.files_eq] at hnot
  unfold Session.addIgnoreFile IgnoreFile.load
  cases hread : IgnoreFile.read s.world.files path with
  | error e => exact ⟨_, rfl⟩
  | ok f =>
      obtain ⟨reason, hreason⟩ :=
        textOf_of_not_isComplete (IgnoreFile.isComplete_of_not_completeAt hnot hread)
      dsimp only
      rw [hreason]
      exact ⟨_, rfl⟩

end Taking

end Session

end IgnoreRules
