import IgnoreRules.Proofs.FileSystem.Writing
import IgnoreRules.Proofs.Json.LineEndings
import IgnoreRules.Proofs.Json.Nesting
import IgnoreRules.Proofs.Text.Utf8
import IgnoreRules.Template.Store
import IgnoreRules.Web.Client

/-!
# The file that keeps a download

Loading templates never puts anything into the file but a document that was read as a listing, and
leaves it alone when there are no templates in the end.  What was written is read as the same listing
by every other store, although reading a file unifies its line endings.  All of this holds whatever the
client does with an address.

* `TemplateStore.Downloads` : whether loading goes to the web;
* `TemplateStore.loadFromWeb_of_error`, `TemplateStore.loadFromWeb_of_unread`,
  `TemplateStore.loadFromWeb_of_listing` : the three ways a download ends;
* `TemplateStore.read_of_writeFile`, `TemplateStore.kept?_of_writeFile` : writing the file;
* `TemplateStore.load_of_listing` : loading from the file;
* `TemplateStore.load_safe` : what loading does to the file.
-/

namespace IgnoreRules

/-! ## Listings -/

namespace Listing

variable {nesting : Nat} {document entry : Text} {fields : List (Text × Json)} {value : Json}
  {listing : Listing}

/-- One entry at fault is enough. -/
theorem exists_fault_of_mem (hmem : (entry, value) ∈ fields)
    (h : ∀ t, Template.ofJson entry value ≠ .ok t) : ∃ fault, readEntries fields = .error fault := by
  induction fields with
  | nil => cases hmem
  | cons first rest ih =>
      obtain ⟨e, v⟩ := first
      rw [readEntries]
      cases hread : Template.ofJson e v with
      | error fault => exact ⟨fault, rfl⟩
      | ok t =>
          rcases List.mem_cons.1 hmem with heq | hrest
          · cases heq
            exact absurd hread (h t)
          · obtain ⟨fault, hfault⟩ := ih hrest
            exact ⟨fault, by rw [hfault]; rfl⟩

/-- A document with an entry that is no template is no listing. -/
theorem exists_fault_of_entry (hjson : Json.parse nesting document = .ok (.object fields))
    (hmem : (entry, value) ∈ fields) (h : ∀ t, Template.ofJson entry value ≠ .ok t) :
    ∃ fault, parse nesting document = .error (.fault fault) := by
  obtain ⟨fault, hfault⟩ := exists_fault_of_mem hmem h
  refine ⟨fault, ?_⟩
  unfold parse ofJson
  rw [hjson]
  dsimp only
  rw [hfault]
  rfl

/-- A document is the same listing when its line endings are unified. -/
theorem parse_unifyReturns (nesting : Nat) (document : Text) :
    parse nesting (Text.unifyReturns document) = parse nesting document := by
  unfold parse
  rw [Json.parse_unifyReturns]

/-- What reading a document comes to where there is room for it is what it comes to where there is
more. -/
theorem parse_of_le {more : Nat} (h : nesting ≤ more) (hroom : parse nesting document ≠ .error .tooDeep) :
    parse more document = parse nesting document := by
  have hjson : Json.parse nesting document ≠ .error .tooDeep := fun hdeep => by
    unfold parse at hroom
    rw [hdeep] at hroom
    exact hroom rfl
  unfold parse
  rw [Json.parse_of_le h hjson]

end Listing

namespace TemplateStore

variable {s : TemplateStore} {w : World} {config : TemplateConfig} {files files' : FileSystem}
  {document : Text} {listing : Listing} {nesting : Nat} {bytes : ByteArray}

/-! ## Writing the file -/

/-- The bytes of the file that keeps a download, if there is such a file. -/
def kept? (config : TemplateConfig) (files : FileSystem) : Option ByteArray :=
  (files.read config.cachePath).toOption

theorem kept?_eq_some_iff {bytes : ByteArray} :
    kept? config files = some bytes ↔ files.read config.cachePath = .ok bytes := by
  unfold kept?
  cases files.read config.cachePath with
  | error e => simp [Except.toOption]
  | ok b => simp [Except.toOption]

theorem kept?_eq_none (h : ∀ bytes, files.read config.cachePath ≠ .ok bytes) :
    kept? config files = none := by
  rw [Option.eq_none_iff_forall_ne_some]
  intro bytes hbytes
  exact h bytes (kept?_eq_some_iff.1 hbytes)

/-- Writing that succeeds leaves the document in the file. -/
theorem read_of_writeFile (h : writeFile config files document = (none, files')) :
    files'.read config.cachePath = .ok (Text.encode document) := by
  unfold writeFile at h
  split at h
  · cases h
  · next made hmade =>
      split at h
      · cases h
      · next written hwritten =>
          cases h
          exact FileSystem.read_of_write hwritten

/-- Writing fails at the folders on the way or behind them. -/
theorem obstacle_of_writeFile {e : FileError} (h : writeFile config files document = (some e, files')) :
    files.makeFolders config.cachePath.parent = (some e, files') ∨
      files.makeFolders config.cachePath.parent = (none, files') ∧
        files'.write config.cachePath (Text.encode document) = .error e := by
  unfold writeFile at h
  split at h
  · next hmade =>
      cases h
      exact Or.inl hmade
  · next made hmade =>
      split at h
      · next hfailed =>
          cases h
          exact Or.inr ⟨hmade, hfailed⟩
      · cases h

/-- Writing that fails leaves in the file what was there. -/
theorem kept?_of_writeFile {e : FileError} (h : writeFile config files document = (some e, files')) :
    kept? config files' = kept? config files := by
  by_cases hparts : config.cachePath.parts = []
  · -- Without components there is nothing to make, so nothing has changed.
    have hunchanged : (files.makeFolders config.cachePath.parent).2 = files :=
      FileSystem.makeFolders_of_parts_nil hparts
    have hsame : files' = files := by
      rcases obstacle_of_writeFile h with hmade | ⟨hmade, -⟩
      · rw [hmade] at hunchanged
        exact hunchanged
      · rw [hmade] at hunchanged
        exact hunchanged
    rw [hsame]
  · have hafter : ∀ bytes, files'.read config.cachePath ≠ .ok bytes := by
      intro bytes hread
      rcases obstacle_of_writeFile h with hmade | ⟨-, hfailed⟩
      · exact FileSystem.read_ne_ok_of_makeFolders hmade hparts hread
      · obtain ⟨written, hwritten⟩ : ∃ written,
            files'.write config.cachePath (Text.encode document) = .ok written :=
          FileSystem.exists_write_of_read hread hparts
        rw [hfailed] at hwritten
        cases hwritten
    have hbefore : ∀ bytes, files.read config.cachePath ≠ .ok bytes := by
      intro bytes hread
      have hmade := FileSystem.makeFolders_of_read hread hparts
      rcases obstacle_of_writeFile h with hobstacle | ⟨hsame, -⟩
      · rw [hmade] at hobstacle
        cases hobstacle
      · -- The folders were there, so the file would be there still.
        rw [hmade] at hsame
        cases hsame
        exact hafter bytes hread
    rw [kept?_eq_none hbefore, kept?_eq_none hafter]

/-! ## Downloads -/

theorem files_keep (config : TemplateConfig) (w : World) (document : Text) :
    (keep config w document).2.files = (writeFile config w.files document).2 := by
  unfold keep
  split
  · next h => rw [h]
  · next h => rw [h]
  · next h => rw [h]; rfl

theorem web_keep (config : TemplateConfig) (w : World) (document : Text) :
    (keep config w document).2.web = w.web := by
  unfold keep
  split
  · rfl
  · rfl
  · rfl

/-- Only a path that cannot be any file's is a failure. -/
theorem fst_keep (config : TemplateConfig) (w : World) (document : Text) :
    (keep config w document).1 = .ok () ∨
      (keep config w document).1 = .error (.file .nullCharacter) ∧
        (writeFile config w.files document).1 = some .nullCharacter := by
  unfold keep
  split
  · exact Or.inl rfl
  · next h => exact Or.inr ⟨rfl, by rw [h]⟩
  · exact Or.inl rfl

theorem fst_fetch (s : TemplateStore) (w : World) :
    (s.fetch w).1 = (w.web.download s.config.url s.redirects).1 :=
  rfl

/-- Loading from the web makes one download, whatever comes of it. -/
theorem web_loadFromWeb (s : TemplateStore) (w : World) :
    (s.loadFromWeb w).2.2.web = (w.web.download s.config.url s.redirects).2 := by
  have hfetch : (s.fetch w).2.web = (w.web.download s.config.url s.redirects).2 := rfl
  rw [← hfetch]
  unfold loadFromWeb
  split
  · next w' h => rw [h]
  · next document w' h =>
      rw [h]
      split
      · rfl
      · have hkeep := web_keep s.config w' document
        split
        · next hkept =>
            rw [hkept] at hkeep
            exact hkeep
        · next hkept =>
            rw [hkept] at hkeep
            exact hkeep

/-- A download that fails leaves the store and the files as they were. -/
theorem loadFromWeb_of_error {e : FetchError}
    (h : (w.web.download s.config.url s.redirects).1 = .error e) :
    (s.loadFromWeb w).1 = .error (Failure.ofFetch e) ∧ (s.loadFromWeb w).2.1 = s ∧
      (s.loadFromWeb w).2.2.files = w.files := by
  have hfetch : s.fetch w = (.error e, (s.fetch w).2) := by
    rw [← h, ← fst_fetch]
  unfold loadFromWeb
  rw [hfetch]
  exact ⟨rfl, rfl, rfl⟩

/-- So does a document that is not read as a listing. -/
theorem loadFromWeb_of_unread {e : ListingError}
    (h : (w.web.download s.config.url s.redirects).1 = .ok document)
    (hparse : Listing.parse w.env.nesting document = .error e) :
    (s.loadFromWeb w).1 = .error (Failure.ofListing e) ∧ (s.loadFromWeb w).2.1 = s ∧
      (s.loadFromWeb w).2.2.files = w.files := by
  have hfetch : s.fetch w = (.ok document, (s.fetch w).2) := by
    rw [← h, ← fst_fetch]
  have hroom : (s.fetch w).2.env.nesting = w.env.nesting := rfl
  unfold loadFromWeb
  rw [hfetch]
  dsimp only
  rw [hroom, hparse]
  exact ⟨rfl, rfl, rfl⟩

/-- A listing is written to the file. -/
theorem loadFromWeb_of_listing (h : (w.web.download s.config.url s.redirects).1 = .ok document)
    (hparse : Listing.parse w.env.nesting document = .ok listing) :
    ((s.loadFromWeb w).1 = .ok listing ∨
        (s.loadFromWeb w).1 = .error (.file .nullCharacter) ∧
          (writeFile s.config w.files document).1 = some .nullCharacter) ∧
      (s.loadFromWeb w).2.2.files = (writeFile s.config w.files document).2 := by
  have hfetch : s.fetch w = (.ok document, (s.fetch w).2) := by
    rw [← h, ← fst_fetch]
  have hroom : (s.fetch w).2.env.nesting = w.env.nesting := rfl
  have hfiles : (keep s.config (s.fetch w).2 document).2.files =
      (writeFile s.config w.files document).2 := files_keep s.config (s.fetch w).2 document
  have houtcome : (keep s.config (s.fetch w).2 document).1 = .ok () ∨
      (keep s.config (s.fetch w).2 document).1 = .error (.file .nullCharacter) ∧
        (writeFile s.config w.files document).1 = some .nullCharacter :=
    fst_keep s.config (s.fetch w).2 document
  unfold loadFromWeb
  rw [hfetch]
  dsimp only
  rw [hroom, hparse]
  dsimp only
  split
  · next e w' hkept =>
      rw [hkept] at hfiles houtcome
      rcases houtcome with hok | ⟨hnull, hobstacle⟩
      · cases hok
      · cases hnull
        exact ⟨Or.inr ⟨rfl, hobstacle⟩, hfiles⟩
  · next w' hkept =>
      rw [hkept] at hfiles
      exact ⟨Or.inl rfl, hfiles⟩

/-- Loading from the web ends with a listing, or leaves the store and the files as they were; only a
path that cannot be any file's fails behind that. -/
theorem loadFromWeb_of_failure {e : Failure} (he : (s.loadFromWeb w).1 = .error e) :
    e = .file .nullCharacter ∨ (s.loadFromWeb w).2.2.files = w.files := by
  cases hdocument : (w.web.download s.config.url s.redirects).1 with
  | error cause => exact Or.inr (loadFromWeb_of_error hdocument).2.2
  | ok document =>
      cases hparse : Listing.parse w.env.nesting document with
      | error fault => exact Or.inr (loadFromWeb_of_unread hdocument hparse).2.2
      | ok listing =>
          left
          rcases (loadFromWeb_of_listing hdocument hparse).1 with hok | ⟨hnull, -⟩
          · rw [hok] at he
            cases he
          · rw [hnull] at he
            cases he
            rfl

/-- What loading from the web returns is what the document says. -/
theorem parse_of_loadFromWeb (hdocument : (w.web.download s.config.url s.redirects).1 = .ok document)
    (hlisting : (s.loadFromWeb w).1 = .ok listing) :
    Listing.parse w.env.nesting document = .ok listing := by
  cases hparse : Listing.parse w.env.nesting document with
  | error unread =>
      rw [(loadFromWeb_of_unread hdocument hparse).1] at hlisting
      cases hlisting
  | ok other =>
      rcases (loadFromWeb_of_listing hdocument hparse).1 with hok | ⟨hnull, -⟩
      · rw [hok] at hlisting
        cases hlisting
        rfl
      · rw [hnull] at hlisting
        cases hlisting

/-- A store holds what it loaded, and is as it was when there was nothing to load. -/
theorem store_loadFromWeb (s : TemplateStore) (w : World) :
    (s.loadFromWeb w).2.1 =
      match (s.loadFromWeb w).1 with
      | .ok listing => { s with listing := some listing }
      | .error _ => s := by
  unfold loadFromWeb
  split
  · rfl
  · split
    · rfl
    · split
      · rfl
      · rfl

/-! ## Loading -/

/-- Whether loading goes to the web: nothing was loaded yet, and the file is not there or holds no
listing. -/
def Downloads (s : TemplateStore) (w : World) : Prop :=
  s.listing = none ∧ (cache s.config w = .absent ∨ ∃ reason, cache s.config w = .unusable reason)

theorem load_of_downloads (h : s.Downloads w) :
    ∃ v : World, v.files = w.files ∧ v.web = w.web ∧ v.env = w.env ∧ s.load w = s.loadFromWeb v := by
  obtain ⟨hnone, habsent | ⟨reason, hunusable⟩⟩ := h
  · refine ⟨w, rfl, rfl, rfl, ?_⟩
    unfold load
    rw [hnone]
    dsimp only
    rw [habsent]
  · refine ⟨_, ?_, ?_, ?_, by
      unfold load
      rw [hnone]
      dsimp only
      rw [hunusable]⟩
    · rfl
    · rfl
    · rfl

/-- Otherwise no file changes, the store stays as it was unless something was loaded, and nothing about
templates is wrong. -/
theorem load_of_not_downloads (h : ¬s.Downloads w) :
    (s.load w).2.2.files = w.files ∧ (∀ e, (s.load w).1 = .error e → (s.load w).2.1 = s) ∧
      ∀ e, (s.load w).1 ≠ .error (.template e) := by
  unfold load
  split
  · exact ⟨rfl, nofun, nofun⟩
  · next hnone =>
      split
      · exact ⟨rfl, fun _ _ => rfl, nofun⟩
      · exact ⟨rfl, fun _ _ => rfl, nofun⟩
      · exact ⟨rfl, fun _ _ => rfl, nofun⟩
      · next habsent => exact absurd ⟨hnone, Or.inl habsent⟩ h
      · next reason hunusable => exact absurd ⟨hnone, Or.inr ⟨reason, hunusable⟩⟩ h
      · exact ⟨rfl, nofun, nofun⟩

theorem cacheOfBytes_of_le {n m : Nat} {bytes : ByteArray} (h : n ≤ m)
    (hroom : cacheOfBytes n bytes ≠ .tooDeep) : cacheOfBytes m bytes = cacheOfBytes n bytes := by
  unfold cacheOfBytes at hroom ⊢
  cases hdecode : Text.decode? bytes with
  | none => rfl
  | some document =>
      rw [hdecode] at hroom
      dsimp only at hroom ⊢
      rw [Listing.parse_of_le h]
      intro hdeep
      rw [hdeep] at hroom
      exact hroom rfl

/-- What the file holds is the same where there is more room for nesting. -/
theorem cache_of_le {w' : World} (hfiles : w'.files = w.files) (h : w.env.nesting ≤ w'.env.nesting)
    (hroom : cache config w ≠ .tooDeep) : cache config w' = cache config w := by
  unfold cache at hroom ⊢
  rw [hfiles]
  cases hexists : w.files.exists? config.cachePath with
  | error e => rfl
  | ok found =>
      cases found with
      | false => rfl
      | true =>
          rw [hexists] at hroom
          dsimp only at hroom ⊢
          cases hread : w.files.read config.cachePath with
          | error e => rfl
          | ok bytes =>
              rw [hread] at hroom
              exact cacheOfBytes_of_le h hroom

/-- Where the file has sent loading to the web, it does so again. -/
theorem Downloads.again {w' : World} (h : s.Downloads w) (hfiles : w'.files = w.files)
    (hroom : w.env.nesting ≤ w'.env.nesting) : s.Downloads w' := by
  obtain ⟨hnone, hcache⟩ := h
  refine ⟨hnone, ?_⟩
  rw [cache_of_le hfiles hroom]
  · exact hcache
  · rcases hcache with habsent | ⟨reason, hunusable⟩
    · rw [habsent]
      nofun
    · rw [hunusable]
      nofun

theorem cache_of_read {config : TemplateConfig} (h : w.files.read config.cachePath = .ok bytes) :
    cache config w = cacheOfBytes w.env.nesting bytes := by
  have hexists : w.files.exists? config.cachePath = .ok true := by
    unfold FileSystem.exists? FileSystem.ask
    rw [FileSystem.read_eq_ok_iff.1 h]
  unfold cache
  rw [hexists]
  dsimp only
  rw [h]

/-- Text in the file is read as the listing it is before its line endings are unified. -/
theorem cacheOfBytes_of_text (h : Text.decode? bytes = some document) :
    cacheOfBytes nesting bytes = .ofRead (Listing.parse nesting document) := by
  unfold cacheOfBytes
  rw [h]
  dsimp only
  rw [Listing.parse_unifyReturns]

/-- A listing in the file is loaded without a request. -/
theorem load_of_listing (hnone : s.listing = none)
    (hread : w.files.read s.config.cachePath = .ok bytes) (h : Text.decode? bytes = some document)
    (hparse : Listing.parse w.env.nesting document = .ok listing) :
    (s.load w).1 = .ok listing ∧ (s.load w).2.1 = { s with listing := some listing } ∧
      (s.load w).2.2.files = w.files ∧ (s.load w).2.2.web = w.web := by
  unfold load
  rw [hnone]
  dsimp only
  rw [cache_of_read hread, cacheOfBytes_of_text h, hparse]
  exact ⟨rfl, rfl, rfl, rfl⟩

/-- Nothing gets into the file but a download that is a listing. -/
theorem kept?_load (s : TemplateStore) (w : World) :
    kept? s.config (s.load w).2.2.files = kept? s.config w.files ∨
      ∃ document listing, (w.web.download s.config.url s.redirects).1 = .ok document ∧
        Listing.parse w.env.nesting document = .ok listing ∧
          kept? s.config (s.load w).2.2.files = some (Text.encode document) := by
  by_cases hdownloads : s.Downloads w
  · -- The warning about a file that cannot be used is noted in `v`; all else is that of `w`.
    obtain ⟨v, hfiles, hweb, henv, hload⟩ := load_of_downloads hdownloads
    rw [hload, ← hfiles, ← hweb, ← henv]
    cases hdocument : (v.web.download s.config.url s.redirects).1 with
    | error e =>
        left
        rw [(loadFromWeb_of_error hdocument).2.2]
    | ok document =>
        cases hparse : Listing.parse v.env.nesting document with
        | error fault =>
            left
            rw [(loadFromWeb_of_unread hdocument hparse).2.2]
        | ok listing =>
            have hafter := (loadFromWeb_of_listing hdocument hparse).2
            -- Whether the document is in the file now depends on whether it could be written.
            rcases hwritten : writeFile s.config v.files document with ⟨obstacle, files⟩
            rw [hwritten] at hafter
            rw [hafter]
            cases obstacle with
            | none =>
                exact Or.inr ⟨document, listing, rfl, hparse,
                  kept?_eq_some_iff.2 (read_of_writeFile hwritten)⟩
            | some e => exact Or.inl (kept?_of_writeFile hwritten)
  · left
    rw [(load_of_not_downloads hdownloads).1]

/-- There are no templates where the download failed or is no listing.  Then the store and the files
are as they were. -/
theorem load_eq_template_error_iff (s : TemplateStore) (w : World) (e : TemplateError) :
    (s.load w).1 = .error (.template e) ↔ s.Downloads w ∧
      ((∃ reason, (w.web.download s.config.url s.redirects).1 = .error (.download reason) ∧
          e = .download reason) ∨
        ∃ document fault, (w.web.download s.config.url s.redirects).1 = .ok document ∧
          Listing.parse w.env.nesting document = .error (.fault fault) ∧ e = .listing fault) := by
  by_cases hdownloads : s.Downloads w
  · obtain ⟨v, -, hweb, henv, hload⟩ := load_of_downloads hdownloads
    rw [hload, ← hweb, ← henv, and_iff_right hdownloads]
    cases hdocument : (v.web.download s.config.url s.redirects).1 with
    | error cause =>
        rw [(loadFromWeb_of_error hdocument).1]
        -- An error of another kind says nothing about templates.
        cases cause with
        | download reason => simp [Failure.ofFetch, eq_comm]
        | foreign cause => simp [Failure.ofFetch]
    | ok document =>
        cases hparse : Listing.parse v.env.nesting document with
        | error unread =>
            rw [(loadFromWeb_of_unread hdocument hparse).1]
            cases unread with
            | fault fault => simp [hparse, Failure.ofListing, eq_comm]
            | tooDeep => simp [hparse, Failure.ofListing]
        | ok listing =>
            rcases (loadFromWeb_of_listing hdocument hparse).1 with hok | ⟨hnull, -⟩
            · simp [hok, hparse]
            · simp [hnull, hparse]
  · have hno := (load_of_not_downloads hdownloads).2.2 e
    exact iff_of_false hno fun h => hdownloads h.1

/-- Loading that fails leaves the store as it was, and the files too, unless the path of the file cannot
be any file's. -/
theorem unchanged_of_load_error {e : Failure} (h : (s.load w).1 = .error e) :
    (s.load w).2.1 = s ∧ (e = .file .nullCharacter ∨ (s.load w).2.2.files = w.files) := by
  by_cases hdownloads : s.Downloads w
  · obtain ⟨v, hfiles, -, -, hload⟩ := load_of_downloads hdownloads
    rw [hload] at h ⊢
    rw [store_loadFromWeb, h, ← hfiles]
    exact ⟨rfl, loadFromWeb_of_failure h⟩
  · obtain ⟨hfiles, hstore, -⟩ := load_of_not_downloads hdownloads
    exact ⟨hstore e h, Or.inr hfiles⟩

theorem listing_of_load_error {e : Failure} (h : (s.load w).1 = .error e) : s.listing = none := by
  cases hlisting : s.listing with
  | none => rfl
  | some listing =>
      unfold load at h
      rw [hlisting] at h
      cases h

theorem web_load_of_downloads (h : s.Downloads w) :
    (s.load w).2.2.web = (w.web.download s.config.url s.redirects).2 := by
  obtain ⟨v, -, hweb, -, hload⟩ := load_of_downloads h
  rw [hload, ← hweb]
  exact web_loadFromWeb s v

/-- What was downloaded and written is loaded by every other store, without a request. -/
theorem load_again (redirects : Bool) {w' : World} (hdownloads : s.Downloads w)
    (hdocument : (w.web.download s.config.url s.redirects).1 = .ok document)
    (hlisting : (s.load w).1 = .ok listing)
    (hwritten : (writeFile s.config w.files document).1 = none)
    (hfiles' : w'.files = (s.load w).2.2.files) (hroom : w.env.nesting ≤ w'.env.nesting) :
    (load ⟨s.config, redirects, none⟩ w').1 = .ok listing ∧
      (load ⟨s.config, redirects, none⟩ w').2.2.web = w'.web := by
  obtain ⟨v, hfiles, hweb, henv, hload⟩ := load_of_downloads hdownloads
  rw [hload] at hlisting hfiles'
  rw [← hweb] at hdocument
  rw [← hfiles] at hwritten
  rw [← henv] at hroom
  have hparse := parse_of_loadFromWeb hdocument hlisting
  -- The document is in the file, whatever the file was before.
  have hread : w'.files.read s.config.cachePath = .ok (Text.encode document) := by
    rw [hfiles', (loadFromWeb_of_listing hdocument hparse).2]
    exact read_of_writeFile (Prod.ext hwritten rfl)
  have hfresh : (TemplateStore.mk s.config redirects none).listing = none := rfl
  have hagain : Listing.parse w'.env.nesting document = .ok listing := by
    rw [Listing.parse_of_le hroom (by rw [hparse]; nofun), hparse]
  obtain ⟨hreturned, -, -, hweb'⟩ := load_of_listing hfresh hread (Text.decode?_encode document) hagain
  exact ⟨hreturned, hweb'⟩

/-- Loading puts nothing into the file but a download that is a listing.  It ends without templates
where the download failed or is no listing, as it is with one entry at fault.  However it fails, the store
is still not loaded, and the files are as they were unless the path of the file cannot be any file's; if
it ended without templates, loading again downloads again.  What was downloaded and written is loaded
from the file by any other store with the same configuration, as the same listing and without a request,
where there is no less room for nesting than there was. -/
theorem load_safe (s : TemplateStore) (w : World) :
    (kept? s.config (s.load w).2.2.files = kept? s.config w.files ∨
      ∃ document listing, (w.web.download s.config.url s.redirects).1 = .ok document ∧
        Listing.parse w.env.nesting document = .ok listing ∧
          kept? s.config (s.load w).2.2.files = some (Text.encode document)) ∧
    (∀ e, (s.load w).1 = .error (.template e) ↔ s.Downloads w ∧
      ((∃ reason, (w.web.download s.config.url s.redirects).1 = .error (.download reason) ∧
          e = .download reason) ∨
        ∃ document fault, (w.web.download s.config.url s.redirects).1 = .ok document ∧
          Listing.parse w.env.nesting document = .error (.fault fault) ∧ e = .listing fault)) ∧
    (∀ nesting document fields entry value, Json.parse nesting document = .ok (.object fields) →
      (entry, value) ∈ fields → (∀ t, Template.ofJson entry value ≠ .ok t) →
        ∃ fault, Listing.parse nesting document = .error (.fault fault)) ∧
    (∀ e, (s.load w).1 = .error e → s.listing = none ∧ (s.load w).2.1 = s ∧
      (e = .file .nullCharacter ∨ (s.load w).2.2.files = w.files)) ∧
    (∀ e, (s.load w).1 = .error (.template e) →
      (s.load w).2.2.files = w.files ∧
        ∀ w' : World, w'.files = (s.load w).2.2.files → w.env.nesting ≤ w'.env.nesting →
          ((s.load w).2.1.load w').2.2.web = (w'.web.download s.config.url s.redirects).2) ∧
    ∀ document listing, s.Downloads w →
      (w.web.download s.config.url s.redirects).1 = .ok document →
      (s.load w).1 = .ok listing → (writeFile s.config w.files document).1 = none →
        ∀ (redirects : Bool) (w' : World), w'.files = (s.load w).2.2.files →
          w.env.nesting ≤ w'.env.nesting →
            (load ⟨s.config, redirects, none⟩ w').1 = .ok listing ∧
              (load ⟨s.config, redirects, none⟩ w').2.2.web = w'.web := by
  refine ⟨kept?_load s w, load_eq_template_error_iff s w, ?_, ?_, ?_, ?_⟩
  · intro nesting document fields entry value hjson hmem hbad
    exact Listing.exists_fault_of_entry hjson hmem hbad
  · intro e he
    exact ⟨listing_of_load_error he, unchanged_of_load_error he⟩
  · intro e he
    have hdownloads : s.Downloads w := ((load_eq_template_error_iff s w e).1 he).1
    obtain ⟨hstore, hnull | hfiles⟩ := unchanged_of_load_error he
    · cases hnull
    · refine ⟨hfiles, fun w' hfiles' hroom => ?_⟩
      rw [hstore]
      exact web_load_of_downloads (hdownloads.again (hfiles'.trans hfiles) hroom)
  · intro document listing hdownloads hdocument hlisting hwritten redirects w' hfiles' hroom
    exact load_again redirects hdownloads hdocument hlisting hwritten hfiles' hroom

/-! ### One file -/

/-- A store with a file of its own name for a cache. -/
def sample : TemplateStore :=
  ⟨⟨"http://h/".toList, Path.parse "c".toList, "t".toList, 30.0⟩, false, none⟩

/-- A world with these files where the web has one answer. -/
def answering (files : FileSystem) (body : Text) : World :=
  ⟨files, ⟨.standard, ⟨[.answer 200 none body], []⟩⟩, ⟨[], .here, 10⟩, []⟩

theorem download_answering (files : FileSystem) (body : Text) :
    ((answering files body).web.download sample.config.url sample.redirects).1 = .ok body := by
  obtain ⟨u, hu, hchecked⟩ : ∃ u, Url.forRequest "http://h/".toList = .ok u ∧
      Url.checkAnswered u none = .ok () := ⟨_, rfl, rfl⟩
  have hdownload : ((answering files body).web.download sample.config.url sample.redirects).1 =
      (Client.standard.download ⟨[.answer 200 none body], []⟩ "http://h/".toList false).1 := rfl
  rw [hdownload]
  dsimp only [Client.standard]
  rw [hu]
  dsimp only
  unfold Client.follow
  dsimp only [Client.request]
  rw [hchecked]
  rfl

/-- A document with a carriage return in it is downloaded, written and loaded again. -/
theorem load_safe_return :
    ∃ (s : TemplateStore) (w : World) (listing : Listing), s.Downloads w ∧
      (s.load w).1 = .ok listing ∧ listing.size = 1 ∧
        ∀ w' : World, w'.files = (s.load w).2.2.files → w.env.nesting ≤ w'.env.nesting →
          (load ⟨s.config, true, none⟩ w').1 = .ok listing ∧
            (load ⟨s.config, true, none⟩ w').2.2.web = w'.web := by
  let document : Text := "\x7b\r\n\"a\": \x7b\"key\": \"a\", \"contents\": null\x7d\x7d".toList
  let listing : Listing :=
    ⟨[("a".toList, ⟨.string "a".toList, .string "a".toList, .string [], .null⟩)]⟩
  let w : World := answering ⟨.empty, []⟩ document
  have hdownloads : sample.Downloads w := ⟨rfl, Or.inl rfl⟩
  have hdocument : (w.web.download sample.config.url sample.redirects).1 = .ok document :=
    download_answering _ document
  have hparse : Listing.parse w.env.nesting document = .ok listing := rfl
  have hwritten : (writeFile sample.config w.files document).1 = none := rfl
  have hlisting : (sample.load w).1 = .ok listing := by
    have hload : sample.load w = sample.loadFromWeb w := rfl
    rw [hload]
    rcases (loadFromWeb_of_listing hdocument hparse).1 with hok | ⟨-, hobstacle⟩
    · exact hok
    · rw [hwritten] at hobstacle
      cases hobstacle
  refine ⟨sample, w, listing, hdownloads, hlisting, rfl, ?_⟩
  intro w' hfiles hroom
  obtain ⟨-, -, -, -, -, hagain⟩ := load_safe sample w
  exact hagain document listing hdownloads hdocument hlisting hwritten true w' hfiles hroom

end TemplateStore

end IgnoreRules
