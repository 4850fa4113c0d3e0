import IgnoreRules.Proofs.FileSystem.Checked
import IgnoreRules.Proofs.Project.Run
import IgnoreRules.Proofs.Template.Cache

/-!
# Whatever the file holds

What comes of loading templates when the file that keeps a download is there, for every content it may
have.  A listing is taken as it is.  Text that is no listing counts for nothing but a warning: what
follows is what would have followed without the file.  Bytes that are no text stop the loading with a
failure of their own, and so does text that is nested too deep; with the loading stops everything that
needs templates.

* `TemplateStore.offered` : what the web has to offer;
* `TemplateStore.outcome` : what loading comes to, by the bytes of the file;
* `TemplateStore.fst_load_of_read` : that it comes to this;
* `Session.parse_of_read` : what it means for setting up a project;
* `TemplateStore.load_of_content` : loading, and what is asked of a store and of a project, for every
  content of the file.
-/

namespace IgnoreRules

namespace TemplateStore

variable {s : TemplateStore} {w : World} {bytes : ByteArray} {document : Text} {listing : Listing}
  {nesting : Nat}

/-! ## Outcomes -/

/-- What a download comes to, the file left aside. -/
def offered (s : TemplateStore) (nesting : Nat) (web : Web) : Except Failure Listing :=
  match (web.download s.config.url s.redirects).1 with
  | .error e => .error (Failure.ofFetch e)
  | .ok document => (Listing.parse nesting document).mapError Failure.ofListing

/-- What loading comes to when the file holds these bytes. -/
def outcome (s : TemplateStore) (nesting : Nat) (bytes : ByteArray) (web : Web) :
    Except Failure Listing :=
  match Text.decode? bytes with
  | none => .error .undecodableCache
  | some document =>
      match Listing.parse nesting document with
      | .error (.fault _) => s.offered nesting web
      | .error .tooDeep => .error .tooDeep
      | .ok listing => .ok listing

/-- Nothing is wrong with a download but the templates, unless the client fails for reasons of its own
or the document is nested too deep. -/
theorem offered_eq_error {web : Web} {e : Failure} (h : s.offered nesting web = .error e) :
    (∃ cause, e = .template cause) ∨
      (∃ cause, e = .foreign cause ∧
        (web.download s.config.url s.redirects).1 = .error (.foreign cause)) ∨
      ∃ document, e = .tooDeep ∧ (web.download s.config.url s.redirects).1 = .ok document ∧
        Listing.parse nesting document = .error .tooDeep := by
  unfold offered at h
  split at h
  · next cause hcause =>
      obtain rfl := Except.error.inj h
      cases cause with
      | download reason => exact Or.inl ⟨_, rfl⟩
      | foreign cause => exact Or.inr (Or.inl ⟨cause, rfl, hcause⟩)
  · next document hdocument =>
      cases hparse : Listing.parse nesting document with
      | ok listing =>
          rw [hparse] at h
          cases h
      | error unread =>
          rw [hparse] at h
          obtain rfl := Except.error.inj h
          cases unread with
          | fault fault => exact Or.inl ⟨_, rfl⟩
          | tooDeep => exact Or.inr (Or.inr ⟨document, rfl, hdocument, hparse⟩)

/-! ## Downloading -/

theorem writeFile_ne_nullCharacter (files : FileSystem) (document : Text)
    (h : FileSystem.checkPath s.config.cachePath = .ok ()) :
    (writeFile s.config files document).1 ≠ some .nullCharacter := by
  obtain ⟨name, hname⟩ := List.dropLast_prefix s.config.cachePath.parts
  have hparent : FileSystem.checkPath s.config.cachePath.parent = .ok () :=
    FileSystem.checkPath_of_front (p := s.config.cachePath) rfl hname.symm h
  intro hnull
  have hwrite : writeFile s.config files document =
      (some .nullCharacter, (writeFile s.config files document).2) := by
    rw [← hnull]
  obtain hmade | ⟨-, hwritten⟩ := obstacle_of_writeFile hwrite
  · have hfolders : (files.makeFolders s.config.cachePath.parent).1 ≠ some .nullCharacter :=
      FileSystem.makeFolders_ne_nullCharacter hparent
    rw [hmade] at hfolders
    exact hfolders rfl
  · exact FileSystem.write_ne_nullCharacter _ h hwritten

theorem fst_loadFromWeb (w : World) (h : FileSystem.checkPath s.config.cachePath = .ok ()) :
    (s.loadFromWeb w).1 = s.offered w.env.nesting w.web := by
  unfold offered
  cases hdocument : (w.web.download s.config.url s.redirects).1 with
  | error e => exact (loadFromWeb_of_error hdocument).1
  | ok document =>
      dsimp only
      cases hparse : Listing.parse w.env.nesting document with
      | error unread => exact (loadFromWeb_of_unread hdocument hparse).1
      | ok listing =>
          -- Of the obstacles to writing only a null character is not forgiven, and it is excluded.
          obtain hok | ⟨-, hnull⟩ := (loadFromWeb_of_listing hdocument hparse).1
          · exact hok
          · exact absurd hnull (writeFile_ne_nullCharacter w.files document h)

/-! ## Loading -/

theorem cacheOfBytes_of_undecodable (h : Text.decode? bytes = none) :
    cacheOfBytes nesting bytes = .undecodable := by
  unfold cacheOfBytes
  rw [h]

/-- The world with the warning that the file is ignored. -/
def warned (config : TemplateConfig) (reason : String) (w : World) : World :=
  w.note .warning Log.Component.templates
    s!"Ignoring unreadable template cache {config.cachePath.shown}: {reason}"

theorem load_of_undecodable (hnone : s.listing = none)
    (hread : w.files.read s.config.cachePath = .ok bytes) (h : Text.decode? bytes = none) :
    s.load w = (.error .undecodableCache, s, w) := by
  unfold load
  rw [hnone]
  dsimp only
  rw [cache_of_read hread, cacheOfBytes_of_undecodable h]

theorem load_of_tooDeep (hnone : s.listing = none)
    (hread : w.files.read s.config.cachePath = .ok bytes) (h : Text.decode? bytes = some document)
    (hparse : Listing.parse w.env.nesting document = .error .tooDeep) :
    s.load w = (.error .tooDeep, s, w) := by
  unfold load
  rw [hnone]
  dsimp only
  rw [cache_of_read hread, cacheOfBytes_of_text h, hparse]
  rfl

theorem load_of_fault {fault : ListingFault} (hnone : s.listing = none)
    (hread : w.files.read s.config.cachePath = .ok bytes) (h : Text.decode? bytes = some document)
    (hparse : Listing.parse w.env.nesting document = .error (.fault fault)) :
    s.load w = s.loadFromWeb (warned s.config (TemplateError.listing fault).message w) := by
  unfold load
  rw [hnone]
  dsimp only
  rw [cache_of_read hread, cacheOfBytes_of_text h, hparse]
  rfl

theorem load_of_absent (hnone : s.listing = none) (h : cache s.config w = .absent) :
    s.load w = s.loadFromWeb w := by
  unfold load
  rw [hnone]
  dsimp only
  rw [h]

/-- What loading comes to depends on nothing but the bytes of the file, the web and the room for
nesting. -/
theorem fst_load_of_read (hnone : s.listing = none)
    (hread : w.files.read s.config.cachePath = .ok bytes) :
    (s.load w).1 = s.outcome w.env.nesting bytes w.web := by
  unfold outcome
  cases hdecode : Text.decode? bytes with
  | none => rw [load_of_undecodable hnone hread hdecode]
  | some document =>
      dsimp only
      cases hparse : Listing.parse w.env.nesting document with
      | ok listing => exact (load_of_listing hnone hread hdecode hparse).1
      | error unread =>
          cases unread with
          | tooDeep => rw [load_of_tooDeep hnone hread hdecode hparse]
          | fault fault =>
              have hcheck := (FileSystem.node_eq_ok_iff.1 (FileSystem.read_eq_ok_iff.1 hread)).1
              rw [load_of_fault hnone hread hdecode hparse]
              exact fst_loadFromWeb (warned s.config (TemplateError.listing fault).message w) hcheck

/-- Loading the same from the web in two worlds with the same web and the same environment. -/
theorem loadFromWeb_congr {u v : World} (hweb : u.web = v.web) (henv : u.env = v.env)
    (h : FileSystem.checkPath s.config.cachePath = .ok ()) :
    (s.loadFromWeb u).1 = (s.loadFromWeb v).1 ∧ (s.loadFromWeb u).2.1 = (s.loadFromWeb v).2.1 ∧
      (s.loadFromWeb u).2.2.web = (s.loadFromWeb v).2.2.web := by
  have houtcome : (s.loadFromWeb u).1 = (s.loadFromWeb v).1 := by
    rw [fst_loadFromWeb u h, fst_loadFromWeb v h, hweb, henv]
  refine ⟨houtcome, ?_, ?_⟩
  · rw [store_loadFromWeb, store_loadFromWeb, houtcome]
  · rw [web_loadFromWeb, web_loadFromWeb, hweb]

/-! ## What is asked of a store -/

theorem fst_answer {α : Type} (f : Listing → α) (s : TemplateStore) (w : World) :
    (answer f s w).1 = (s.load w).1.map f := by
  unfold answer
  split
  · next h => rw [h]; rfl
  · next h => rw [h]; rfl

theorem fst_textsFor (keys : List Text) (s : TemplateStore) (w : World) :
    (textsFor keys s w).1 =
      (s.load w).1.map fun listing => (keys.filterMap listing.get?).map (·.contents) := by
  unfold textsFor
  split
  · next h => rw [h]; rfl
  · next h => rw [h]; rfl

end TemplateStore

/-! ## What is asked of a project -/

/-- Looking for languages changes nothing but the journal. -/
theorem World.detect_unchanged (w : World) (detectors : Detectors) (path : Path) :
    (w.detect detectors path).2.files = w.files ∧ (w.detect detectors path).2.web = w.web ∧
      (w.detect detectors path).2.env = w.env := by
  unfold detect
  split
  · exact ⟨rfl, rfl, rfl⟩
  · split
    · exact ⟨rfl, rfl, rfl⟩
    · exact ⟨rfl, rfl, rfl⟩

namespace Session

variable {s : TemplateStore} {σ : Session} {languages : List Text} {world : World}

/-- Templates that cannot be had are no contents; every other failure to load them remains. -/
theorem fst_templateTexts (hstore : σ.storeOf = .ok s) (languages : List Text) :
    (σ.templateTexts languages).1 =
      match (s.load σ.world).1 with
      | .error (.template _) => .ok []
      | .error e => .error e
      | .ok listing => .ok ((languages.filterMap listing.get?).map (·.contents)) := by
  have htexts := TemplateStore.fst_textsFor languages s σ.world
  rcases hasked : s.textsFor languages σ.world with ⟨outcome, s', w⟩
  rw [hasked] at htexts
  obtain rfl : outcome = _ := htexts
  unfold templateTexts
  rw [hstore]
  dsimp only
  rw [hasked]
  cases (s.load σ.world).1 with
  | ok listing => rfl
  | error e =>
      cases e with
      | template cause => rfl
      | _ => rfl

/-- Setting up a project fails as loading its templates does, except that missing templates are no
failure and leave it without texts.  With templates it fails where the contents of one of those called
for are no text. -/
theorem parse_of_read (hstore : σ.storeOf = .ok s) (hnone : s.listing = none) {bytes : ByteArray}
    (hread : σ.world.files.read s.config.cachePath = .ok bytes)
    (hdetect : (σ.world.detect σ.project.detectors σ.project.dir).1 = .ok languages) :
    (∀ e, (s.load σ.world).1 = .error e → (∀ cause, e ≠ .template cause) → σ.parse.1 = .error e) ∧
    (∀ cause, (s.load σ.world).1 = .error (.template cause) →
      σ.parse.1 = .ok () ∧ σ.parse.2.project.texts = none) ∧
    ∀ listing, (s.load σ.world).1 = .ok listing →
      σ.parse.1 = ((Json.textsFrom 0 ((languages.filterMap listing.get?).map (·.contents))).map
        fun _ => ()).mapError .notText := by
  obtain ⟨w, hdetected⟩ : ∃ w, σ.world.detect σ.project.detectors σ.project.dir = (.ok languages, w) :=
    ⟨_, Prod.ext hdetect rfl⟩
  -- Looking for languages writes to the journal, which loading does not read.
  have hunchanged := σ.world.detect_unchanged σ.project.detectors σ.project.dir
  rw [hdetected] at hunchanged
  obtain ⟨hfiles, hweb, henv⟩ := hunchanged
  have hstore' : (σ.knowing languages w).storeOf = .ok s := by
    unfold storeOf at hstore ⊢
    rw [← henv] at hstore
    exact hstore
  have hload : (s.load w).1 = (s.load σ.world).1 := by
    rw [TemplateStore.fst_load_of_read hnone hread, ← hweb, ← henv]
    exact TemplateStore.fst_load_of_read hnone (hfiles ▸ hread)
  have htemplates : ((σ.knowing languages w).templateTexts languages).1 = _ :=
    fst_templateTexts hstore' languages
  have hworld : (σ.knowing languages w).world = w := rfl
  rw [hworld, hload] at htemplates
  obtain ⟨hfails, hsets⟩ := parse_of_detect hdetected
  refine ⟨fun e he hother => ?_, fun cause hcause => ?_, fun listing hlisting => ?_⟩
  · apply hfails
    rw [htemplates, he]
    cases e with
    | template cause => exact absurd rfl (hother cause)
    | _ => rfl
  · -- Templates that cannot be had are no contents, which leaves the project without texts.
    rw [hcause] at htemplates
    rw [hsets [] _ (Prod.fst_eq_iff.1 htemplates)]
    exact ⟨fst_setTexts _ none, (texts_setTexts _ none).1⟩
  · rw [hlisting] at htemplates
    rw [hsets _ _ (Prod.fst_eq_iff.1 htemplates), fst_setTexts, getD_brought]

end Session

namespace TemplateStore

variable {s : TemplateStore} {w : World} {bytes : ByteArray}

/-- Loading, for every content of the file that keeps a download.  Bytes that are no text are a failure
of their own, before anything else happens, and so is text that is nested too deep; a listing is returned,
without a request; any other text leads to a warning and then to what would have come about without the
file.  What is asked of the store fails exactly as loading fails: for the bytes, for the nesting, or for
what the web has to offer.  So does setting up a project, where missing templates are no failure, but
contents that are no text are one. -/
theorem load_of_content (hnone : s.listing = none)
    (hread : w.files.read s.config.cachePath = .ok bytes) :
    (Text.decode? bytes = none → s.load w = (.error .undecodableCache, s, w)) ∧
    (∀ document, Text.decode? bytes = some document →
      Listing.parse w.env.nesting document = .error .tooDeep → s.load w = (.error .tooDeep, s, w)) ∧
    (∀ document listing, Text.decode? bytes = some document →
      Listing.parse w.env.nesting document = .ok listing →
        (s.load w).1 = .ok listing ∧ (s.load w).2.1 = { s with listing := some listing } ∧
          (s.load w).2.2.files = w.files ∧ (s.load w).2.2.web = w.web) ∧
    (∀ document fault, Text.decode? bytes = some document →
      Listing.parse w.env.nesting document = .error (.fault fault) →
        s.load w = s.loadFromWeb (warned s.config (TemplateError.listing fault).message w) ∧
        (s.load w).1 = s.offered w.env.nesting w.web ∧
        ∀ u : World, cache s.config u = .absent → u.web = w.web → u.env = w.env →
          (s.load w).1 = (s.load u).1 ∧ (s.load w).2.1 = (s.load u).2.1 ∧
            (s.load w).2.2.web = (s.load u).2.2.web) ∧
    ((s.keys w).1 = (s.load w).1.map Listing.keys ∧
      (∀ key, (s.get? key w).1 = (s.load w).1.map (·.get? key)) ∧
      ∀ keys, (s.textsFor keys w).1 =
        (s.load w).1.map fun listing => (keys.filterMap listing.get?).map (·.contents)) ∧
    (∀ e, (s.load w).1 = .error e →
      (Text.decode? bytes = none ∧ e = .undecodableCache) ∨
      (∃ document, Text.decode? bytes = some document ∧
        Listing.parse w.env.nesting document = .error .tooDeep ∧ e = .tooDeep) ∨
      s.offered w.env.nesting w.web = .error e ∧
        ((∃ cause, e = .template cause) ∨
          (∃ cause, e = .foreign cause ∧
            (w.web.download s.config.url s.redirects).1 = .error (.foreign cause)) ∨
          ∃ document, e = .tooDeep ∧ (w.web.download s.config.url s.redirects).1 = .ok document ∧
            Listing.parse w.env.nesting document = .error .tooDeep)) ∧
    ∀ (σ : Session) (languages : List Text), σ.storeOf = .ok s → σ.world = w →
      (w.detect σ.project.detectors σ.project.dir).1 = .ok languages →
        (∀ e, (s.load w).1 = .error e → (∀ cause, e ≠ .template cause) → σ.parse.1 = .error e) ∧
        (∀ cause, (s.load w).1 = .error (.template cause) →
          σ.parse.1 = .ok () ∧ σ.parse.2.project.texts = none) ∧
        ∀ listing, (s.load w).1 = .ok listing →
          σ.parse.1 = ((Json.textsFrom 0 ((languages.filterMap listing.get?).map (·.contents))).map
            fun _ => ()).mapError .notText := by
  have hcheck : FileSystem.checkPath s.config.cachePath = .ok () :=
    (FileSystem.node_eq_ok_iff.1 (FileSystem.read_eq_ok_iff.1 hread)).1
  refine ⟨load_of_undecodable hnone hread, fun document => load_of_tooDeep hnone hread,
    fun document listing => load_of_listing hnone hread, ?_,
    ⟨fst_answer _ s w, fun key => fst_answer _ s w, fun keys => fst_textsFor keys s w⟩, ?_, ?_⟩
  · intro document fault hdecode hparse
    have hload := load_of_fault hnone hread hdecode hparse
    refine ⟨hload, ?_, fun u habsent hweb henv => ?_⟩
    · rw [hload]
      exact fst_loadFromWeb _ hcheck
    · rw [hload, load_of_absent hnone habsent]
      exact loadFromWeb_congr hweb.symm henv.symm hcheck
  · -- A failure comes from the bytes, from the nesting, or from what the web has to offer.
    intro e he
    rw [fst_load_of_read hnone hread] at he
    unfold outcome at he
    split at he
    · next hdecode => exact Or.inl ⟨hdecode, (Except.error.inj he).symm⟩
    · next document hdecode =>
        split at he
        · exact Or.inr (Or.inr ⟨he, offered_eq_error he⟩)
        · next hdeep => exact Or.inr (Or.inl ⟨document, hdecode, hdeep, (Except.error.inj he).symm⟩)
        · cases he
  · rintro σ languages hstore rfl hdetect
    exact Session.parse_of_read hstore hnone hread hdetect

/-! ### Two files -/

/-- A world where the file of the sample store holds these bytes and the web has one answer. -/
def holding (bytes : ByteArray) (body : Text) : World :=
  answering ⟨.folder "c".toList (.file "t".toList bytes .empty) .empty, []⟩ body

theorem offered_answering {files : FileSystem} {body : Text} {listing : Listing}
    (h : Listing.parse (answering files body).env.nesting body = .ok listing) :
    sample.offered (answering files body).env.nesting (answering files body).web = .ok listing := by
  unfold offered
  rw [download_answering]
  dsimp only
  rw [h]
  rfl

/-- Text that is no listing in the file: the templates of the web are loaded, behind a warning. -/
theorem load_of_content_text :
    ∃ (s : TemplateStore) (w : World) (listing : Listing), s.listing = none ∧
      w.files.read s.config.cachePath = .ok (Text.encode "x".toList) ∧
      (s.load w).1 = .ok listing ∧ s.load w = s.loadFromWeb
        (warned s.config "Unable to parse gitignore templates: not a JSON document" w) := by
  let w : World := holding (Text.encode "x".toList) "\x7b\x7d".toList
  have hread : w.files.read sample.config.cachePath = .ok (Text.encode "x".toList) := rfl
  have hparse : Listing.parse w.env.nesting "x".toList = .error (.fault .notJson) := rfl
  have hbody : Listing.parse w.env.nesting "\x7b\x7d".toList = .ok ⟨[]⟩ := rfl
  obtain ⟨-, -, -, htext, -⟩ := load_of_content (s := sample) rfl hread
  obtain ⟨hload, houtcome, -⟩ := htext _ _ (Text.decode?_encode _) hparse
  exact ⟨sample, w, ⟨[]⟩, rfl, hread, houtcome.trans (offered_answering hbody), hload⟩

/-- A single byte that is no text in the file: loading fails, and so does setting up a project, where
without the file there would have been templates. -/
theorem load_undecodable :
    ∃ (s : TemplateStore) (w u : World) (bytes : ByteArray) (σ : Session), s.listing = none ∧
      w.files.read s.config.cachePath = .ok bytes ∧ bytes = ⟨#[0xFF]⟩ ∧
      cache s.config u = .absent ∧ u.web = w.web ∧ u.env = w.env ∧
      (s.load u).1 = .ok ⟨[]⟩ ∧ (s.load w).1 = .error .undecodableCache ∧
      σ.storeOf = .ok s ∧ σ.world = w ∧ σ.parse.1 = .error .undecodableCache := by
  have hdecode : Text.decode? ⟨#[0xFF]⟩ = none := by decide +kernel
  let w : World := holding ⟨#[0xFF]⟩ "\x7b\x7d".toList
  let u : World := answering ⟨.empty, []⟩ "\x7b\x7d".toList
  have hread : w.files.read sample.config.cachePath = .ok ⟨#[0xFF]⟩ := rfl
  have hload : sample.load w = (.error .undecodableCache, sample, w) :=
    load_of_undecodable rfl hread hdecode
  have hbody : Listing.parse u.env.nesting "\x7b\x7d".toList = .ok ⟨[]⟩ := rfl
  have hoffered : (sample.load u).1 = .ok ⟨[]⟩ := by
    rw [load_of_absent rfl rfl, fst_loadFromWeb u (by decide)]
    exact offered_answering hbody
  let σ : Session := ⟨⟨.here, false, [], some sample, none, none, none, none⟩, w⟩
  have hparse : σ.parse.1 = .error .undecodableCache := by
    have hdetect : (σ.world.detect σ.project.detectors σ.project.dir).1 = .ok [] := rfl
    refine (Session.parse_of_read rfl rfl hread hdetect).1 _ ?_ nofun
    exact congrArg Prod.fst hload
  exact ⟨sample, w, u, _, σ, rfl, hread, rfl, rfl, rfl, rfl, hoffered, congrArg Prod.fst hload, rfl, rfl,
    hparse⟩

end TemplateStore

end IgnoreRules
