import IgnoreRules.Proofs.Template.Unusable

/-!
# A store that is used over and over

A store is asked for templates any number of times, while the file and the web change around it.  The
first query that returns settles what the store holds.  From then on the world has no part in any
answer: no request is made and no file is looked at.  Up to that query the store is as it was made, and
whatever is asked next begins with the file as it is by then.

* `TemplateStore.Query`, `TemplateStore.ask` : what can be asked of a store, and asking it;
* `TemplateStore.AnswersFrom`, `TemplateStore.StartsOver` : a store that has loaded, and a query of one
  that has not;
* `TemplateStore.Event`, `TemplateStore.run` : what happens around a store, and a run of it;
* `TemplateStore.fst_run_of_answersFrom`, `TemplateStore.fst_run_of_queriesFail` : what a run keeps;
* `TemplateStore.run_loads_once` : every run of a store.
-/

namespace IgnoreRules

/-- The world with more records in its journal. -/
def World.noting (w : World) (notes : List Log.Record) : World :=
  { w with journal := notes ++ w.journal }

namespace TemplateStore

/-! ## Queries -/

/-- What can be asked of a store. -/
inductive Query
  | load
  | keys
  | get (key : Text)
  | textsFor (keys : List Text)

/-- What comes back. -/
inductive Response
  | listing (listing : Listing)
  | keys (keys : List Text)
  | template (template : Option Template)
  | texts (texts : List Json)

/-- The answer that some templates give to a query. -/
def Query.answer (listing : Listing) : Query → Response
  | .load => .listing listing
  | .keys => .keys listing.keys
  | .get key => .template (listing.get? key)
  | .textsFor languages => .texts ((languages.filterMap listing.get?).map (·.contents))

/-- Asks a store. -/
def ask (s : TemplateStore) (w : World) : Query → Except Failure Response × TemplateStore × World
  | .load => ((s.load w).1.map .listing, (s.load w).2)
  | .keys => ((s.keys w).1.map .keys, (s.keys w).2)
  | .get key => ((s.get? key w).1.map .template, (s.get? key w).2)
  | .textsFor languages => ((s.textsFor languages w).1.map .texts, (s.textsFor languages w).2)

variable {s s' : TemplateStore} {w v : World} {listing : Listing} {q : Query}

/-- Unknown keys leave the same records in every world. -/
theorem exists_notes_noteUnknown (listing : Listing) (keys : List Text) :
    ∃ notes, ∀ w, noteUnknown listing w keys = w.noting notes := by
  induction keys with
  | nil => exact ⟨[], fun w => rfl⟩
  | cons key keys ih =>
      obtain ⟨notes, hnotes⟩ := ih
      cases hkey : listing.get? key with
      | some t =>
          refine ⟨notes, fun w => ?_⟩
          simpa [noteUnknown, hkey] using hnotes w
      | none =>
          let record : Log.Record := ⟨.debug, Log.Component.templates,
            s!"No ignore template for '{String.ofList key}'", []⟩
          -- The record of this key is older than those of the keys that follow.
          refine ⟨notes ++ [record], fun w => ?_⟩
          simpa [noteUnknown, hkey, World.noting, World.note, record] using hnotes (w.noting [record])

/-- A query fails as loading does, and changes what loading changes. -/
theorem ask_of_error {e : Failure} (q : Query) (h : s.load w = (.error e, s', v)) :
    s.ask w q = (.error e, s', v) := by
  cases q with
  | load => simp [ask, h, Except.map]
  | keys => simp [ask, TemplateStore.keys, TemplateStore.answer, h, Except.map]
  | get key => simp [ask, get?, TemplateStore.answer, h, Except.map]
  | textsFor keys => simp [ask, textsFor, h, Except.map]

/-- A query is answered from what was loaded, and adds at most some records to what loading changes. -/
theorem exists_notes_ask (listing : Listing) (q : Query) :
    ∃ notes, ∀ (s s' : TemplateStore) (w v : World), s.load w = (.ok listing, s', v) →
      s.ask w q = (.ok (q.answer listing), s', v.noting notes) := by
  cases q with
  | load =>
      refine ⟨[], fun s s' w v h => ?_⟩
      simp [ask, h, Except.map, Query.answer, World.noting]
  | keys =>
      refine ⟨[], fun s s' w v h => ?_⟩
      simp [ask, TemplateStore.keys, TemplateStore.answer, h, Except.map, Query.answer, World.noting]
  | get key =>
      refine ⟨[], fun s s' w v h => ?_⟩
      simp [ask, get?, TemplateStore.answer, h, Except.map, Query.answer, World.noting]
  | textsFor keys =>
      obtain ⟨notes, hnotes⟩ := exists_notes_noteUnknown listing keys
      refine ⟨notes, fun s s' w v h => ?_⟩
      simp [ask, textsFor, h, Except.map, Query.answer, hnotes]

/-! ## Stores that have loaded -/

/-- Every query is answered from these templates, in every world, and leaves everything as it was but
for records in the journal. -/
def AnswersFrom (listing : Listing) (s : TemplateStore) : Prop :=
  ∀ q, ∃ notes, ∀ w, s.ask w q = (.ok (q.answer listing), s, w.noting notes)

theorem answersFrom_of_holds (h : s.listing = some listing) : AnswersFrom listing s := by
  intro q
  obtain ⟨notes, hnotes⟩ := exists_notes_ask listing q
  exact ⟨notes, fun w => hnotes s s w w (by simp [load, h])⟩

/-- A store holds what loading returned, and is as it was when loading fails. -/
theorem store_load (s : TemplateStore) (w : World) :
    (s.load w).2.1 =
      match (s.load w).1 with
      | .ok listing => { s with listing := some listing }
      | .error _ => s := by
  cases hlisting : s.listing with
  | some listing =>
      have hsame : { s with listing := some listing } = s := by
        rw [← hlisting]
      simp [load, hlisting, hsame]
  | none =>
      cases hcache : cache s.config w with
      | absent =>
          have hload : s.load w = s.loadFromWeb w := load_of_absent hlisting hcache
          rw [hload]
          exact store_loadFromWeb s w
      | usable listing => simp [load, hlisting, hcache]
      | unusable reason =>
          have hload : s.load w = s.loadFromWeb (warned s.config reason w) := by
            simp [load, hlisting, hcache, warned]
          rw [hload]
          exact store_loadFromWeb s (warned s.config reason w)
      | undecodable => simp [load, hlisting, hcache]
      | tooDeep => simp [load, hlisting, hcache]
      | unreachable e => simp [load, hlisting, hcache]

/-- A query that returns leaves a store that holds the templates of the answer. -/
theorem holds_of_ask {r : Response} (h : (s.ask w q).1 = .ok r) :
    ∃ listing, r = q.answer listing ∧ (s.ask w q).2.1.listing = some listing := by
  have hstore := store_load s w
  rcases hload : s.load w with ⟨outcome, s', v⟩
  rw [hload] at hstore
  cases outcome with
  | error e =>
      rw [ask_of_error q hload] at h
      cases h
  | ok listing =>
      obtain ⟨notes, hnotes⟩ := exists_notes_ask listing q
      have hask := hnotes s s' w v hload
      rw [hask] at h
      refine ⟨listing, (Except.ok.inj h).symm, ?_⟩
      rw [hask]
      exact congrArg TemplateStore.listing hstore

/-- A query that fails leaves the store as it was. -/
theorem store_of_ask_error {e : Failure} (h : (s.ask w q).1 = .error e) : (s.ask w q).2.1 = s := by
  have hstore := store_load s w
  rcases hload : s.load w with ⟨outcome, s', v⟩
  rw [hload] at hstore
  cases outcome with
  | error e => simpa [ask_of_error q hload] using hstore
  | ok listing =>
      obtain ⟨notes, hnotes⟩ := exists_notes_ask listing q
      rw [hnotes s s' w v hload] at h
      cases h

/-! ## Stores that have not -/

/-- One download decides about a query: its document answers the query and is written to the file,
unless it is no listing or the file cannot exist. -/
def AsksWeb (s : TemplateStore) (w : World) (q : Query) : Prop :=
  (s.ask w q).2.2.web = (w.web.download s.config.url s.redirects).2 ∧
    match (w.web.download s.config.url s.redirects).1 with
    | .error e => (s.ask w q).1 = .error (Failure.ofFetch e) ∧ (s.ask w q).2.2.files = w.files
    | .ok document =>
        match Listing.parse w.env.nesting document with
        | .error unread =>
            (s.ask w q).1 = .error (Failure.ofListing unread) ∧ (s.ask w q).2.2.files = w.files
        | .ok listing =>
            ((s.ask w q).1 = .ok (q.answer listing) ∨
              (s.ask w q).1 = .error (.file .nullCharacter) ∧
                (writeFile s.config w.files document).1 = some .nullCharacter) ∧
            (s.ask w q).2.2.files = (writeFile s.config w.files document).2

/-- The file decides about a query, as it is by now: a listing answers it without a request, and only
where there is no file or no listing in it the web is asked. -/
def StartsOver (s : TemplateStore) (w : World) (q : Query) : Prop :=
  match cache s.config w with
  | .usable listing =>
      (s.ask w q).1 = .ok (q.answer listing) ∧ (s.ask w q).2.2.files = w.files ∧
        (s.ask w q).2.2.web = w.web
  | .absent => s.AsksWeb w q
  | .unusable _ => s.AsksWeb w q
  | .undecodable => s.ask w q = (.error .undecodableCache, s, w)
  | .tooDeep => s.ask w q = (.error .tooDeep, s, w)
  | .unreachable e => s.ask w q = (.error (.file e), s, w)

/-- A query, in terms of loading. -/
theorem ask_of_load (s : TemplateStore) (w : World) (q : Query) :
    (s.ask w q).1 = (s.load w).1.map (fun listing => q.answer listing) ∧
      (s.ask w q).2.2.files = (s.load w).2.2.files ∧ (s.ask w q).2.2.web = (s.load w).2.2.web := by
  rcases hload : s.load w with ⟨outcome, s', v⟩
  cases outcome with
  | error e => simp [ask_of_error q hload, Except.map]
  | ok listing =>
      obtain ⟨notes, hnotes⟩ := exists_notes_ask listing q
      simp [hnotes s s' w v hload, Except.map, World.noting]

theorem asksWeb_of_downloads (q : Query) (h : s.Downloads w) : s.AsksWeb w q := by
  obtain ⟨v, hfiles, hweb, henv, hload⟩ := load_of_downloads h
  obtain ⟨houtcome, hfiles', hweb'⟩ := ask_of_load s w q
  rw [hload] at houtcome hfiles' hweb'
  refine ⟨by rw [hweb', web_loadFromWeb, hweb], ?_⟩
  rw [← hweb, ← hfiles, ← henv, houtcome, hfiles']
  cases hdocument : (v.web.download s.config.url s.redirects).1 with
  | error e =>
      obtain ⟨hfailed, -, hkept⟩ := loadFromWeb_of_error hdocument
      simp [hfailed, hkept, Except.map]
  | ok document =>
      cases hparse : Listing.parse v.env.nesting document with
      | error unread =>
          obtain ⟨hfailed, -, hkept⟩ := loadFromWeb_of_unread hdocument hparse
          simp [hfailed, hkept, hparse, Except.map]
      | ok listing =>
          obtain ⟨hreturned | ⟨hnull, hobstacle⟩, hwritten⟩ := loadFromWeb_of_listing hdocument hparse
          · simp [hreturned, hwritten, hparse, Except.map]
          · simp [hnull, hobstacle, hwritten, hparse, Except.map]

theorem startsOver (q : Query) (w : World) (hnone : s.listing = none) : s.StartsOver w q := by
  obtain ⟨houtcome, hfiles, hweb⟩ := ask_of_load s w q
  unfold StartsOver
  cases hcache : cache s.config w with
  | absent => exact asksWeb_of_downloads q ⟨hnone, Or.inl hcache⟩
  | unusable reason => exact asksWeb_of_downloads q ⟨hnone, Or.inr ⟨reason, hcache⟩⟩
  | usable listing =>
      rw [houtcome, hfiles, hweb]
      simp [load, hnone, hcache, Except.map, World.note]
  | undecodable => exact ask_of_error q (by simp [load, hnone, hcache])
  | tooDeep => exact ask_of_error q (by simp [load, hnone, hcache])
  | unreachable e => exact ask_of_error q (by simp [load, hnone, hcache])

/-! ## Runs -/

/-- A store that nothing was asked of yet. -/
def fresh (config : TemplateConfig) (redirects : Bool) : TemplateStore :=
  ⟨config, redirects, none⟩

/-- What can happen. -/
inductive Event
  | query (q : Query)
  /-- A download by itself. -/
  | fetch
  /-- Whatever happens outside: the world becomes another. -/
  | change (w : World)

/-- The store and the world after an event. -/
def after : TemplateStore × World → Event → TemplateStore × World
  | (s, w), .query q => (s.ask w q).2
  | (s, w), .fetch => (s, (s.fetch w).2)
  | (s, _), .change w => (s, w)

/-- The store and the world after some events. -/
def run (start : TemplateStore × World) (events : List Event) : TemplateStore × World :=
  events.foldl after start

/-- What a query comes to. -/
def outcomeAt (state : TemplateStore × World) (q : Query) : Except Failure Response :=
  (state.1.ask state.2 q).1

/-- No query of a run returns. -/
def QueriesFail (start : TemplateStore × World) (events : List Event) : Prop :=
  ∀ front q back, events = front ++ .query q :: back → ∃ e, outcomeAt (run start front) q = .error e

variable {start : TemplateStore × World} {events : List Event} {event : Event}

theorem run_append (start : TemplateStore × World) (front back : List Event) :
    run start (front ++ back) = run (run start front) back := by
  simp [run]

theorem fst_after_of_answersFrom (h : AnswersFrom listing start.1) (event : Event) :
    (after start event).1 = start.1 := by
  cases event with
  | query q =>
      obtain ⟨notes, hnotes⟩ := h q
      simp [after, hnotes]
  | fetch => rfl
  | change w => rfl

/-- A store that has loaded stays as it is. -/
theorem fst_run_of_answersFrom (h : AnswersFrom listing start.1) (events : List Event) :
    (run start events).1 = start.1 := by
  induction events generalizing start with
  | nil => rfl
  | cons event events ih =>
      have hstep := fst_after_of_answersFrom h event
      have hrest : (run (after start event) events).1 = (after start event).1 := ih (by rwa [hstep])
      exact hrest.trans hstep

theorem QueriesFail.tail (h : QueriesFail start (event :: events)) :
    QueriesFail (after start event) events := by
  intro front q back hsplit
  exact h (event :: front) q back (by simp [hsplit])

theorem QueriesFail.fst_after (h : QueriesFail start (event :: events)) :
    (after start event).1 = start.1 := by
  cases event with
  | query q =>
      obtain ⟨e, he⟩ := h [] q events rfl
      exact store_of_ask_error he
  | fetch => rfl
  | change w => rfl

/-- As long as no query returns a store stays as it was made. -/
theorem fst_run_of_queriesFail (h : QueriesFail start events) : (run start events).1 = start.1 := by
  induction events generalizing start with
  | nil => rfl
  | cons event events ih => exact (ih h.tail).trans h.fst_after

/-- From a query that returns on, the store holds the templates of the answer. -/
theorem holds_of_outcomeAt {r : Response} {front : List Event}
    (h : outcomeAt (run start front) q = .ok r) :
    ∃ listing, r = q.answer listing ∧
      ∀ middle, (run start (front ++ .query q :: middle)).1.listing = some listing := by
  obtain ⟨listing, hr, hholds⟩ := holds_of_ask h
  refine ⟨listing, hr, fun middle => ?_⟩
  have hrun : run start (front ++ .query q :: middle) =
      run (after (run start front) (.query q)) middle := run_append start front _
  have hkept : (run (after (run start front) (.query q)) middle).1 =
      (after (run start front) (.query q)).1 :=
    fst_run_of_answersFrom (answersFrom_of_holds hholds) middle
  rw [hrun, hkept]
  exact hholds

/-- Any run of a store.  It has loaded nothing exactly as long as every query failed; until then it is
as it was made, and the next query starts over with the file.  After a query that returned, every query
is answered from the templates of that answer, whatever has happened to the file and the web since, with
no request and no file changed.  A download by itself leaves the store and the files alone.  A store that was
given its templates answers from these at all times. -/
theorem run_loads_once (config : TemplateConfig) (redirects : Bool) (w : World)
    (events : List Event) :
    ((run (fresh config redirects, w) events).1.listing = none ↔
      QueriesFail (fresh config redirects, w) events) ∧
    (QueriesFail (fresh config redirects, w) events →
      (run (fresh config redirects, w) events).1 = fresh config redirects ∧
        ∀ q, StartsOver (fresh config redirects) (run (fresh config redirects, w) events).2 q) ∧
    (∀ front q back r, events = front ++ .query q :: back →
      outcomeAt (run (fresh config redirects, w) front) q = .ok r →
        ∃ listing, r = q.answer listing ∧ ∀ middle, middle <+: back →
          AnswersFrom listing (run (fresh config redirects, w) (front ++ .query q :: middle)).1) ∧
    (∀ state, (after state .fetch).1 = state.1 ∧ (after state .fetch).2.files = state.2.files) ∧
    ∀ env listing, AnswersFrom listing (run (ofListing env listing, w) events).1 := by
  refine ⟨⟨fun hnone => ?_, fun h => ?_⟩, fun h => ⟨fst_run_of_queriesFail h, fun q => ?_⟩, ?_, ?_, ?_⟩
  · -- A query that returned would have left something in the store.
    intro front q back hsplit
    cases houtcome : outcomeAt (run (fresh config redirects, w) front) q with
    | error e => exact ⟨e, rfl⟩
    | ok r =>
        obtain ⟨listing, -, hholds⟩ := holds_of_outcomeAt houtcome
        rw [hsplit, hholds back] at hnone
        cases hnone
  · rw [fst_run_of_queriesFail h]
    rfl
  · exact startsOver q _ rfl
  · intro front q back r _ houtcome
    obtain ⟨listing, hr, hholds⟩ := holds_of_outcomeAt houtcome
    exact ⟨listing, hr, fun middle _ => answersFrom_of_holds (hholds middle)⟩
  · exact fun state => ⟨rfl, rfl⟩
  · intro env listing
    have hmade : AnswersFrom listing (ofListing env listing) := answersFrom_of_holds rfl
    rw [fst_run_of_answersFrom hmade events]
    exact hmade

/-- The file is no text at first, then a listing, then no text again: a store that was asked in between
goes on answering from that listing. -/
theorem run_loads_once_rewritten :
    ∃ (w w' : World) (listing : Listing), listing.size = 1 ∧
      QueriesFail (fresh sample.config false, w) [.query .keys, .change w'] ∧
      outcomeAt (run (fresh sample.config false, w) [.query .keys, .change w']) .load =
        .ok (.listing listing) ∧
      outcomeAt (fresh sample.config false, w) .keys = .error .undecodableCache ∧
      outcomeAt (run (fresh sample.config false, w)
        [.query .keys, .change w', .query .load, .change w]) .keys = .ok (.keys listing.keys) := by
  let document : Text := "\x7b\"a\": \x7b\"key\": \"a\"\x7d\x7d".toList
  let listing : Listing := ⟨[("a".toList, .ofFields (.string "a".toList) [])]⟩
  let s : TemplateStore := fresh sample.config false
  let w : World := holding ⟨#[0xFF]⟩ []
  let w' : World := holding (Text.encode document) []
  have hdecode : Text.decode? ⟨#[0xFF]⟩ = none := by decide +kernel
  have hparse : Listing.parse w'.env.nesting document = .ok listing := rfl
  have hfirst : s.ask w .keys = (.error .undecodableCache, s, w) :=
    ask_of_error .keys (load_of_undecodable rfl rfl hdecode)
  have hstate : run (s, w) [.query .keys, .change w'] = (s, w') := by simp [run, after, hfirst]
  have hsecond : outcomeAt (run (s, w) [.query .keys, .change w']) .load = .ok (.listing listing) := by
    obtain ⟨hload, -⟩ := load_of_listing (s := s) (w := w') rfl rfl (Text.decode?_encode document) hparse
    simp [hstate, outcomeAt, ask, hload, Except.map]
  obtain ⟨⟨hfail, -⟩, -⟩ := run_loads_once sample.config false w [.query .keys, .change w']
  obtain ⟨-, -, hanswers, -⟩ :=
    run_loads_once sample.config false w [.query .keys, .change w', .query .load, .change w]
  obtain ⟨listing', hr, hafter⟩ :=
    hanswers [.query .keys, .change w'] .load [.change w] _ rfl hsecond
  obtain rfl : listing = listing' := Response.listing.inj hr
  obtain ⟨notes, hnotes⟩ := hafter [.change w] List.prefix_rfl .keys
  refine ⟨w, w', listing, rfl, hfail (by rw [hstate]; rfl), hsecond, ?_, ?_⟩
  · exact congrArg Prod.fst hfirst
  · exact congrArg Prod.fst (hnotes w)

end TemplateStore

end IgnoreRules
