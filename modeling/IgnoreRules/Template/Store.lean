import IgnoreRules.Failure
import IgnoreRules.Text.Lines

/-!
# Template stores

A store looks templates up by key.  It loads them when they are first asked for: from the file that
keeps an earlier download if that can be used, otherwise from the web, after which the file is
written.  Only a document that was read successfully is ever written.  Once loaded, a store answers
from what it holds.

## Main definitions

* `TemplateStore` : a configuration and what was loaded.
* `TemplateStore.cache` : what the file holds.
* `TemplateStore.fetch` : a download.
* `TemplateStore.load` : the templates, loaded if need be.
* `TemplateStore.textsFor` : the contents for some keys.
-/

namespace IgnoreRules

/-- A lookup of templates. -/
structure TemplateStore where
  config : TemplateConfig
  /-- Whether downloads follow redirections. -/
  redirects : Bool
  /-- What was loaded. -/
  listing : Option Listing := none

/-- What the file that keeps a download holds. -/
inductive Cache
  /-- There is no such file. -/
  | absent
  | usable (listing : Listing)
  | unusable (reason : String)
  /-- The bytes are no text. -/
  | undecodable
  /-- The text is nested too deep to be read. -/
  | tooDeep
  /-- The path cannot be looked up. -/
  | unreachable (cause : FileError)

/-- What the file holds when this came of reading its text. -/
def Cache.ofRead : Except ListingError Listing → Cache
  | .ok listing => usable listing
  | .error (.fault fault) => unusable (TemplateError.listing fault).message
  | .error .tooDeep => tooDeep

namespace TemplateStore

/-- A store that holds the given templates from the start. -/
def ofListing (env : Environment) (listing : Listing) : TemplateStore :=
  ⟨TemplateConfig.standard env, true, some listing⟩

/-! ## The file -/

/-- What the bytes of the file hold. -/
def cacheOfBytes (nesting : Nat) (bytes : ByteArray) : Cache :=
  match Text.decode? bytes with
  | none => .undecodable
  | some document => .ofRead (Listing.parse nesting (Text.unifyReturns document))

/-- What the file holds. -/
def cache (config : TemplateConfig) (w : World) : Cache :=
  match w.files.exists? config.cachePath with
  | .error e => .unreachable e
  | .ok false => .absent
  | .ok true =>
      match w.files.read config.cachePath with
      | .error e => .unusable e.message
      | .ok bytes => cacheOfBytes w.env.nesting bytes

/-- Writes the file, making the folders on the way. -/
def writeFile (config : TemplateConfig) (files : FileSystem) (document : Text) :
    Option FileError × FileSystem :=
  match files.makeFolders config.cachePath.parent with
  | (some e, files) => (some e, files)
  | (none, files) =>
      match files.write config.cachePath (Text.encode document) with
      | .error e => (some e, files)
      | .ok files => (none, files)

/-- Writes the file.  An obstacle on the way is only reported; a path that cannot be any file's is a
failure. -/
def keep (config : TemplateConfig) (w : World) (document : Text) : Except Failure Unit × World :=
  match writeFile config w.files document with
  | (none, files) => (.ok (), { w with files := files })
  | (some .nullCharacter, files) => (.error (.file .nullCharacter), { w with files := files })
  | (some e, files) =>
      let w : World := { w with files := files }
      (.ok (), w.note .warning Log.Component.templates
        s!"Could not write template cache {config.cachePath.shown}: {e.message}")

/-! ## Downloading -/

/-- Downloads the document. -/
def fetch (s : TemplateStore) (w : World) : Except FetchError Text × World :=
  let w := w.note .debug Log.Component.templates
    s!"Downloading templates from {String.ofList s.config.url}"
  let (document, web) := w.web.download s.config.url s.redirects
  (document, { w with web := web })

/-- Loads from the web and writes the file. -/
def loadFromWeb (s : TemplateStore) (w : World) :
    Except Failure Listing × TemplateStore × World :=
  match s.fetch w with
  | (.error e, w) => (.error (Failure.ofFetch e), s, w)
  | (.ok document, w) =>
      match Listing.parse w.env.nesting document with
      | .error e => (.error (Failure.ofListing e), s, w)
      | .ok listing =>
          match keep s.config w document with
          | (.error e, w) => (.error e, s, w)
          | (.ok (), w) =>
              (.ok listing, { s with listing := some listing },
                w.note .info Log.Component.templates
                  s!"Fetched {listing.size} templates from {String.ofList s.config.url}")

/-! ## Loading -/

/-- The templates, loaded if they are not yet. -/
def load (s : TemplateStore) (w : World) : Except Failure Listing × TemplateStore × World :=
  match s.listing with
  | some listing => (.ok listing, s, w)
  | none =>
      match cache s.config w with
      | .unreachable e => (.error (.file e), s, w)
      | .undecodable => (.error .undecodableCache, s, w)
      | .tooDeep => (.error .tooDeep, s, w)
      | .absent => s.loadFromWeb w
      | .unusable reason =>
          s.loadFromWeb <| w.note .warning Log.Component.templates
            s!"Ignoring unreadable template cache {s.config.cachePath.shown}: {reason}"
      | .usable listing =>
          (.ok listing, { s with listing := some listing },
            w.note .debug Log.Component.templates
              s!"Loaded {listing.size} templates from {s.config.cachePath.shown}")

/-- An answer made from the templates. -/
def answer (f : Listing → α) (s : TemplateStore) (w : World) :
    Except Failure α × TemplateStore × World :=
  match s.load w with
  | (.error e, s, w) => (.error e, s, w)
  | (.ok listing, s, w) => (.ok (f listing), s, w)

/-- The keys in order. -/
def keys : TemplateStore → World → Except Failure (List Text) × TemplateStore × World :=
  answer Listing.keys

/-- The template of a key. -/
def get? (key : Text) : TemplateStore → World → Except Failure (Option Template) × TemplateStore × World :=
  answer (·.get? key)

/-- Notes the keys that there is no template for. -/
def noteUnknown (listing : Listing) (w : World) (keys : List Text) : World :=
  keys.foldl (fun w key =>
    match listing.get? key with
    | some _ => w
    | none => w.note .debug Log.Component.templates
        s!"No ignore template for '{String.ofList key}'") w

/-- The contents of the templates for some keys, in the order of the keys; unknown keys are passed
over. -/
def textsFor (keys : List Text) (s : TemplateStore) (w : World) :
    Except Failure (List Json) × TemplateStore × World :=
  match s.load w with
  | (.error e, s, w) => (.error e, s, w)
  | (.ok listing, s, w) =>
      (.ok ((keys.filterMap listing.get?).map (·.contents)), s, noteUnknown listing w keys)

end TemplateStore

end IgnoreRules
