import IgnoreRules.Json.Parser
import IgnoreRules.Text.Quoted

/-!
# Template listings

Ignore templates come as one JSON object whose fields are the templates by key.  Each template is an
object with at least a key of its own; of what kind the values of its fields are is not looked at.  A
listing is read as a whole or not at all: the first entry at fault, in document order, decides why it is
refused.

## Main definitions

* `Template` : one template.
* `Listing` : templates by key.
* `ListingFault`, `ListingError` : why a text is no listing, and why it is not read.
* `Listing.parse` : reading.
-/

namespace IgnoreRules

/-- An ignore template.  Its fields are meant to be strings, but are whatever the listing has there. -/
structure Template where
  key : Json
  name : Json
  fileName : Json
  contents : Json

/-- Templates by the key they are listed under, each key once. -/
structure Listing where
  entries : List (Text × Template)

/-- Why a text is no listing. -/
inductive ListingFault
  /-- The text is not JSON. -/
  | notJson
  /-- The value is not an object. -/
  | notObject
  /-- An entry is not an object. -/
  | entryNotObject (entry : Text)
  /-- An entry has no key. -/
  | missingKey (entry : Text)
  deriving DecidableEq, Repr

/-- The wording of a fault. -/
def ListingFault.message : ListingFault → String
  | notJson => "not a JSON document"
  | notObject => "not an object"
  | entryNotObject entry => s!"entry {Text.quoted entry} is not an object"
  | missingKey entry => s!"entry {Text.quoted entry} has no key"

/-- Why no listing was read. -/
inductive ListingError
  | fault (cause : ListingFault)
  /-- There are too many arrays and objects inside each other to find out. -/
  | tooDeep
  deriving DecidableEq, Repr

namespace Template

/-- A field of an entry, `default` when it is absent. -/
def field (fields : List (Text × Json)) (name : String) (default : Json) : Json :=
  (fields.lookup name.toList).getD default

/-- The template that the fields of an entry describe, given its key. -/
def ofFields (key : Json) (fields : List (Text × Json)) : Template where
  key := key
  name := field fields "name" key
  fileName := field fields "fileName" (.string [])
  contents := field fields "contents" (.string [])

/-- The template that an entry describes, which has to be an object with a key. -/
def ofJson (entry : Text) : Json → Except ListingFault Template
  | .object fields =>
      match fields.lookup "key".toList with
      | none => .error (.missingKey entry)
      | some key => .ok (ofFields key fields)
  | _ => .error (.entryNotObject entry)

/-- The template for a key that only a text is given for. -/
def ofText (key contents : Text) : Template :=
  ⟨.string key, .string key, .string (key ++ ".gitignore".toList), .string contents⟩

end Template

namespace Listing

/-! ## Reading -/

/-- Reads every entry, up to the first one at fault. -/
def readEntries : List (Text × Json) → Except ListingFault (List (Text × Template))
  | [] => .ok []
  | (entry, value) :: rest =>
      match Template.ofJson entry value with
      | .error fault => .error fault
      | .ok template => (readEntries rest).map fun templates => (entry, template) :: templates

/-- The listing that a value describes. -/
def ofJson : Json → Except ListingFault Listing
  | .object fields => (readEntries fields).map Listing.mk
  | _ => .error .notObject

/-- Reads a listing, with room for `nesting` arrays and objects inside each other. -/
def parse (nesting : Nat) (document : Text) : Except ListingError Listing :=
  match Json.parse nesting document with
  | .error .malformed => .error (.fault .notJson)
  | .error .tooDeep => .error .tooDeep
  | .ok value => (ofJson value).mapError .fault

/-! ## Looking up -/

/-- The number of templates. -/
def size (l : Listing) : Nat :=
  l.entries.length

/-- The template listed under a key. -/
def get? (l : Listing) (key : Text) : Option Template :=
  l.entries.lookup key

/-- The entries in the order of their keys. -/
def sorted (l : Listing) : List (Text × Template) :=
  l.entries.mergeSort fun a b => Text.le a.1 b.1

/-- The keys in order. -/
def keys (l : Listing) : List Text :=
  l.sorted.map (·.1)

end Listing

end IgnoreRules
