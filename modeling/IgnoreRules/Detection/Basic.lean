import IgnoreRules.Path
import IgnoreRules.Text.Quoted

/-!
# Language detection

A project's languages are told by the files at its top level.  A detector has markers, each an exact
file name or an extension, and reports its template key when some file carries one of them.
Directories never count.

## Main definitions

* `DirEntry` : what is looked at of a directory entry.
* `Marker`, `Detector` : what to look for, and what to report.
* `Detectors.detect` : the keys reported for some entries.
-/

namespace IgnoreRules

/-! ## Entries -/

/-- A directory entry. -/
structure DirEntry where
  name : Text
  /-- What follows the last inner dot of the name. -/
  extension : Option Text
  isFile : Bool
  deriving DecidableEq, Repr

namespace DirEntry

/-- The extension of the last component of a path. -/
def extensionOf (p : Path) : Option Text :=
  match p.suffix with
  | [] => none
  | _ :: extension => some extension

/-- The entry of a bare name. -/
def ofName (name : Text) (isFile : Bool) : DirEntry :=
  ⟨name, extensionOf (Path.parse name), isFile⟩

/-- The entry that a path leads to. -/
def ofPath (p : Path) (isFile : Bool) : DirEntry :=
  ⟨p.name, extensionOf p, isFile⟩

end DirEntry

/-! ## Detectors -/

/-- What marks a file. -/
inductive Marker
  | name (t : Text)
  | extension (t : Text)
  deriving DecidableEq, Repr

/-- Whether a file carries the marker. -/
def Marker.marks (m : Marker) (e : DirEntry) : Bool :=
  e.isFile &&
    match m with
    | .name t => e.name == t
    | .extension t => e.extension == some t

/-- Markers, and the template key to report for them. -/
structure Detector where
  template : Text
  markers : List Marker
  deriving DecidableEq, Repr

namespace Detector

/-- Whether some entry carries one of the markers. -/
def detects (d : Detector) (entries : List DirEntry) : Bool :=
  d.markers.any fun m => entries.any m.marks

/-- A detector as it is shown. -/
def describe (d : Detector) : String :=
  s!"Detector({Text.quoted d.template}, {d.markers.length} matchers)"

end Detector

/-- Detectors in order. -/
abbrev Detectors := List Detector

namespace Detectors

/-- The keys of the detectors that find something, in order. -/
def detect (ds : Detectors) (entries : List DirEntry) : List Text :=
  (ds.filter (·.detects entries)).map (·.template)

/-- The keys for a single file, told by its name alone. -/
def detectFile (ds : Detectors) (p : Path) : List Text :=
  ds.detect [DirEntry.ofName p.name true]

end Detectors

end IgnoreRules
