import IgnoreRules.Web.Url

/-!
# References

What a reference means that was found at an address.  A reference takes over from the address every part
up to the first one that it has itself, and `.` and `..` are worked off in the resulting path; empty
components inside a merged path are dropped, and so are an empty query and an empty fragment.

## Main definitions

* `Url.resolve` : the address that a reference means, as text.
* `Url.redirect` : the address that an answer redirects to.
-/

namespace IgnoreRules

namespace Url

/-! ## Paths -/

/-- The schemes whose addresses have a path that references can be relative to. -/
def pathSchemes : List String :=
  ["ftp", "http", "gopher", "nntp", "imap", "wais", "file", "https", "shttp", "mms", "prospero",
    "rtsp", "rtspu", "sftp", "svn", "svn+ssh", "ws", "wss"]

/-- The schemes whose paths may end in parameters. -/
def parameterSchemes : List String :=
  ["ftp", "hdl", "prospero", "http", "imap", "https", "shttp", "rtsp", "rtspu", "sip", "sips", "mms",
    "sftp", "tel"]

/-- A path without the parameters of its last component, and those parameters. -/
def splitParameters (scheme path : Text) : Text × Text :=
  if parameterSchemes.any (·.toList = scheme) then
    let last := (path.reverse.takeWhile (· != '/')).reverse
    let front := path.take (path.length - last.length)
    let (name, parameters) := splitAt ';' last
    (front ++ name, parameters.getD [])
  else (path, [])

/-- The components that stand in front of a reference to a sibling. -/
def siblings (path : Text) : List Text :=
  let parts := path.splitOn '/'
  if parts.getLast? == some [] then parts else parts.dropLast

/-- Some components without the empty ones between the first and the last. -/
def dropEmptyInner : List Text → List Text
  | [] => []
  | [part] => [part]
  | first :: rest => first :: rest.dropLast.filter (· != []) ++ (rest.getLast?.map ([·])).getD []

/-- The components of a path, seen from another path. -/
def mergeParts (base path : Text) : List Text :=
  match path with
  | '/' :: _ => path.splitOn '/'
  | _ => dropEmptyInner (siblings base ++ path.splitOn '/')

/-- Works off `.` and `..`; `done` are the components kept so far, latest first. -/
def climb (done : List Text) : List Text → List Text
  | [] => done.reverse
  | part :: parts =>
      if part = ['.', '.'] then climb done.tail parts
      else if part = ['.'] then climb done parts
      else climb (part :: done) parts

/-- The path that some components make; one that ends in `.` or `..` leads to a directory. -/
def pathOf (parts : List Text) : Text :=
  let isDirectory := [some ['.'], some ['.', '.']].contains parts.getLast?
  let path := List.intercalate ['/'] (climb [] parts ++ if isDirectory then [[]] else [])
  if path.isEmpty then ['/'] else path

/-! ## Resolving -/

/-- A part behind its mark, or nothing if it is empty. -/
def markedIfAny (mark : Char) (t : Text) : Text :=
  if t.isEmpty then [] else mark :: t

/-- Puts parts together; empty ones are left out. -/
def assemble (scheme authority path parameters query fragment : Text) : Text :=
  let full := path ++ markedIfAny ';' parameters
  let rooted := match full with
    | [] | '/' :: _ => full
    | _ => '/' :: full
  scheme ++ [':', '/', '/'] ++ authority ++ rooted ++ markedIfAny '?' query ++ markedIfAny '#' fragment

/-- The address that a reference without a scheme means, found at `base`. -/
def resolve (base reference : Url) : Text :=
  if reference.text.isEmpty then base.text
  else if !pathSchemes.any (·.toList = base.scheme) then reference.text
  else
    let (path, parameters) := splitParameters base.scheme reference.path
    let query := reference.query.getD []
    let fragment := reference.fragment.getD []
    if !reference.authority.isEmpty then
      assemble base.scheme reference.authority path parameters query fragment
    else if path.isEmpty && parameters.isEmpty then
      let (path, parameters) := splitParameters base.scheme base.path
      assemble base.scheme base.authority path parameters
        (if query.isEmpty then base.query.getD [] else query) fragment
    else
      let (basePath, _) := splitParameters base.scheme base.path
      assemble base.scheme base.authority (pathOf (mergeParts basePath path)) parameters query fragment

/-! ## Requests -/

/-- Whether an address says by itself where it leads. -/
def isAbsolute (u : Url) : Bool :=
  !u.scheme.isEmpty && !u.host.isEmpty

/-- The address of a request: whatever does not say where it leads becomes a path from the root. -/
def forRequest (t : Text) : Except UrlError Url := do
  let u ← parse t
  if u.isAbsolute then return u
  else
    Parts.rebuild { path := '/' :: u.path.dropWhile (· == '/'), query := u.query }

/-- Whether a text begins with what could be a scheme. -/
def looksTyped (t : Text) : Bool :=
  match t.dropWhile fun c => c != '/' && c != ':' with
  | ':' :: _ => t.head? != some ':'
  | _ => false

/-- Refuses an answer from an address without a scheme, and one that names an address outside ASCII. -/
def checkAnswered (u : Url) (location : Option Text) : Except UrlError Unit :=
  let plain := { u with fragment := none }.text
  if !(location.getD []).all Punycode.isBasic then .error (.notAscii (location.getD []))
  else if looksTyped plain then .ok ()
  else .error (.noScheme (plain ++ markedIfAny '#' (u.fragment.getD [])))

/-- The address with the host of a request where it has a scheme and no host. -/
def withHost (request u : Url) : Except UrlError Url :=
  if !u.scheme.isEmpty && u.host.isEmpty then
    Parts.rebuild { u.parts with host := writtenHost request.host }
  else .ok u

/-- The address, resolved if it does not say where it leads. -/
def resolved (request u : Url) : Except UrlError Url :=
  if u.isAbsolute then .ok u else parse (resolve request u)

/-- The address with the fragment of a request where it has none. -/
def withFragment (request u : Url) : Except UrlError Url :=
  let fragment := Quoting.unquote (request.fragment.getD [])
  if !fragment.isEmpty && (Quoting.unquote (u.fragment.getD [])).isEmpty then
    Parts.rebuild { u.parts with fragment := some fragment }
  else .ok u

/-- The address that an answer to a request redirects to by a location that was read as `u`. -/
def redirect (request u : Url) : Except UrlError Url := do
  let u ← withHost request u
  let u ← resolved request u
  withFragment request u

end Url

end IgnoreRules
