import IgnoreRules.Number.Decimal
import IgnoreRules.Text.LowerCase
import IgnoreRules.Text.Quoted
import IgnoreRules.Web.IpAddress
import IgnoreRules.Web.Name.Basic
import IgnoreRules.Web.Quoting

/-!
# Addresses

A web address in one spelling.  Reading an address lower-cases its scheme and host, writes an
international host in ASCII, leaves out the usual port of the scheme, works off `.` and `..` in the path
and quotes what may not stand in a part; an address that cannot be spelled so is refused.

## Main definitions

* `Url` : an address.
* `UrlError` : why a text is no address.
* `Url.parse`, `Url.text` : reading and writing.
* `Url.Parts`, `Url.Parts.normalize` : an address as it was written, and its one spelling.
-/

namespace IgnoreRules

/-! ## Errors -/

/-- Why a text is no address. -/
inductive UrlError
  | tooLong
  /-- A part is too long once it is quoted. -/
  | partTooLong (part : String)
  /-- A control character stands at a position, in the whole address or in a part. -/
  | control (c : Char) (position : Nat) (part : Option String)
  | badPort (port : Text)
  | badFour (host : Text)
  | badSix (host : Text)
  | badName (host : Text)
  /-- Behind a host, a path that is not empty begins with a slash. -/
  | detachedPath
  /-- Without scheme and host, a path beginning with two slashes would be read as a host. -/
  | doubleSlash
  /-- Without scheme and host, a path beginning with a colon would be read as a scheme. -/
  | leadingColon
  /-- An answer has to come from an address with a scheme. -/
  | noScheme (address : Text)
  /-- An answer can only name an address in ASCII. -/
  | notAscii (address : Text)
  deriving DecidableEq, Repr

namespace UrlError

/-- The part that an error is about, as it is shown. -/
def shownPart : Option String → String
  | none => ""
  | some part => s!" {part} component"

/-- The wording of an error. -/
def message : UrlError → String
  | tooLong => "URL too long"
  | partTooLong part => s!"URL component '{part}' too long"
  | control c position part =>
      s!"Invalid non-printable ASCII character in URL{shownPart part}, {Text.quoted [c]} " ++
        s!"at position {position}."
  | badPort port => s!"Invalid port: {Text.quoted port}"
  | badFour host => s!"Invalid IPv4 address: {Text.quoted host}"
  | badSix host => s!"Invalid IPv6 address: {Text.quoted host}"
  | badName host => s!"Invalid IDNA hostname: {Text.quoted host}"
  | detachedPath => "For absolute URLs, path must be empty or begin with '/'"
  | doubleSlash => "Relative URLs cannot have a path starting with '//'"
  | leadingColon => "Relative URLs cannot have a path starting with ':'"
  | noScheme address => s!"unknown url type: {Text.quoted address}"
  | notAscii address =>
      let first := (address.takeWhile Punycode.isBasic).length
      let others := (address.dropWhile Punycode.isBasic).takeWhile (!Punycode.isBasic ·)
      let what := match others with
        | [c] => s!"character '{String.ofList (Text.codeEscape c)}' in position {first}"
        | _ => s!"characters in position {first}-{first + others.length - 1}"
      s!"'ascii' codec can't encode {what}: ordinal not in range(128)"

end UrlError

/-- An address in its one spelling. -/
structure Url where
  /-- Empty when there is none. -/
  scheme : Text
  /-- What stands in front of the host; empty when there is nothing. -/
  user : Text
  /-- Empty when there is none; the brackets around a numeric address of eight groups are left out. -/
  host : Text
  port : Option Int
  path : Text
  query : Option Text
  fragment : Option Text
  deriving DecidableEq, Repr

namespace Url

/-! ## Cutting an address into its parts -/

/-- The parts of an address as they were written. -/
structure Parts where
  scheme : Text := []
  user : Text := []
  host : Text := []
  /-- Empty when there is none. -/
  port : Text := []
  path : Text := []
  query : Option Text := none
  fragment : Option Text := none
  deriving DecidableEq, Repr

/-- What stands in front of the first `mark`, and what stands behind it if there is one. -/
def splitAt (mark : Char) (t : Text) : Text × Option Text :=
  match t.dropWhile (· != mark) with
  | [] => (t, none)
  | _ :: after => (t.takeWhile (· != mark), some after)

/-- Whether a character may stand in a scheme. -/
def isSchemeChar (c : Char) : Bool :=
  c.isAlphanum || c == '+' || c == '-' || c == '.'

/-- The scheme of a text, and what follows it. -/
def splitScheme (t : Text) : Text × Text :=
  let scheme := t.takeWhile isSchemeChar
  match t.dropWhile isSchemeChar with
  | ':' :: rest => if scheme.isEmpty || (scheme.head?.map Char.isAlpha).getD false then (scheme, rest) else ([], t)
  | _ => ([], t)

/-- Whether a character ends the host. -/
def endsHost (c : Char) : Bool :=
  c == '/' || c == '?' || c == '#'

/-- What stands between two slashes and the path, and what follows it. -/
def splitAuthority : Text → Text × Text
  | '/' :: '/' :: rest => (rest.takeWhile (!endsHost ·), rest.dropWhile (!endsHost ·))
  | t => ([], t)

/-- What stands in front of the last `mark`, if there is one, and what stands behind it. -/
def splitAtLast (mark : Char) (t : Text) : Text × Text :=
  if t.contains mark then
    ((Text.dropEndWhile (· != mark) t).dropLast, (t.reverse.takeWhile (· != mark)).reverse)
  else ([], t)

/-- The host at the front of a text, in its brackets if it has some, and what follows it. -/
def splitHost (t : Text) : Text × Text :=
  match t with
  | '[' :: rest =>
      if rest.contains ']' then
        let inside := Text.dropEndWhile (· != ']') rest
        ('[' :: inside, rest.drop inside.length)
      else (t.takeWhile (· != ':'), t.dropWhile (· != ':'))
  | _ => (t.takeWhile (· != ':'), t.dropWhile (· != ':'))

/-- A text without the colon it may begin with. -/
def dropColon : Text → Text
  | ':' :: rest => rest
  | t => t

/-- The parts of an address. -/
def split (t : Text) : Parts :=
  let (scheme, rest) := splitScheme t
  let (authority, rest) := splitAuthority rest
  let (main, fragment) := splitAt '#' rest
  let (path, query) := splitAt '?' main
  let (user, rest) := splitAtLast '@' authority
  let (host, rest) := splitHost rest
  ⟨scheme, user, host, dropColon rest, path, query, fragment⟩

/-! ## The one spelling -/

/-- Puts a host into its one spelling. -/
def normalizeHost (host : Text) : Except UrlError Text :=
  if host.isEmpty then .ok []
  else if IpAddress.looksNumeric host then
    if IpAddress.isFour host then .ok host else .error (.badFour host)
  else if host.head? = some '[' && host.getLast? = some ']' then
    let inside := host.tail.dropLast
    if IpAddress.isSix inside then .ok inside else .error (.badSix host)
  else if host.all Punycode.isBasic then
    .ok (Quoting.quote Quoting.inHost (host.map Char.toLower))
  else
    match HostName.toAscii? (Text.toLower host) with
    | some name => .ok name
    | none => .error (.badName host)

/-- The schemes with a usual port. -/
def usualPorts : List (String × Int) :=
  [("ftp", 21), ("http", 80), ("https", 443), ("ws", 80), ("wss", 443)]

/-- Puts a port into its one spelling: none where it is the usual one of the scheme as it was written. -/
def normalizePort (port scheme : Text) : Except UrlError (Option Int) :=
  if port.isEmpty then .ok none
  else
    match Decimal.whole? port with
    | none => .error (.badPort port)
    | some n =>
        if usualPorts.any fun e => e.1.toList = scheme && e.2 = n then .ok none else .ok (some n)

/-- Refuses paths that would be read as something else. -/
def checkPath (path : Text) (hasScheme hasHost : Bool) : Except UrlError Unit :=
  if hasHost then
    match path with
    | [] | '/' :: _ => .ok ()
    | _ => .error .detachedPath
  else if hasScheme then .ok ()
  else
    match path with
    | '/' :: '/' :: _ => .error .doubleSlash
    | ':' :: _ => .error .leadingColon
    | _ => .ok ()

/-- Works off the components of a path; `done` are those kept so far, latest first. -/
def dropDots (done : List Text) : List Text → List Text
  | [] => done.reverse
  | part :: parts =>
      if part = ['.'] then dropDots done parts
      else if part = ['.', '.'] then
        dropDots (if done = [[]] then done else done.tail) parts
      else dropDots (part :: done) parts

/-- A path without `.` and `..`. -/
def normalizePath (path : Text) : Text :=
  List.intercalate ['/'] (dropDots [] (path.splitOn '/'))

/-- Puts an address into its one spelling. -/
def Parts.normalize (p : Parts) : Except UrlError Url := do
  let host ← normalizeHost p.host
  let port ← normalizePort p.port p.scheme
  let scheme := p.scheme.map Char.toLower
  let user := Quoting.quote Quoting.inUser p.user
  let hasHost := !user.isEmpty || !host.isEmpty || port.isSome
  checkPath p.path (!scheme.isEmpty) hasHost
  let path := if hasHost || !scheme.isEmpty then normalizePath p.path else p.path
  return {
    scheme := scheme
    user := user
    host := host
    port := port
    path := Quoting.quote Quoting.inPath path
    query := p.query.map (Quoting.quote Quoting.inQuery)
    fragment := p.fragment.map (Quoting.quote Quoting.inFragment) }

/-! ## Reading -/

/-- The most characters an address or a part of one may have. -/
def maxLength : Nat := 65536

/-- Whether a character is an ASCII control. -/
def isControl (c : Char) : Bool :=
  decide (c.toNat < 0x20) || c.toNat == 0x7F

/-- Refuses control characters. -/
def checkControls (t : Text) (part : Option String) : Except UrlError Unit :=
  match t.dropWhile (!isControl ·) with
  | [] => .ok ()
  | c :: _ => .error (.control c (t.takeWhile (!isControl ·)).length part)

/-- Reads an address. -/
def parse (t : Text) : Except UrlError Url := do
  if maxLength < t.length then throw .tooLong
  checkControls t none
  (split t).normalize

/-! ## Writing -/

/-- A host as it is written, in brackets where it would not be understood without. -/
def writtenHost (host : Text) : Text :=
  if host.contains ':' then ['['] ++ host ++ [']'] else host

/-- A port as it is written. -/
def writtenPort (port : Option Int) : Text :=
  match port with
  | none => []
  | some n => (toString n).toList

/-- What stands in front of the path. -/
def authority (u : Url) : Text :=
  (if u.user.isEmpty then [] else u.user ++ ['@']) ++ writtenHost u.host ++
    (if u.port.isSome then ':' :: writtenPort u.port else [])

/-- A part with the mark it is written behind. -/
def marked (mark : Char) : Option Text → Text
  | none => []
  | some t => mark :: t

/-- Writes an address. -/
def text (u : Url) : Text :=
  (if u.scheme.isEmpty then [] else u.scheme ++ [':']) ++
    (if u.authority.isEmpty then [] else ['/', '/'] ++ u.authority) ++
    u.path ++ marked '?' u.query ++ marked '#' u.fragment

/-! ## Changing parts -/

/-- The parts of an address. -/
def parts (u : Url) : Parts :=
  ⟨u.scheme, u.user, writtenHost u.host, writtenPort u.port, u.path, u.query, u.fragment⟩

/-- Refuses a part that is too long or holds a control character. -/
def checkPart (part : String) (t : Text) : Except UrlError Unit :=
  if maxLength < t.length then .error (.partTooLong part) else checkControls t (some part)

/-- The address with other parts, in its one spelling. -/
def Parts.rebuild (p : Parts) : Except UrlError Url := do
  checkPart "path" p.path
  checkPart "query" (p.query.getD [])
  checkPart "fragment" (p.fragment.getD [])
  checkPart "host" p.host
  p.normalize

end Url

end IgnoreRules
