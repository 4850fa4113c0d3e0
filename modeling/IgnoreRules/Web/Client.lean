import IgnoreRules.Web.Basic
import IgnoreRules.Web.Reference

/-!
# A client

A client that asks for an address and, if it may, follows redirections.  It succeeds with a status from
200 to 299; whatever it is not given a reply for cannot be reached.

## Main definitions

* `DownloadError` : why a download failed.
* `Client.standard` : the client.
-/

namespace IgnoreRules

/-! ## Errors -/

/-- Why a download failed. -/
inductive DownloadError
  | noConnection (reason : Text)
  | badStatus (status : Nat)
  | tooManyRedirects
  /-- An answer redirects to what is no address. -/
  | badLocation (cause : UrlError)
  deriving DecidableEq, Repr

/-- The wording of a failed download. -/
def DownloadError.message : DownloadError → String
  | noConnection reason => String.ofList reason
  | badStatus status => s!"status {status}"
  | tooManyRedirects => "Exceeded maximum allowed redirects."
  | badLocation cause => s!"Invalid URL in location header: {cause.message}."

/-- The kind of error that a bad address is. -/
def UrlError.kind : UrlError → String
  | noScheme _ => "ValueError"
  | notAscii _ => "UnicodeEncodeError"
  | _ => "InvalidURL"

/-- What a failed download is to whoever asked for it. -/
def FetchError.ofDownload (e : DownloadError) : FetchError :=
  .download e.message

/-- What a bad address is to whoever asked for it. -/
def FetchError.ofAddress (e : UrlError) : FetchError :=
  .foreign ⟨e.kind, e.message⟩

namespace Client

/-! ## Single requests -/

/-- Makes one request.  When no reply is left nothing can be reached. -/
def request (traffic : Traffic) (address : Url) : Reply × Traffic :=
  match traffic.replies with
  | [] =>
      (.failure "unreachable".toList, { traffic with requested := address.text :: traffic.requested })
  | reply :: replies => (reply, ⟨replies, address.text :: traffic.requested⟩)

/-- Whether a status means success. -/
def isSuccess (status : Nat) : Bool :=
  decide (200 ≤ status ∧ status < 300)

/-! ## Redirections -/

/-- The statuses that redirect. -/
def redirectStatuses : List Nat :=
  [301, 302, 303, 307, 308]

/-- The most redirections that are followed. -/
def maxRedirects : Nat := 20

/-- The address that an answer redirects to, if it does. -/
def redirection? (address : Url) (status : Nat) (location : Option Text) :
    Except FetchError (Option Url) :=
  match location with
  | none => .ok none
  | some location =>
      if redirectStatuses.contains status then
        match Url.parse location with
        | .error e => .error (.ofDownload (.badLocation e))
        | .ok u =>
            match Url.redirect address u with
            | .error e => .error (.ofAddress e)
            | .ok next => .ok (some next)
      else
        .ok none

/-! ## Downloads -/

/-- Downloads from an address, following at most `hops` redirections; without a number of hops they are
looked at and not followed. -/
def follow (traffic : Traffic) (address : Url) (hops : Option Nat) :
    Except FetchError Text × Traffic :=
  match request traffic address with
  | (.failure reason, traffic) => (.error (.ofDownload (.noConnection reason)), traffic)
  | (.answer status location body, traffic) =>
      match Url.checkAnswered address location with
      | .error e => (.error (.ofAddress e), traffic)
      | .ok () =>
          match redirection? address status location, hops with
          | .error e, _ => (.error e, traffic)
          | .ok (some _), some 0 => (.error (.ofDownload .tooManyRedirects), traffic)
          | .ok (some next), some (hops + 1) => follow traffic next (some hops)
          | .ok _, _ =>
              if isSuccess status then (.ok body, traffic)
              else (.error (.ofDownload (.badStatus status)), traffic)
termination_by hops

/-- The client. -/
def standard : Client :=
  ⟨fun traffic address redirects =>
    match Url.forRequest address with
    | .error e => (.error (.ofAddress e), traffic)
    | .ok u => follow traffic u (if redirects then some maxRedirects else none)⟩

end Client

end IgnoreRules
