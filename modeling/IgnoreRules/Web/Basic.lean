import IgnoreRules.Text.Basic

/-!
# The web

The web as a list of replies that are given out in order, one for each request, and a client that makes
the requests.  What a client does with an address is left open here: whether it follows redirections,
which addresses it refuses and which replies it takes for a success.

## Main definitions

* `Reply`, `Traffic` : replies in store, and the requests made.
* `FetchError` : why nothing was downloaded.
* `Client` : whatever makes requests.
* `Web.download` : a download by the client.
-/

namespace IgnoreRules

/-- What comes back for a request. -/
inductive Reply
  /-- An answer with a status, an address to go on to, and a text. -/
  | answer (status : Nat) (location : Option Text) (body : Text)
  /-- No answer, with the reason. -/
  | failure (reason : Text)
  deriving DecidableEq, Repr

/-- The replies still to come and the addresses requested so far, latest first. -/
structure Traffic where
  replies : List Reply
  requested : List Text := []
  deriving DecidableEq, Repr

/-- An error of a kind that is none of the client's own: the name of its kind and its wording. -/
structure ForeignError where
  kind : String
  message : String
  deriving DecidableEq, Repr

/-- Why nothing was downloaded. -/
inductive FetchError
  /-- The download failed, as the client words it. -/
  | download (reason : String)
  | foreign (cause : ForeignError)
  deriving DecidableEq, Repr

/-- A client: what comes of asking for an address, and the traffic after it.  It is told whether it may
follow redirections. -/
structure Client where
  download : Traffic → Text → Bool → Except FetchError Text × Traffic

/-- A client without a connection. -/
def Client.offline : Client :=
  ⟨fun traffic address _ =>
    (.error (.download "unreachable"), { traffic with requested := address :: traffic.requested })⟩

/-- A client and the traffic it has to do with. -/
structure Web where
  client : Client
  traffic : Traffic

namespace Web

/-- A web that nothing can be reached in. -/
def offline : Web :=
  ⟨.offline, ⟨[], []⟩⟩

/-- Downloads from an address. -/
def download (web : Web) (address : Text) (redirects : Bool) : Except FetchError Text × Web :=
  let (document, traffic) := web.client.download web.traffic address redirects
  (document, { web with traffic := traffic })

end Web

end IgnoreRules
