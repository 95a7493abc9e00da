import IndexPrice.Feed.Poll.Format

/-!
# Fetching

A request is attempted until a response of status 200 comes or no attempt is left.
Attempts follow one another at once.  When the body of a response of status 200 breaks
off, the request is given up.
-/

namespace IndexPrice.Feed.Poll

abbrev Body := List UInt8

structure Response where
  status : Nat
  /-- Absent if the body broke off. -/
  body : Option Body
  received : Instant
  deriving DecidableEq, Repr

/-- A server answers an attempt at a request, or does not answer, and may change by it. -/
abbrev Server (σ : Type) := Request → σ → Option Response × σ

inductive FetchFault where
  | noAttempts
  | noAnswer
  | status (code : Nat)
  | brokenBody
  deriving DecidableEq, Repr

/-- Whether a header can be sent: control characters cannot, except the tabulator. -/
def isSendable (header : String × String) : Bool :=
  header.2.toList.all fun c => (c.toNat ≥ 32 && c.toNat != 127) || c == '\t'

/-- One attempt; a request with a header that cannot be sent does not reach the server. -/
def attempt {σ : Type} (server : Server σ) (request : Request) (s : σ) : Option Response × σ :=
  if request.headers.all isSendable then server request s else (none, s)

def fetchAfter {σ : Type} (server : Server σ) (request : Request) (fault : FetchFault) :
    Nat → σ → Except FetchFault (Body × Instant) × σ
  | 0, s => (.error fault, s)
  | attempts + 1, s =>
    match attempt server request s with
    | (some response, s) =>
      if response.status = 200 then
        match response.body with
        | some body => (.ok (body, response.received), s)
        | none => (.error .brokenBody, s)
      else fetchAfter server request (.status response.status) attempts s
    | (none, s) => fetchAfter server request .noAnswer attempts s

def fetch {σ : Type} (server : Server σ) (attempts : Nat) (request : Request) (s : σ) :
    Except FetchFault (Body × Instant) × σ :=
  fetchAfter server request .noAttempts attempts s

end IndexPrice.Feed.Poll
