import HttpClient.Body.Delivery
import HttpClient.Exchange.Shared
import HttpClient.Retry

/-!
# Exchanges

One request on its way to its final response: what it will send next, what is left of its
budgets, and where it stands. At any time it holds at most one connection or slot.
-/

namespace HttpClient

/-- Credentials made from a challenge, for the next attempt. -/
structure PendingAuth where
  header : HeaderValue
  /-- The connection on which alone they are good, if they are bound to one. -/
  conn : Option ConnId
  deriving DecidableEq, Repr

/-- What follows once the body of a response has been read and dropped. -/
inductive AfterDrain
  /-- The challenge is answered. -/
  | answer (header : HeaderValue) (keepConnection : Bool)
  /-- The redirect to a URL is followed. -/
  | follow (next : Url)
  deriving DecidableEq, Repr

/-- Where an exchange stands. -/
inductive Phase
  /-- The next attempt has to find a connection. -/
  | resting
  /-- Waits for a connection or a slot. -/
  | waiting (ticket : Nat)
  | dialing (reservation : Reservation) (transport : TransportId) (limit : Option Nat)
  /-- The request is sent and its head awaited. -/
  | sending (lease : Lease) (limit : Option Nat)
  /-- The body of a response that is not final is read and dropped. -/
  | draining (lease : Lease) (read : Nat) (limit : Option Nat) (after : AfterDrain)
  /-- The final response, whose body is on its way to its reader. -/
  | answered (head : ResponseHead) (body : Body)
  | failed (error : Error)
  /-- Nobody is interested any more. -/
  | dropped
  deriving DecidableEq, Repr

/-- One request and where it stands. -/
structure Exchange where
  /-- The URL that was asked for. -/
  start : Url
  /-- The current URL, after the redirects followed so far. -/
  url : Url
  /-- What the caller sends, after the redirects followed so far. -/
  content : Redirect.Content
  realm : Option Realm
  policy : RedirectPolicy
  /-- The URLs before the current one. -/
  history : List Url := []
  retries : Retry.Budget
  authRetries : Retry.Budget
  negotiator : Negotiator
  pending : Option PendingAuth := none
  /-- The connection kept for the next attempt. -/
  held : Option Lease := none
  token : Option TokenId
  deadline : Option Nat
  phase : Phase := .resting
  /-- Where the response goes, if it is delivered to a consumer. -/
  delivery : Option Delivery := none

namespace Exchange

/-- The exchange that begins with a request. -/
def ofRequest (s : Shared) (r : Request) (delivery : Option Delivery) : Exchange :=
  let settings := s.settings
  let realm := r.realm.or settings.realm
  { start := r.url
    url := r.url
    content := ⟨r.method, r.headers, r.body⟩
    realm := realm
    policy := r.redirect.getD settings.redirectPolicy
    retries := ⟨r.maxRetries.getD settings.maxRequestRetry⟩
    authRetries := ⟨settings.maxAuthRetries⟩
    negotiator := Negotiator.ofRealm realm
    token := r.cancel
    deadline := (r.timeout.or settings.requestTimeout).map (s.now + ·)
    delivery := delivery }

/-- True while there is no final response and no error. -/
def isRunning (x : Exchange) : Bool :=
  match x.phase with
  | .answered _ _ | .failed _ | .dropped => false
  | _ => true

/-- The body of the final response. -/
def body? (x : Exchange) : Option Body :=
  match x.phase with
  | .answered _ body => some body
  | _ => none

/-- Changes the body of the final response. -/
def updateBody (x : Exchange) (f : Body → Body) : Exchange :=
  match x.phase with
  | .answered head body => { x with phase := .answered head (f body) }
  | _ => x

/-- The times at which the exchange has to be looked at again. -/
def timers (s : Shared) (x : Exchange) : List Nat :=
  match x.phase with
  | .resting => x.deadline.toList
  | .waiting ticket => x.deadline.toList ++ ((s.pool.ticket? ticket).map Ticket.deadline).toList
  | .dialing _ _ limit | .sending _ limit | .draining _ _ limit _ =>
    x.deadline.toList ++ limit.toList
  | .answered _ body => body.timers
  | .failed _ | .dropped => []

end Exchange

end HttpClient
