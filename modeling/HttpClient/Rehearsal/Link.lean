import HttpClient.Exchange.Shared
import HttpClient.Http1.Decoder
import HttpClient.Rehearsal.Script

/-!
# Links

A connection of a rehearsal, from the client's reader to the server's moves. What one end sends
is carried to the other in a turn of the link, and what was on its way when the receiving end
closed is lost.
-/

namespace HttpClient.Rehearsal

/-- What is on its way to the client. -/
inductive Segment
  | bytes (bytes : Bytes)
  | close
  deriving DecidableEq, Repr

/-- The turns that a new connection takes before it carries its first request. -/
def warmupTurns : Nat := 2

/-- A connection. -/
structure Link where
  id : TransportId
  /-- The turns that are left before the first request is carried. -/
  warmup : Nat := warmupTurns
  /-- Requests on their way to the server. -/
  outbox : List Message := []
  /-- Requests that the server has not looked at. -/
  arrived : List Message := []
  /-- What is on its way to the client. -/
  inflow : List Segment := []
  decoder : Http1.Decoder := {}
  /-- What the server still does about the request it looked at last. -/
  moves : List Move := []
  /-- When the pause of the server is over. -/
  due : Option Nat := none
  closedByClient : Bool := false
  closedByServer : Bool := false

namespace Link

/-- A request leaves the client. -/
def send (l : Link) (message : Message) : Link := { l with outbox := l.outbox ++ [message] }

/-- The client closes the connection. -/
def shut (l : Link) : Link := { l with closedByClient := true, outbox := [], inflow := [] }

/-- The server closes the connection. -/
def hangUp (l : Link) : Link :=
  { l with
    closedByServer := true
    arrived := []
    inflow := l.inflow ++ [.close]
    moves := []
    due := none }

/-- True when something is to be carried. -/
def hasCargo (l : Link) : Bool :=
  !l.closedByClient && (!l.outbox.isEmpty || !l.inflow.isEmpty)

/-- What the client reads from what is on its way to it. -/
def read (l : Link) : List Arrival × Link :=
  let step := fun ((arrivals, d) : List Arrival × Http1.Decoder) (segment : Segment) =>
    let (more, d) :=
      match segment with
      | .bytes bytes => d.feed bytes
      | .close => d.close
    (arrivals ++ more, d)
  let (arrivals, d) := l.inflow.foldl step ([], l.decoder)
  (arrivals, { l with inflow := [], decoder := d })

/-- Carries the requests to the server, once the connection is warm. -/
def flush (l : Link) : Link :=
  if l.outbox.isEmpty then l
  else if 0 < l.warmup then { l with warmup := l.warmup - 1 }
  else
    let decoder := l.outbox.foldl (fun d message => d.expect message.method) l.decoder
    let arrived := if l.closedByServer then [] else l.arrived ++ l.outbox
    { l with outbox := [], arrived := arrived, decoder := decoder }

/-- The server makes moves up to a pause or to the last one. -/
def play (now : Nat) : List Move → Link → Link
  | [], l => { l with moves := [] }
  | .write bytes :: rest, l => play now rest { l with inflow := l.inflow ++ [.bytes bytes] }
  | .pause millis :: rest, l =>
    if millis = 0 then play now rest l else { l with moves := rest, due := some (now + millis) }
  | .close :: _, l => l.hangUp
  | .stay :: rest, l => { l with moves := .stay :: rest }

/-- True when the server waits for a request. -/
def awaitsRequest (l : Link) : Bool := l.due.isNone && l.moves.isEmpty

/-- True when the server has something to do. -/
def serverIsReady (l : Link) (now : Nat) : Bool :=
  !l.closedByServer
    && (l.due.any (· ≤ now) || l.closedByClient || l.awaitsRequest && !l.arrived.isEmpty)

end Link

end HttpClient.Rehearsal
