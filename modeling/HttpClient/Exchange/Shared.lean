import HttpClient.Body.Inbox
import HttpClient.Pool.Checkout
import HttpClient.Request

/-!
# What requests share

The requests of one client share its settings, the pool, the arena of negotiator states and the
client's ends of all streams. Here is every way in which a request touches them; whatever is
to be done outside, such as opening or closing a stream, is noted as an action.
-/

namespace HttpClient

/-- A request as it is sent over a connection. -/
structure Message where
  method : Method
  /-- Path and query, as they stand on the request line. -/
  uri : String
  headers : Fields
  body : Option Bytes
  deriving DecidableEq, Repr

/-- Something to be done outside. -/
inductive Action
  /-- Open a stream to a target. -/
  | dial (transport : TransportId) (target : Target)
  | send (transport : TransportId) (message : Message)
  /-- Close a stream, or stop opening it. -/
  | hangUp (transport : TransportId)
  deriving DecidableEq, Repr

/-- Whether a stream could be opened. -/
inductive StreamState
  | dialing
  | up
  /-- It could not be opened, for a chain of sources. -/
  | failed (chain : List Source)
  deriving DecidableEq, Repr

/-- The client's end of a stream. -/
structure Stream where
  id : TransportId
  state : StreamState := .dialing
  /-- True once the peer is known to have closed it. -/
  isClosed : Bool := false
  inbox : Inbox := {}
  deriving DecidableEq, Repr

/-- What the requests of one client share. -/
structure Shared where
  settings : Settings
  pool : Pool
  supply : Supply
  arena : Arena := {}
  now : Nat := 0
  streams : List Stream := []
  nextTransport : TransportId := 0
  /-- The tokens that were canceled. -/
  canceled : List TokenId := []
  /-- What is to be done outside, first to last. -/
  actions : List Action := []

namespace Shared

/-- The client's end of a stream. -/
def stream? (s : Shared) (transport : TransportId) : Option Stream :=
  s.streams.find? (·.id = transport)

/-- Changes the client's end of a stream. -/
def updateStream (s : Shared) (transport : TransportId) (f : Stream → Stream) : Shared :=
  { s with streams := s.streams.map fun t => if t.id = transport then f t else t }

/-- True for a stream that is up and not known to be closed. -/
def isAlive (s : Shared) (transport : TransportId) : Bool :=
  (s.stream? transport).any fun t => t.state = .up && !t.isClosed

/-- The world as the pool sees it. -/
def moment (s : Shared) : Moment := ⟨s.now, s.isAlive⟩

/-- Notes something to be done outside. -/
def act (s : Shared) (action : Action) : Shared := { s with actions := s.actions ++ [action] }

/-- Closes the client's end of a stream. -/
def hangUp (s : Shared) (transport : TransportId) : Shared :=
  act { s with streams := s.streams.filter (·.id ≠ transport) } (.hangUp transport)

/-- Lets go of a connection that left the pool, and of the state parked for it. -/
def bury (s : Shared) (dead : Opened) : Shared :=
  hangUp { s with arena := s.arena.remove dead.id } dead.transport

/-- The shared state after an operation on the pool. -/
def withPool (s : Shared) (p : Pool) (dead : List Opened) : Shared :=
  dead.foldl bury { s with pool := p }

/-- Asks the pool for a connection or a slot. -/
def checkout (s : Shared) (target : Target) : CheckoutStatus × Shared :=
  let (status, p, dead) := s.pool.checkout s.moment target s.settings.pool.acquireTimeout
  (status, s.withPool p dead)

/-- Asks again for one who waits. -/
def resume (s : Shared) (ticket : Nat) : CheckoutStatus × Shared :=
  let (status, p, dead) := s.pool.resume s.moment ticket
  (status, s.withPool p dead)

/-- Stops waiting. -/
def stopWaiting (s : Shared) (ticket : Nat) : Shared := { s with pool := s.pool.dequeue ticket }

/-- Gives a connection back. -/
def release (s : Shared) (l : Lease) : Shared :=
  let (p, dead) := s.pool.release s.moment l
  s.withPool p dead

/-- Closes a connection. -/
def discard (s : Shared) (l : Lease) : Shared := s.withPool (s.pool.discard l) [l.toOpened]

/-- Gives a slot back. -/
def abandon (s : Shared) (r : Reservation) : Shared := { s with pool := s.pool.abandon r }

/-- Starts to open a stream. -/
def dial (s : Shared) (target : Target) : TransportId × Shared :=
  let id := s.nextTransport
  let stream : Stream := { id := id }
  (id, act { s with streams := s.streams ++ [stream], nextTransport := id + 1 } (.dial id target))

/-- Turns a slot into a connection over a stream that is up. -/
def fulfill (s : Shared) (r : Reservation) (transport : TransportId) : Lease × Shared :=
  let (lease, p) := s.pool.fulfill s.now r transport
  (lease, { s with pool := p })

/-- What has arrived on the connection of a lease. -/
def inbox (s : Shared) (l : Lease) : Inbox := ((s.stream? l.transport).map Stream.inbox).getD {}

/-- Puts back what was not read. -/
def setInbox (s : Shared) (l : Lease) (inbox : Inbox) : Shared :=
  s.updateStream l.transport fun t => { t with inbox := inbox }

/-- Sends a request; what was there before its answer belongs to earlier ones. On a stream
that is closed already the answer is that it closed. -/
def send (s : Shared) (l : Lease) (message : Message) : Shared :=
  let fresh := fun (t : Stream) =>
    let inbox : Inbox := {}
    { t with inbox := if t.isClosed then inbox.receive .hangUp else inbox }
  act (s.updateStream l.transport fresh) (.send l.transport message)

/-- Takes the state parked for a connection. -/
def unpark (s : Shared) (l : Lease) (realm : Realm) : Option Negotiator × Shared :=
  let (stored, arena) := s.arena.take l.id realm.key
  (stored, { s with arena := arena })

/-- Parks a state for a connection. -/
def park (s : Shared) (l : Lease) (realm : Realm) (negotiator : Negotiator) : Shared :=
  { s with arena := s.arena.put l.id realm.key negotiator }

/-- True when a token was canceled. -/
def isCanceled (s : Shared) (token : Option TokenId) : Bool := token.any s.canceled.contains

end Shared

end HttpClient
