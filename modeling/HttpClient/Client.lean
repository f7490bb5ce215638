import HttpClient.Exchange.Step

/-!
# Clients

A client with all its requests. Everything that can happen to it is an event, and events may
come in any order: time passes, streams open and carry something, callers submit requests, ask
for body parts and lose interest, and each task takes a step when it is its turn. What the
client wants done outside is the list of its actions.
-/

namespace HttpClient

/-- The number of an exchange of a client. -/
abbrev ExchangeId := Nat

/-- Something that takes steps of its own. -/
inductive Task
  | exchange (id : ExchangeId)
  | pump (id : ExchangeId)
  | delivery (id : ExchangeId)
  deriving DecidableEq, Repr

/-- A client. -/
structure Client where
  shared : Shared
  /-- All requests, in the order in which they were submitted. -/
  exchanges : List Exchange := []

/-- Something that happens to a client. -/
inductive Event
  | tick (millis : Nat)
  | submit (request : Request) (consumer : Option Consumer)
  | run (task : Task)
  /-- A stream is up, or could not be opened for a chain of sources. -/
  | dialed (transport : TransportId) (failure : Option (List Source))
  | arrive (transport : TransportId) (arrival : Arrival)
  | cancelToken (token : TokenId)
  | request (id : ExchangeId) (parts : Nat)
  | cancelBody (id : ExchangeId)
  /-- A reader pulls one part. -/
  | read (id : ExchangeId)
  | drop (id : ExchangeId)

namespace Client

/-- A client with its settings, and with what it draws from outside. -/
def make (settings : Settings) (supply : Supply) : Client :=
  { shared := { settings := settings, pool := { settings := settings.pool }, supply := supply } }

/-- An exchange of a client. -/
def exchange? (c : Client) (id : ExchangeId) : Option Exchange := c.exchanges[id]?

/-- The body that an exchange ended with. -/
def body? (c : Client) (id : ExchangeId) : Option Body := (c.exchange? id).bind Exchange.body?

/-- Puts an exchange and the shared state back. -/
def put (c : Client) (id : ExchangeId) (x : Exchange) (s : Shared) : Client :=
  { c with shared := s, exchanges := c.exchanges.set id x }

/-- Changes the body of an exchange. -/
def updateBody (c : Client) (id : ExchangeId) (f : Body → Body) : Client :=
  match c.exchange? id with
  | some x => c.put id (x.updateBody f) c.shared
  | none => c

/-- The step of a task, unless it has to wait or has ended. -/
def advance (c : Client) (task : Task) : Option Client :=
  match task with
  | .exchange id => do
    let x ← c.exchange? id
    let (x, s) ← x.step c.shared
    return c.put id x s
  | .pump id => do
    let x ← c.exchange? id
    let (x, s) ← x.pumpStep c.shared
    return c.put id x s
  | .delivery id => do
    let x ← c.exchange? id
    let x ← x.deliverStep
    return c.put id x c.shared

/-- Pulls one part of the body of an exchange. -/
def read (c : Client) (id : ExchangeId) : Body.Reading × Client :=
  match c.body? id with
  | some body =>
    let (reading, body) := body.read true
    (reading, c.updateBody id fun _ => body)
  | none => (.finished, c)

/-- Time passes, on the wall as well. -/
def tick (c : Client) (millis : Nat) : Client :=
  let s := c.shared
  let supply := { s.supply with unixMillis := s.supply.unixMillis + millis }
  { c with shared := { s with now := s.now + millis, supply := supply } }

/-- What becomes of a stream when something arrives on it. -/
def receive (t : Stream) (arrival : Arrival) : Stream :=
  { t with isClosed := t.isClosed || arrival.isClose, inbox := t.inbox.receive arrival }

/-- The client after an event. -/
def step (c : Client) : Event → Client
  | .tick millis => c.tick millis
  | .submit request consumer =>
    let delivery := consumer.map fun consumer => ({ consumer := consumer } : Delivery)
    { c with exchanges := c.exchanges ++ [Exchange.ofRequest c.shared request delivery] }
  | .run task => (c.advance task).getD c
  | .dialed transport failure =>
    let state := (failure.map StreamState.failed).getD .up
    let settle := fun (t : Stream) => if t.state = .dialing then { t with state := state } else t
    { c with shared := c.shared.updateStream transport settle }
  | .arrive transport arrival =>
    { c with shared := c.shared.updateStream transport (receive · arrival) }
  | .cancelToken token =>
    { c with shared := { c.shared with canceled := token :: c.shared.canceled } }
  | .request id parts => c.updateBody id (·.request parts)
  | .cancelBody id => c.updateBody id Body.cancel
  | .read id => (c.read id).2
  | .drop id =>
    match c.exchange? id with
    | some x =>
      let (x, s) := x.drop c.shared
      c.put id x s
    | none => c

/-- The client after events. -/
def run (c : Client) (events : List Event) : Client := events.foldl step c

/-- What is to be done outside, and the client that it is taken from. -/
def takeActions (c : Client) : List Action × Client :=
  (c.shared.actions, { c with shared := { c.shared with actions := [] } })

/-- The tasks of one exchange. -/
def tasksOf (id : ExchangeId) : List Task := [.exchange id, .pump id, .delivery id]

/-- The exchanges that wait for the pool, in the order in which they began to wait, and then
all others. -/
def order (c : Client) : List ExchangeId :=
  let ids := List.range c.exchanges.length
  let waiting := c.shared.pool.waiting.filterMap fun t =>
    ids.find? fun id => (c.exchange? id).any (·.phase = .waiting t.id)
  waiting ++ ids.filter (!waiting.contains ·)

/-- The tasks that can take a step. -/
def readyTasks (c : Client) : List Task :=
  (c.order.flatMap tasksOf).filter fun task => (c.advance task).isSome

/-- The next time at which something may happen without outside help. -/
def nextTimer? (c : Client) : Option Nat :=
  ((c.exchanges.flatMap fun x => x.timers c.shared).filter (c.shared.now < ·)).min?

end Client

end HttpClient
