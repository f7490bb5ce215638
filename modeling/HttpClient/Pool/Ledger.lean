import HttpClient.Pool.Checkout

/-!
# The ledger of a pool

A pool with all its callers: what they hold goes by names, and callers that wait are served
whenever they have reason to try again. The ledger also keeps the clock, the streams closed by
their peers and the arena of negotiator states, whose entries go with their connections.
-/

namespace HttpClient

/-- What a name stands for. -/
inductive Holding
  | lease (lease : Lease)
  | slot (reservation : Reservation)
  /-- A caller that waits, or has its outcome and was not asked for it. -/
  | waiter (ticket : Nat)
  deriving DecidableEq, Repr

/-- A pool with its callers. -/
structure Ledger where
  pool : Pool
  /-- False when only waiting callers still refer to the pool. -/
  isOpen : Bool := true
  /-- True when closed connections are reported. -/
  reports : Bool := true
  now : Nat := 0
  arena : Arena := {}
  /-- The streams that their peers closed. -/
  dead : List TransportId := []
  holdings : List (String × Holding) := []
  /-- The connection last opened under each name. -/
  connections : List (String × ConnId) := []
  /-- What callers that waited got, absent where there were too many connections. -/
  outcomes : List (Nat × Option Checkout) := []
  /-- The connections reported closed since the last command. -/
  closed : List ConnId := []
  deriving DecidableEq, Repr

/-- What a caller does. -/
inductive PoolCommand
  | acquire (name : String) (target : Target)
  | reserve (name : String) (target : Target)
  /-- Reserves a slot and turns it into a connection. -/
  | connect (name : String) (target : Target)
  | fulfill (name : String) (closed : Bool)
  | checkout (name : String) (target : Target) (wait : Option Nat)
  /-- Checks out in the background. -/
  | wait (name : String) (target : Target) (wait : Option Nat)
  | poll (name : String)
  | unpoolable (name : String)
  | release (name : String)
  | remove (name : String)
  | drop (name : String)
  /-- The peer closes a connection. -/
  | close (conn : ConnId)
  | advance (millis : Nat)
  | dropPool
  | park (name : String) (realm : Realm)
  | unpark (name : String) (realm : Realm)

/-- What a caller is answered. -/
inductive PoolReply
  | done
  | miss
  | reserved
  | pending
  | tooMany
  /-- The name does not hold what the command needs. -/
  | absent
  | noPool
  | found (yes : Bool)
  | connection (lease : Lease) (poolable : Bool)
  deriving DecidableEq, Repr

namespace Ledger

/-- The world as the pool sees it. -/
def moment (l : Ledger) : Moment := ⟨l.now, fun t => !l.dead.contains t⟩

/-- True while the pool exists. -/
def hasPool (l : Ledger) : Bool := l.isOpen || !l.pool.waiting.isEmpty

/-- Reports closed connections, whose parked states go. -/
def report (l : Ledger) (dead : List Opened) : Ledger :=
  if l.reports && l.hasPool then
    let ids := dead.map Opened.id
    { l with arena := l.arena.removeAll ids, closed := l.closed ++ ids }
  else l

/-- The ledger after an operation on its pool. -/
def withPool (l : Ledger) (p : Pool) (dead : List Opened) : Ledger :=
  let l := l.report dead
  { l with pool := p }

/-- Gives up a lease. -/
def dropLease (l : Ledger) (lease : Lease) : Ledger :=
  if l.hasPool then l.withPool (l.pool.discard lease) [lease.toOpened] else l

/-- Gives up a slot. -/
def dropSlot (l : Ledger) (r : Reservation) : Ledger :=
  if l.hasPool then { l with pool := l.pool.abandon r } else l

/-- Gives up what was checked out. -/
def dropCheckout (l : Ledger) : Checkout → Ledger
  | .idle lease => l.dropLease lease
  | .reserved r => l.dropSlot r

/-- Gives up what a name stood for. -/
def dropHolding (l : Ledger) : Holding → Ledger
  | .lease lease => l.dropLease lease
  | .slot r => l.dropSlot r
  | .waiter ticket =>
    match l.outcomes.lookup ticket with
    | some (some checkout) => l.dropCheckout checkout
    | _ => { l with pool := l.pool.dequeue ticket }

/-- What a name stands for. -/
def holding? (l : Ledger) (name : String) : Option Holding := l.holdings.lookup name

/-- The ledger in which a name stands for nothing. -/
def clear (l : Ledger) (name : String) : Ledger :=
  { l with holdings := l.holdings.filter (·.1 ≠ name) }

/-- Gives a name to something and gives up what the name stood for. -/
def fill (l : Ledger) (name : String) (holding : Holding) : Ledger :=
  let before := l.holding? name
  let l := l.clear name
  let l := { l with holdings := (name, holding) :: l.holdings }
  match before with
  | some old => l.dropHolding old
  | none => l

/-- The answer that shows a lease. -/
def shown (l : Ledger) (lease : Lease) : PoolReply :=
  .connection lease (lease.isPoolable l.moment)

/-- Gives a name to a lease. -/
def fillLease (l : Ledger) (name : String) (lease : Lease) : PoolReply × Ledger :=
  let l := l.fill name (.lease lease)
  (l.shown lease, l)

/-- Gives a name to what was checked out. -/
def fillCheckout (l : Ledger) (name : String) : Option Checkout → PoolReply × Ledger
  | none => (.tooMany, l)
  | some (.idle lease) => l.fillLease name lease
  | some (.reserved r) => (.reserved, l.fill name (.slot r))

/-- Opens the connection of a slot under a name. -/
def connect (l : Ledger) (name : String) (r : Reservation) : Lease × Ledger :=
  let (lease, p) := l.pool.fulfill l.now r l.pool.nextId
  let p := if l.hasPool then p else { p with inUse := l.pool.inUse }
  (lease, { l with pool := p, connections := (name, lease.id) :: l.connections })

/-- Notes what a caller that waited got. -/
def settle (l : Ledger) (ticket : Nat) : CheckoutStatus → Ledger
  | .ready checkout => { l with outcomes := (ticket, some checkout) :: l.outcomes }
  | .tooMany => { l with outcomes := (ticket, none) :: l.outcomes }
  | .waiting _ => l

/-- Begins a checkout and answers its ticket. -/
def beginCheckout (l : Ledger) (target : Target) (wait : Option Nat) : Nat × Ledger :=
  let ticket := l.pool.nextTicket
  let (status, p, dead) := l.pool.checkout l.moment target wait
  (ticket, (l.withPool p dead).settle ticket status)

/-- Lets waiting callers try again, at most so many times. -/
def serve : Nat → Ledger → Ledger
  | 0, l => l
  | fuel + 1, l =>
    match l.pool.nextDue? l.now with
    | none => l
    | some ticket =>
      let (status, p, dead) := l.pool.resume l.moment ticket
      serve fuel ((l.withPool p dead).settle ticket status)

/-- Lets waiting callers try again until none has reason to: each leaves the queue or is told
again only when an idle connection was closed. -/
def serveAll (l : Ledger) : Ledger :=
  l.serve ((l.pool.waiting.length + 1) * (l.pool.idle.length + 2))

/-- Moves the clock to a time, stopping at the deadlines of waiting callers. -/
def runTo (time : Nat) : Nat → Ledger → Ledger
  | 0, l => { l with now := time }.serveAll
  | fuel + 1, l =>
    match l.pool.nextDeadline? with
    | some deadline =>
      if deadline ≤ time then runTo time fuel { l with now := max l.now deadline }.serveAll
      else { l with now := time }.serveAll
    | none => { l with now := time }.serveAll

/-- Moves the clock from deadline to deadline until a ticket has its outcome. -/
def waitFor (ticket : Nat) : Nat → Ledger → Ledger
  | 0, l => l
  | fuel + 1, l =>
    match l.outcomes.lookup ticket, l.pool.nextDeadline? with
    | none, some deadline => waitFor ticket fuel { l with now := max l.now deadline }.serveAll
    | _, _ => l

/-- Does one command. -/
def run (l : Ledger) : PoolCommand → PoolReply × Ledger
  | .acquire name target =>
    if !l.isOpen then (.noPool, l)
    else
      let (found, p, dead) := l.pool.acquire l.moment target
      let l := l.withPool p dead
      match found with
      | some lease => l.fillLease name lease
      | none => (.miss, l)
  | .reserve name target =>
    if !l.isOpen then (.noPool, l)
    else
      let (r, p, dead) := l.pool.reserve target
      (l.withPool p dead).fillCheckout name (r.map .reserved)
  | .connect name target =>
    if !l.isOpen then (.noPool, l)
    else
      let (r, p, dead) := l.pool.reserve target
      let l := l.withPool p dead
      match r with
      | none => (.tooMany, l)
      | some r => let (lease, l) := l.connect name r; l.fillLease name lease
  | .fulfill name closed =>
    match l.holding? name with
    | some (.slot r) =>
      let (lease, l) := (l.clear name).connect name r
      let l := if closed then { l with dead := lease.transport :: l.dead } else l
      l.fillLease name lease
    | some other => (.absent, (l.clear name).dropHolding other)
    | none => (.absent, l)
  | .checkout name target wait =>
    if !l.isOpen then (.noPool, l)
    else
      let (ticket, l) := l.beginCheckout target wait
      let l := l.serveAll
      let l := l.waitFor ticket (l.pool.waiting.length + 1)
      l.fillCheckout name (l.outcomes.lookup ticket).join
  | .wait name target wait =>
    if !l.isOpen then (.noPool, l)
    else
      let (ticket, l) := l.beginCheckout target wait
      (.done, l.fill name (.waiter ticket))
  | .poll name =>
    match l.holding? name with
    | none => (.absent, l)
    | some (.waiter ticket) =>
      match l.outcomes.lookup ticket with
      | none => (.pending, l)
      | some outcome => (l.clear name).fillCheckout name outcome
    | some _ => (.pending, l)
  | .unpoolable name =>
    match l.holding? name with
    | some (.lease lease) => (l.clear name).fillLease name lease.unpoolable
    | _ => (.absent, l)
  | .release name =>
    match l.holding? name with
    | some (.lease lease) =>
      let l := l.clear name
      if l.isOpen then
        let (p, dead) := l.pool.release l.moment lease
        (.done, l.withPool p dead)
      else (.noPool, l.dropLease lease)
    | some other => (.absent, (l.clear name).dropHolding other)
    | none => (.absent, l)
  | .remove name =>
    match l.holding? name with
    | some (.lease lease) =>
      let l := (l.clear name).dropLease lease
      (if l.isOpen then .done else .noPool, l)
    | some other => (.absent, (l.clear name).dropHolding other)
    | none => (.absent, l)
  | .drop name =>
    match l.holding? name with
    | some holding => (.done, (l.clear name).dropHolding holding)
    | none => (.absent, l)
  | .close conn =>
    if 1 ≤ conn ∧ conn < l.pool.nextId then (.done, { l with dead := conn :: l.dead })
    else (.absent, l)
  | .advance millis => (.done, l.runTo (l.now + millis) (l.pool.waiting.length + 1))
  | .dropPool => (.done, { l with isOpen := false })
  | .park name realm =>
    match l.connections.lookup name with
    | some conn =>
      (.done, { l with arena := l.arena.put conn realm.key (Negotiator.ofRealm (some realm)) })
    | none => (.absent, l)
  | .unpark name realm =>
    match l.connections.lookup name with
    | some conn =>
      let (found, arena) := l.arena.take conn realm.key
      (.found found.isSome, { l with arena := arena })
    | none => (.absent, l)

/-- Does one command and then serves the waiting callers. -/
def step (l : Ledger) (command : PoolCommand) : PoolReply × Ledger :=
  let (reply, l) := { l with closed := [] }.run command
  (reply, l.serveAll)

end Ledger

end HttpClient
