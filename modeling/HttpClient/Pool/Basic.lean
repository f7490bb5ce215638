import HttpClient.Auth.Arena
import HttpClient.Settings

/-!
# The connection pool

Idle connections are handed out most recently used first. A slot is held from the moment it is
reserved until its connection is discarded, whether the connection is idle, in use or still
being opened; slots are limited for each target and in all. Expired connections leave the pool
when their target is looked at, and all others at most once in a cleaner period. Every
operation that closes connections answers them, so that they can be closed outside.
-/

namespace HttpClient

/-- The number of a transport stream. -/
abbrev TransportId := Nat

/-- What the pool sees of the world when it is used. -/
structure Moment where
  now : Nat
  /-- False for streams that are known to be closed. -/
  alive : TransportId → Bool

/-- A connection that was opened. -/
structure Opened where
  id : ConnId
  target : Target
  createdAt : Nat
  /-- The stream that the connection runs over. -/
  transport : TransportId
  deriving DecidableEq, Repr

/-- A connection in the idle set. -/
structure Idle extends Opened where
  idleAt : Nat
  deriving DecidableEq, Repr

/-- A connection checked out of the pool. -/
structure Lease extends Opened where
  /-- True when the connection came out of the idle set. -/
  reused : Bool
  /-- False when the connection must not go back to the idle set. -/
  poolable : Bool := true
  deriving DecidableEq, Repr

/-- The lease of a connection that does not go back to the idle set. -/
def Lease.unpoolable (l : Lease) : Lease := { l with poolable := false }

/-- True while the connection can go back to the idle set. -/
def Lease.isPoolable (l : Lease) (m : Moment) : Bool := l.poolable && m.alive l.transport

/-- A slot for a connection that is still being opened. -/
structure Reservation where
  target : Target
  deriving DecidableEq, Repr

/-- A caller waiting for a connection or a slot. -/
structure Ticket where
  id : Nat
  target : Target
  deadline : Nat
  /-- True when something was given back since the caller began to wait. -/
  notified : Bool := false
  deriving DecidableEq, Repr

/-- The counters that are reported. -/
structure PoolStats where
  idle : Nat
  inUse : Nat
  total : Nat
  deriving DecidableEq, Repr

/-- A connection pool. -/
structure Pool where
  settings : PoolSettings
  /-- The idle connections in the order of their release. -/
  idle : List Idle := []
  /-- The target of every slot that is held. -/
  slots : List Target := []
  /-- How many slots are held. -/
  total : Nat := 0
  /-- How many connections are checked out. -/
  inUse : Nat := 0
  lastSweep : Nat := 0
  nextId : ConnId := 1
  /-- The callers that wait, longest first. -/
  waiting : List Ticket := []
  nextTicket : Nat := 0
  deriving DecidableEq, Repr

/-- True for an idle connection that may not be handed out any more. -/
def Idle.isExpired (e : Idle) (s : PoolSettings) (m : Moment) : Bool :=
  !m.alive e.transport
    || s.idleTimeout.any (· < m.now - e.idleAt)
    || s.connectionTtl.any (· < m.now - e.createdAt)

namespace Pool

/-- How many slots a target holds. -/
def openCount (p : Pool) (target : Target) : Nat := p.slots.count target

/-- The idle connections of a target, oldest first. -/
def idleOf (p : Pool) (target : Target) : List Idle := p.idle.filter (·.target = target)

/-- The counters that are reported. -/
def stats (p : Pool) : PoolStats := ⟨p.idle.length, p.inUse, p.total⟩

/-- Tells all waiting callers to try again. -/
def notify (p : Pool) : Pool :=
  { p with waiting := p.waiting.map fun t => { t with notified := true } }

/-- Gives back one slot of a target. -/
def forget (p : Pool) (target : Target) : Pool :=
  { p with slots := p.slots.erase target, total := p.total - 1 }

/-- Takes the idle connections of a class out of the pool, with their slots. -/
def expel (p : Pool) (which : Idle → Bool) : Pool × List Opened :=
  let leaving := p.idle.filter which
  let kept := { p with idle := p.idle.filter fun e => !which e }
  (leaving.foldl (fun p e => p.forget e.target) kept, leaving.map Idle.toOpened)

/-- Takes out what is expired, everywhere when the cleaner period is over and else for one
target. -/
def reap (p : Pool) (m : Moment) (target : Target) : Pool × List Opened :=
  let due := p.settings.cleanerPeriod ≤ m.now - p.lastSweep
  let p := if due then { p with lastSweep := m.now } else p
  p.expel fun e => (due || e.target = target) && e.isExpired p.settings m

/-- Notifies the waiting callers if connections were closed. -/
def bury (p : Pool) (dead : List Opened) : Pool := if dead.isEmpty then p else p.notify

/-- The most recently used live idle connection of a target. -/
def acquire (p : Pool) (m : Moment) (target : Target) : Option Lease × Pool × List Opened :=
  let (p, dead) := p.reap m target
  let p := p.bury dead
  let newestFirst := p.idle.reverse
  match newestFirst.find? (·.target = target) with
  | none => (none, p, dead)
  | some e =>
    let idle := (newestFirst.eraseP (·.target = target)).reverse
    (some { toOpened := e.toOpened, reused := true }, { p with idle := idle, inUse := p.inUse + 1 },
      dead)

/-- Takes out the idle connection of a class that was released first. -/
def evict? (p : Pool) (which : Idle → Bool) : Option (Idle × Pool) :=
  (p.idle.find? which).map fun e =>
    (e, Pool.forget { p with idle := p.idle.eraseP which } e.target)

theorem length_of_evict? {p q : Pool} {which : Idle → Bool} {e : Idle}
    (h : p.evict? which = some (e, q)) : q.idle.length < p.idle.length := by
  unfold evict? at h
  cases hf : p.idle.find? which with
  | none => simp [hf] at h
  | some found =>
    simp only [hf, Option.map_some, Option.some.injEq, Prod.mk.injEq] at h
    obtain ⟨-, rfl⟩ := h
    have hm := List.mem_of_find?_eq_some hf
    have hp := List.find?_some hf
    simp only [forget, List.length_eraseP_of_mem hm hp]
    have : 0 < p.idle.length := List.length_pos_of_mem hm
    omega

/-- Evicts idle connections of a class, oldest first, until the pool is not full. -/
def makeRoom (isFull : Pool → Bool) (which : Idle → Bool) (p : Pool) :
    Bool × Pool × List Opened :=
  if isFull p then
    match _h : p.evict? which with
    | none => (false, p, [])
    | some (e, q) =>
      let (ok, r, dead) := makeRoom isFull which q
      (ok, r, e.toOpened :: dead)
  else (true, p, [])
  termination_by p.idle.length
  decreasing_by exact length_of_evict? _h

/-- True when a target may hold no further slot. -/
def isFullFor (target : Target) (p : Pool) : Bool :=
  p.settings.maxPerHost.any (· ≤ p.openCount target)

/-- True when no further slot may be held at all. -/
def isFull (p : Pool) : Bool := p.settings.maxConnections.any (· ≤ p.total)

/-- Claims a slot; where a limit is reached, the oldest idle connection that can be spared makes
room. -/
def reserve (p : Pool) (target : Target) : Option Reservation × Pool × List Opened :=
  let (okHost, p, evictedHost) := p.makeRoom (isFullFor target) (·.target = target)
  if okHost then
    let (ok, p, evicted) := p.makeRoom isFull fun _ => true
    let dead := evictedHost ++ evicted
    let p := p.bury dead
    if ok then
      (some ⟨target⟩, { p with slots := target :: p.slots, total := p.total + 1 }, dead)
    else (none, p, dead)
  else (none, p.bury evictedHost, evictedHost)

/-- Turns a slot into a connection that runs over a stream and is checked out. -/
def fulfill (p : Pool) (now : Nat) (r : Reservation) (transport : TransportId) : Lease × Pool :=
  let opened : Opened := ⟨p.nextId, r.target, now, transport⟩
  ({ toOpened := opened, reused := false },
    { p with nextId := p.nextId + 1, inUse := p.inUse + 1 })

/-- Gives back a slot for which no connection was opened. -/
def abandon (p : Pool) (r : Reservation) : Pool := (p.forget r.target).notify

/-- The pool with one connection less checked out. -/
def giveBack (p : Pool) : Pool := { p with inUse := p.inUse - 1 }

/-- Closes a connection that was checked out. -/
def discard (p : Pool) (l : Lease) : Pool := (p.giveBack.forget l.target).notify

/-- True when connections to a target are kept. -/
def keeps (p : Pool) (target : Target) : Bool :=
  if target.isSecure then p.settings.allowPoolingSecure else p.settings.allowPooling

/-- True when a lease that is given back stays in the pool. -/
def canKeep (p : Pool) (m : Moment) (l : Lease) : Bool :=
  l.poolable && p.keeps l.target && !p.settings.connectionTtl.any (· < m.now - l.createdAt)
    && m.alive l.transport

/-- Takes a lease back: into the idle set, or closed where it cannot be reused. -/
def release (p : Pool) (m : Moment) (l : Lease) : Pool × List Opened :=
  if p.canKeep m l then
    let entry : Idle := { toOpened := l.toOpened, idleAt := m.now }
    (Pool.notify { p.giveBack with idle := p.idle ++ [entry] }, [])
  else (p.discard l, [l.toOpened])

end Pool

end HttpClient
