import HttpClient.Pool.Basic

/-!
# Checking out

A caller gets an idle connection or a slot for a new one. When the pool is full it may wait:
whenever something is given back all waiting callers try again, in the order in which they
began to wait, and a caller whose time is over tries one last time.
-/

namespace HttpClient

/-- What a caller gets. -/
inductive Checkout
  | idle (lease : Lease)
  | reserved (reservation : Reservation)
  deriving DecidableEq, Repr

/-- How a request for a connection stands. -/
inductive CheckoutStatus
  | ready (checkout : Checkout)
  | waiting (ticket : Nat)
  | tooMany
  deriving DecidableEq, Repr

/-- True when a waiting caller has reason to try again. -/
def Ticket.isDue (t : Ticket) (now : Nat) : Bool := t.notified || t.deadline ≤ now

namespace Pool

/-- One attempt to get a connection or a slot. -/
def attempt (p : Pool) (m : Moment) (target : Target) : Option Checkout × Pool × List Opened :=
  let (found, p, expired) := p.acquire m target
  match found with
  | some lease => (some (.idle lease), p, expired)
  | none =>
    let (reservation, p, evicted) := p.reserve target
    (reservation.map .reserved, p, expired ++ evicted)

/-- Begins to wait, behind all who wait already. -/
def enqueue (p : Pool) (t : Ticket) : Pool := { p with waiting := p.waiting ++ [t] }

/-- Stops waiting. -/
def dequeue (p : Pool) (ticket : Nat) : Pool :=
  { p with waiting := p.waiting.filter (·.id ≠ ticket) }

/-- An attempt by a caller who waits until a deadline if it fails. -/
def attemptUntil (p : Pool) (m : Moment) (t : Ticket) : CheckoutStatus × Pool × List Opened :=
  let (found, p, dead) := p.attempt m t.target
  match found with
  | some checkout => (.ready checkout, p, dead)
  | none =>
    if t.deadline ≤ m.now then (.tooMany, p, dead)
    else (.waiting t.id, p.enqueue { t with notified := false }, dead)

/-- Asks for a connection, waiting for at most the given time. -/
def checkout (p : Pool) (m : Moment) (target : Target) (wait : Option Nat) :
    CheckoutStatus × Pool × List Opened :=
  let t : Ticket := { id := p.nextTicket, target := target, deadline := m.now + wait.getD 0 }
  attemptUntil { p with nextTicket := p.nextTicket + 1 } m t

/-- The ticket of a waiting caller. -/
def ticket? (p : Pool) (ticket : Nat) : Option Ticket := p.waiting.find? (·.id = ticket)

/-- A waiting caller tries again if there is reason to. -/
def resume (p : Pool) (m : Moment) (ticket : Nat) : CheckoutStatus × Pool × List Opened :=
  match p.ticket? ticket with
  | none => (.tooMany, p, [])
  | some t =>
    if t.isDue m.now then (p.dequeue ticket).attemptUntil m t else (.waiting ticket, p, [])

/-- The ticket of the first caller in the queue who has reason to try again. -/
def nextDue? (p : Pool) (now : Nat) : Option Nat := (p.waiting.find? (·.isDue now)).map Ticket.id

/-- The first deadline of a waiting caller. -/
def nextDeadline? (p : Pool) : Option Nat := (p.waiting.map Ticket.deadline).min?

end Pool

end HttpClient
