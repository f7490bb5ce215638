import HttpClient.Proofs.Pool.Callers

/-!
# Commands and custody

Every command of a ledger whose pool is not given up keeps the accounts. Where the answer to a
command shows a connection as opened, it is added to those that were opened, and nothing else is.
-/

namespace HttpClient

namespace Ledger

open Custody

variable {start : Custody} {reports : Bool} {l : Ledger} {hs : Multiset Holding}
  {before : Multiset ConnId} {O : Multiset Opened} {p : Pool} {dead : List Opened}

/-- A slot becomes a connection that is opened and checked out. -/
theorem Accounted.connect {r : Reservation}
    (h : Accounted start reports l (.slot r ::ₘ hs) before O) (name : String) :
    Accounted start reports (l.connect name r).2 (.lease (l.connect name r).1 ::ₘ hs) before
      ((l.connect name r).1.toOpened ::ₘ O) := by
  have hpool : l.hasPool = true := by simp only [hasPool, h.isOpen, Bool.true_or]
  obtain ⟨gone, hmoves, hgone⟩ := h.moves
  have hopened : (l.connect name r).2 =
      { l with pool := (l.pool.fulfill l.now r l.pool.nextId).2,
               connections := (name, (l.connect name r).1.id) :: l.connections } := by
    simp only [Ledger.connect, hpool, if_true]
  rw [hopened]
  refine ⟨h.isOpen, ⟨gone, ?_, hgone⟩, ?_, ?_, h.undecided, ?_, h.outcomes_lt, h.names⟩
  · rw [custody_cons] at hmoves ⊢
    exact hmoves.tail (.fulfill l.now r l.pool.nextId)
  · rw [tickets_lease, ← tickets_slot r]
    exact h.nodup
  · rw [tickets_lease, ← tickets_slot r]
    exact h.queue
  · rw [tickets_lease, ← tickets_slot r]
    exact h.tickets_lt

/-- Noting an outcome takes no name away. -/
theorem holdings_settle_withPool (l : Ledger) (p : Pool) (dead : List Opened) (ticket : Nat)
    (status : CheckoutStatus) :
    ((l.withPool p dead).settle ticket status).holdings = l.holdings := by
  cases status <;> exact holdings_withPool l p dead

/-- Serving waiting callers takes no name away. -/
theorem holdings_serve (fuel : Nat) (l : Ledger) : (l.serve fuel).holdings = l.holdings := by
  induction fuel generalizing l with
  | zero => rfl
  | succ fuel ih =>
    rw [serve]
    split
    · rfl
    · exact (ih _).trans (holdings_settle_withPool ..)

/-- Serving all waiting callers takes no name away. -/
theorem holdings_serveAll (l : Ledger) : l.serveAll.holdings = l.holdings := holdings_serve _ l

/-- Letting time pass takes no name away. -/
theorem holdings_runTo (time fuel : Nat) (l : Ledger) :
    (l.runTo time fuel).holdings = l.holdings := by
  induction fuel generalizing l with
  | zero => exact holdings_serve _ _
  | succ fuel ih =>
    rw [runTo]
    split
    · split
      · exact (ih _).trans (holdings_serve _ _)
      · exact holdings_serve _ _
    · exact holdings_serve _ _

/-- Waiting for an outcome takes no name away. -/
theorem holdings_waitFor (ticket fuel : Nat) (l : Ledger) :
    (l.waitFor ticket fuel).holdings = l.holdings := by
  induction fuel generalizing l with
  | zero => rfl
  | succ fuel ih =>
    rw [waitFor]
    split
    · exact (ih _).trans (holdings_serve _ _)
    · rfl

/-- Giving a name to what was checked out is accounted for. -/
theorem Accounted.fillCheckout (hstart : start.Balanced) {found : Option Checkout}
    (h : Accounted start reports l (received l.carried found) before O) (name : String) :
    Accounted start reports (l.fillCheckout name found).2 (l.fillCheckout name found).2.carried
      before O := by
  rcases found with _ | (lease | r)
  · exact h
  · exact h.fill hstart name
  · exact h.fill hstart name

/-- Acquiring is accounted for. -/
private theorem Accounted.acquire (hstart : start.Balanced)
    (h : Accounted start reports l hs before O) {m : Moment} {target : Target}
    {found : Option Lease}
    (heq : l.pool.acquire m target = (found, p, dead)) :
    Accounted start reports (l.withPool p dead) (received hs (found.map .idle)) before O := by
  have hquiet := Pool.quiets_acquire heq
  refine h.operate hstart (fun G hG => ?_) hquiet.queue.le hquiet.nextTicket
    (tickets_received ..)
  rw [custody_received]
  exact acquire_moves hG heq

/-- Reserving is accounted for. -/
private theorem Accounted.reserve (hstart : start.Balanced)
    (h : Accounted start reports l hs before O) {target : Target} {found : Option Reservation}
    (heq : l.pool.reserve target = (found, p, dead)) :
    Accounted start reports (l.withPool p dead) (received hs (found.map .reserved)) before O := by
  have hquiet := Pool.quiets_reserve heq
  refine h.operate hstart (fun G hG => ?_) hquiet.queue.le hquiet.nextTicket
    (tickets_received ..)
  rw [custody_received]
  exact reserve_moves hG heq

/-- Releasing is accounted for. -/
private theorem Accounted.release (hstart : start.Balanced) {lease : Lease}
    (h : Accounted start reports l (.lease lease ::ₘ hs) before O) {m : Moment}
    (heq : l.pool.release m lease = (p, dead)) :
    Accounted start reports (l.withPool p dead) hs before O := by
  have hkept : p.queue = l.pool.queue ∧ p.nextTicket = l.pool.nextTicket := by
    unfold Pool.release at heq
    split at heq <;>
    · simp only [Prod.mk.injEq] at heq
      obtain ⟨rfl, rfl⟩ := heq
      exact ⟨Pool.queue_notify _, rfl⟩
  refine h.operate hstart (fun G hG => ?_) hkept.1.le hkept.2 (tickets_lease ..).symm
  rw [custody_cons] at hG ⊢
  exact release_moves hG heq

/-- Checking out is accounted for, however long it takes. -/
private theorem Accounted.checkout (hstart : start.Balanced)
    (h : Accounted start reports l l.carried before O) (target : Target) (wait : Option Nat) :
    let served := (l.beginCheckout target wait).2.serveAll
    let done := served.waitFor (l.beginCheckout target wait).1 (served.pool.waiting.length + 1)
    Accounted start reports done
      (received done.carried (done.outcomes.lookup (l.beginCheckout target wait).1).join)
      before O := by
  intro served done
  have hserved : Accounted start reports served
      (.waiter (l.beginCheckout target wait).1 ::ₘ l.carried) before O :=
    (h.beginCheckout hstart target wait).serveAll hstart
  have hdone : Accounted start reports done
      (.waiter (l.beginCheckout target wait).1 ::ₘ l.carried) before O :=
    hserved.waitFor hstart _ _
  have hleft : (l.beginCheckout target wait).1 ∉ done.pool.queue.map Prod.fst := by
    have hsettled := (waitFor_settles (l.beginCheckout target wait).1
      (served.pool.waiting.length + 1) served hserved.ids_nodup).2 (by simp [Pool.queue])
    rcases hsettled with hknown | hempty
    · intro hmem
      rw [hdone.undecided _ hmem] at hknown
      cases hknown
    · rw [hempty]
      exact Multiset.notMem_zero _
  have hsame : done.carried = l.carried := by
    have hbegun : (l.beginCheckout target wait).2.holdings = l.holdings := by
      rw [Ledger.beginCheckout]
      exact holdings_settle_withPool ..
    simp only [carried, done, served, holdings_waitFor, holdings_serveAll, hbegun]
  rw [hsame]
  exact hdone.collect hleft

end Ledger

/-- The connections that the answer to a command shows as opened. -/
def PoolCommand.opened : PoolCommand → PoolReply → List Opened
  | .connect .., .connection lease _ => [lease.toOpened]
  | .fulfill .., .connection lease _ => [lease.toOpened]
  | _, _ => []

namespace Ledger

open Custody

variable {start : Custody} {reports : Bool} {l : Ledger} {before : Multiset ConnId}
  {O : Multiset Opened}

/-- Taking a name's holding in hand and giving it up is accounted for. -/
private theorem Accounted.giveUp (hstart : start.Balanced) {name : String} {holding : Holding}
    (h : Accounted start reports l l.carried before O) (hname : l.holding? name = some holding) :
    Accounted start reports ((l.clear name).dropHolding holding)
      ((l.clear name).dropHolding holding).carried before O := by
  have hdropped := (h.take hname).dropHolding hstart
  simp only [carried, holdings_dropHolding]
  exact hdropped

/-- An operation on the pool takes no name away. -/
@[simp] theorem carried_withPool (l : Ledger) (p : Pool) (dead : List Opened) :
    (l.withPool p dead).carried = l.carried := by
  simp only [carried, holdings_withPool]

/-- Marking a lease is accounted for. -/
private theorem Accounted.mark {hs : Multiset Holding} {lease : Lease}
    (h : Accounted start reports l (.lease lease ::ₘ hs) before O) :
    Accounted start reports l (.lease lease.unpoolable ::ₘ hs) before O := by
  obtain ⟨gone, hmoves, hgone⟩ := h.moves
  refine ⟨h.isOpen, ⟨gone, ?_, hgone⟩, ?_, ?_, h.undecided, ?_, h.outcomes_lt, h.names⟩
  · rw [custody_cons] at hmoves ⊢
    exact hmoves.tail (.mark lease)
  · rw [tickets_lease, ← tickets_lease lease]
    exact h.nodup
  · rw [tickets_lease, ← tickets_lease lease]
    exact h.queue
  · rw [tickets_lease, ← tickets_lease lease]
    exact h.tickets_lt

/-- What opens no connection leaves the account of those that were opened. -/
private theorem Accounted.unopened {hs : Multiset Holding}
    (h : Accounted start reports l hs before O) :
    Accounted start reports l hs before (([] : List Opened) + O) := by
  rwa [Multiset.coe_nil, Multiset.zero_add]

/-- Opening a connection for a slot in hand is accounted for, and shows the connection. -/
private theorem Accounted.open (hstart : start.Balanced) {r : Reservation}
    (h : Accounted start reports l (.slot r ::ₘ l.carried) before O) (name : String)
    (dead : List TransportId) :
    let fulfilled := { (l.connect name r).2 with dead := dead }
    Accounted start reports (fulfilled.fillLease name (l.connect name r).1).2
      (fulfilled.fillLease name (l.connect name r).1).2.carried before
      ([(l.connect name r).1.toOpened] + O) :=
  (((h.connect name).elsewhere (l.connect name r).2.now dead
    (l.connect name r).2.connections (l.connect name r).2.arena).fill hstart name)

/-- Every command but giving up the pool is accounted for. -/
theorem Accounted.run (hstart : start.Balanced) (h : Accounted start reports l l.carried before O)
    {command : PoolCommand} (hpool : command ≠ .dropPool) :
    Accounted start reports (l.run command).2 (l.run command).2.carried before
      (command.opened (l.run command).1 + O) := by
  have hopen : (!l.isOpen) = false := by rw [h.isOpen]; rfl
  cases command with
  | acquire name target =>
    rcases hacquire : l.pool.acquire l.moment target with ⟨found, p, dead⟩
    have hacquired := h.acquire hstart hacquire
    rw [← carried_withPool l p dead] at hacquired
    simp only [Ledger.run, hopen, Bool.false_eq_true, if_false, hacquire]
    cases found with
    | none => exact hacquired.unopened
    | some lease => exact (hacquired.fillCheckout hstart name).unopened
  | reserve name target =>
    rcases hreserve : l.pool.reserve target with ⟨found, p, dead⟩
    have hreserved := h.reserve hstart hreserve
    rw [← carried_withPool l p dead] at hreserved
    simp only [Ledger.run, hopen, Bool.false_eq_true, if_false, hreserve]
    exact (hreserved.fillCheckout hstart name).unopened
  | connect name target =>
    rcases hreserve : l.pool.reserve target with ⟨found, p, dead⟩
    have hreserved := h.reserve hstart hreserve
    rw [← carried_withPool l p dead] at hreserved
    simp only [Ledger.run, hopen, Bool.false_eq_true, if_false, hreserve]
    cases found with
    | none => exact hreserved.unopened
    | some r => exact Accounted.open hstart hreserved name _
  | fulfill name closed =>
    cases hname : l.holding? name with
    | none =>
      simp only [Ledger.run, hname]
      exact h.unopened
    | some holding =>
      cases holding with
      | lease lease =>
        simp only [Ledger.run, hname]
        exact (h.giveUp hstart hname).unopened
      | waiter ticket =>
        simp only [Ledger.run, hname]
        exact (h.giveUp hstart hname).unopened
      | slot r =>
        simp only [Ledger.run, hname]
        cases closed with
        | true => exact (h.take hname).open hstart name _
        | false => exact (h.take hname).open hstart name _
  | checkout name target wait =>
    simp only [Ledger.run, hopen, Bool.false_eq_true, if_false]
    exact ((h.checkout hstart target wait).fillCheckout hstart name).unopened
  | wait name target wait =>
    have hsame : (l.beginCheckout target wait).2.carried = l.carried := by
      rw [Ledger.beginCheckout, carried, holdings_settle_withPool, carried]
    have hbegun := h.beginCheckout hstart target wait
    rw [← hsame] at hbegun
    simp only [Ledger.run, hopen, Bool.false_eq_true, if_false]
    exact (hbegun.fill hstart name).unopened
  | poll name =>
    cases hname : l.holding? name with
    | none =>
      simp only [Ledger.run, hname]
      exact h.unopened
    | some holding =>
      cases holding with
      | lease lease =>
        simp only [Ledger.run, hname]
        exact h.unopened
      | slot r =>
        simp only [Ledger.run, hname]
        exact h.unopened
      | waiter ticket =>
        simp only [Ledger.run, hname]
        cases houtcome : l.outcomes.lookup ticket with
        | none => exact h.unopened
        | some outcome =>
          have hleft : ticket ∉ (l.clear name).pool.queue.map Prod.fst := fun hmem =>
            absurd (h.undecided ticket hmem) (by simp [houtcome])
          have hgot := (h.take hname).collect hleft
          rw [show (l.clear name).outcomes.lookup ticket = some outcome from houtcome] at hgot
          exact (hgot.fillCheckout hstart name).unopened
  | unpoolable name =>
    cases hname : l.holding? name with
    | none =>
      simp only [Ledger.run, hname]
      exact h.unopened
    | some holding =>
      cases holding with
      | lease lease =>
        simp only [Ledger.run, hname]
        exact ((h.take hname).mark.fill hstart name).unopened
      | slot r =>
        simp only [Ledger.run, hname]
        exact h.unopened
      | waiter ticket =>
        simp only [Ledger.run, hname]
        exact h.unopened
  | release name =>
    cases hname : l.holding? name with
    | none =>
      simp only [Ledger.run, hname]
      exact h.unopened
    | some holding =>
      cases holding with
      | lease lease =>
        rcases hrelease : (l.clear name).pool.release (l.clear name).moment lease with ⟨p, dead⟩
        have hreleased := (h.take hname).release hstart hrelease
        rw [← carried_withPool _ p dead] at hreleased
        simp only [Ledger.run, hname, show (l.clear name).isOpen = true from h.isOpen, if_true,
          hrelease]
        exact hreleased.unopened
      | slot r =>
        simp only [Ledger.run, hname]
        exact (h.giveUp hstart hname).unopened
      | waiter ticket =>
        simp only [Ledger.run, hname]
        exact (h.giveUp hstart hname).unopened
  | remove name =>
    cases hname : l.holding? name with
    | none =>
      simp only [Ledger.run, hname]
      exact h.unopened
    | some holding =>
      cases holding with
      | lease lease =>
        simp only [Ledger.run, hname]
        exact (h.giveUp hstart hname).unopened
      | slot r =>
        simp only [Ledger.run, hname]
        exact (h.giveUp hstart hname).unopened
      | waiter ticket =>
        simp only [Ledger.run, hname]
        exact (h.giveUp hstart hname).unopened
  | drop name =>
    cases hname : l.holding? name with
    | none =>
      simp only [Ledger.run, hname]
      exact h.unopened
    | some holding =>
      simp only [Ledger.run, hname]
      exact (h.giveUp hstart hname).unopened
  | close conn =>
    simp only [Ledger.run]
    split
    · exact (h.elsewhere l.now _ l.connections l.arena).unopened
    · exact h.unopened
  | advance millis =>
    simp only [Ledger.run, carried, holdings_runTo]
    exact (h.runTo hstart _ _).unopened
  | dropPool => exact absurd rfl hpool
  | park name realm =>
    simp only [Ledger.run]
    split
    · exact (h.elsewhere l.now l.dead l.connections _).unopened
    · exact h.unopened
  | unpark name realm =>
    simp only [Ledger.run]
    split
    · exact (h.elsewhere l.now l.dead l.connections _).unopened
    · exact h.unopened

end Ledger

end HttpClient
