import HttpClient.Proofs.Pool.Accounts
import Mathlib.Data.List.Pairwise

/-!
# The idle set in the order of release

A connection joins the idle set at its end when it is released, with the time of the release. All
else only takes connections away and leaves the others in their order, and the clock does not go
back: so the connections that were released longest ago are always found first.
-/

namespace HttpClient

namespace Pool

variable {p q : Pool} {now : Nat} {target : Target}

/-- The idle connections stand in the order of their release, which is over. -/
structure InOrder (p : Pool) (now : Nat) : Prop where
  sorted : p.idle.Pairwise fun e u => e.idleAt ≤ u.idleAt
  past : ∀ e ∈ p.idle, e.idleAt ≤ now

/-- Taking connections away and letting time pass keeps the order. -/
theorem InOrder.of_sublist {later : Nat} (h : p.InOrder now) (hidle : q.idle.Sublist p.idle)
    (hnow : now ≤ later) : q.InOrder later := by
  constructor
  · exact h.sorted.sublist hidle
  · intro e he
    exact (h.past e (hidle.subset he)).trans hnow

/-- Releasing a connection keeps the order. -/
theorem InOrder.concat {e : Idle} (h : p.InOrder now) (he : e.idleAt = now)
    (hidle : q.idle = p.idle ++ [e]) : q.InOrder now := by
  constructor
  · rw [hidle, List.pairwise_append]
    refine ⟨h.sorted, List.pairwise_singleton _ _, ?_⟩
    intro u hu v hv
    rw [List.mem_singleton.mp hv, he]
    exact h.past u hu
  · intro u hu
    rw [hidle] at hu
    rcases List.mem_append.mp hu with hold | hnew
    · exact h.past u hold
    · rw [List.mem_singleton.mp hnew, he]

/-- The connection found first in an ordered set was released first. -/
theorem InOrder.idleAt_le {which : Idle → Bool} {e : Idle} (h : p.InOrder now)
    (hfind : p.idle.find? which = some e) : ∀ u ∈ p.idle, which u = true → e.idleAt ≤ u.idleAt := by
  obtain ⟨-, before, after, hsplit, hbefore⟩ := List.find?_eq_some_iff_append.mp hfind
  have hsorted := h.sorted
  rw [hsplit, List.pairwise_append, List.pairwise_cons] at hsorted
  intro u hu hwhich
  rw [hsplit] at hu
  rcases List.mem_append.mp hu with hu | hu
  · have hnot := hbefore u hu
    rw [hwhich] at hnot
    cases hnot
  · rcases List.mem_cons.mp hu with rfl | hu
    · exact Nat.le_refl _
    · exact hsorted.2.1.1 u hu

/-! ### What operations leave of the idle set -/

/-- The slots of all connections that leave are given back. -/
theorem foldl_forget_eq (leaving : List Idle) (p : Pool) :
    leaving.foldl (fun p e => p.forget e.target) p =
      { p with slots := p.slots.diff (leaving.map (·.target)),
               total := p.total - leaving.length } := by
  induction leaving generalizing p with
  | nil => rfl
  | cons e leaving ih =>
    rw [List.foldl_cons, ih, List.map_cons, List.diff_cons, List.length_cons]
    simp only [forget, Nat.sub_sub, Nat.add_comm 1]

/-- What is left when a class of the idle connections was taken out. -/
theorem expel_eq (p : Pool) (which : Idle → Bool) :
    p.expel which =
      ({ p with idle := p.idle.filter fun e => !which e,
                slots := p.slots.diff ((p.idle.filter which).map (·.target)),
                total := p.total - (p.idle.filter which).length },
        (p.idle.filter which).map Idle.toOpened) := by
  simp only [expel, foldl_forget_eq]

@[simp] theorem idle_bury (p : Pool) (dead : List Opened) : (p.bury dead).idle = p.idle := by
  unfold bury
  split <;> rfl

/-- Looking after a target takes away what is expired. -/
theorem idle_reap_sublist (p : Pool) (m : Moment) (target : Target) :
    (p.reap m target).1.idle.Sublist p.idle := by
  simp only [reap, expel_eq]
  split <;> exact List.filter_sublist

/-- Acquiring takes one connection more than looking after the target. -/
theorem idle_acquire_sublist_reap {m : Moment} {found : Option Lease} {dead : List Opened}
    (heq : p.acquire m target = (found, q, dead)) :
    q.idle.Sublist (p.reap m target).1.idle := by
  rcases hreap : p.reap m target with ⟨p₁, dead₁⟩
  simp only [acquire, hreap] at heq
  split at heq
  · simp only [Prod.mk.injEq] at heq
    obtain ⟨-, rfl, -⟩ := heq
    rw [idle_bury]
  · rename_i e hfind
    obtain ⟨before, after, hidle, hrest⟩ := Custody.newest_split hfind
    simp only [Prod.mk.injEq] at heq
    obtain ⟨-, rfl, -⟩ := heq
    rw [idle_bury] at hidle
    rw [hrest, hidle]
    exact (List.sublist_cons_self e after).append_left before

theorem idle_acquire_sublist {m : Moment} {found : Option Lease} {dead : List Opened}
    (heq : p.acquire m target = (found, q, dead)) : q.idle.Sublist p.idle :=
  (idle_acquire_sublist_reap heq).trans (idle_reap_sublist p m target)

/-- Making room takes connections away. -/
theorem idle_makeRoom_sublist (isFull : Pool → Bool) (which : Idle → Bool) (p : Pool) :
    (p.makeRoom isFull which).2.1.idle.Sublist p.idle := by
  fun_induction makeRoom isFull which p with
  | case1 p hfull hnone => exact List.Sublist.refl _
  | case2 p hfull e r hsome ok q dead hmore ih =>
    rw [hmore] at ih
    obtain ⟨found, -, hpair⟩ := Option.map_eq_some_iff.mp hsome
    simp only [Prod.mk.injEq] at hpair
    obtain ⟨rfl, rfl⟩ := hpair
    exact ih.trans List.eraseP_sublist
  | case3 p hfull => exact List.Sublist.refl _

theorem idle_reserve_sublist {r : Option Reservation} {dead : List Opened}
    (heq : p.reserve target = (r, q, dead)) : q.idle.Sublist p.idle := by
  have hhost := idle_makeRoom_sublist (isFullFor target) (fun e => e.target = target) p
  rcases hmake : p.makeRoom (isFullFor target) (fun e => e.target = target) with
    ⟨okHost, p₁, dead₁⟩
  have hall := idle_makeRoom_sublist isFull (fun _ => true) p₁
  rcases hmake₂ : p₁.makeRoom isFull (fun _ => true) with ⟨ok, p₂, dead₂⟩
  rw [hmake] at hhost
  rw [hmake₂] at hall
  simp only [reserve, hmake, hmake₂] at heq
  split at heq
  · split at heq
    · simp only [Prod.mk.injEq] at heq
      obtain ⟨-, rfl, -⟩ := heq
      simp only [idle_bury]
      exact hall.trans hhost
    · simp only [Prod.mk.injEq] at heq
      obtain ⟨-, rfl, -⟩ := heq
      rw [idle_bury]
      exact hall.trans hhost
  · simp only [Prod.mk.injEq] at heq
    obtain ⟨-, rfl, -⟩ := heq
    rwa [idle_bury]

theorem idle_attempt_sublist {m : Moment} {found : Option Checkout} {dead : List Opened}
    (heq : p.attempt m target = (found, q, dead)) : q.idle.Sublist p.idle := by
  rcases hacquire : p.acquire m target with ⟨lease, p₁, expired⟩
  have hacquired := idle_acquire_sublist hacquire
  simp only [attempt, hacquire] at heq
  cases lease with
  | some lease =>
    simp only [Prod.mk.injEq] at heq
    obtain ⟨-, rfl, -⟩ := heq
    exact hacquired
  | none =>
    rcases hreserve : p₁.reserve target with ⟨r, p₂, evicted⟩
    simp only [hreserve, Prod.mk.injEq] at heq
    obtain ⟨-, rfl, -⟩ := heq
    exact (idle_reserve_sublist hreserve).trans hacquired

theorem idle_attemptUntil_sublist {m : Moment} {t : Ticket} {status : CheckoutStatus}
    {dead : List Opened} (heq : p.attemptUntil m t = (status, q, dead)) :
    q.idle.Sublist p.idle := by
  rcases hattempt : p.attempt m t.target with ⟨found, p₁, dead₁⟩
  have hattempted := idle_attempt_sublist hattempt
  simp only [attemptUntil, hattempt] at heq
  split at heq
  · simp only [Prod.mk.injEq] at heq
    obtain ⟨-, rfl, -⟩ := heq
    exact hattempted
  · split at heq <;>
    · simp only [Prod.mk.injEq] at heq
      obtain ⟨-, rfl, -⟩ := heq
      exact hattempted

theorem idle_checkout_sublist {m : Moment} {wait : Option Nat} {status : CheckoutStatus}
    {dead : List Opened} (heq : p.checkout m target wait = (status, q, dead)) :
    q.idle.Sublist p.idle :=
  idle_attemptUntil_sublist (p := { p with nextTicket := p.nextTicket + 1 }) heq

theorem idle_resume_sublist {m : Moment} {ticket : Nat} {status : CheckoutStatus}
    {dead : List Opened} (heq : p.resume m ticket = (status, q, dead)) :
    q.idle.Sublist p.idle := by
  unfold resume at heq
  split at heq
  · simp only [Prod.mk.injEq] at heq
    obtain ⟨-, rfl, -⟩ := heq
    exact List.Sublist.refl _
  · split at heq
    · exact idle_attemptUntil_sublist (p := p.dequeue ticket) heq
    · simp only [Prod.mk.injEq] at heq
      obtain ⟨-, rfl, -⟩ := heq
      exact List.Sublist.refl _

end Pool

namespace Ledger

variable {l m n : Ledger}

/-- No connection has joined the idle set since, the clock has not gone back, and what was reported
closed was added to the reports. -/
structure Wanes (l m : Ledger) : Prop where
  idle : m.pool.idle.Sublist l.pool.idle
  now : l.now ≤ m.now
  closed : l.closed <+: m.closed

/-- What leaves the idle set, the clock and the reports alone. -/
theorem Wanes.of_eq (hidle : m.pool.idle = l.pool.idle) (hnow : m.now = l.now)
    (hclosed : m.closed = l.closed) : Wanes l m := by
  constructor
  · rw [hidle]
  · rw [hnow]
  · rw [hclosed]

theorem Wanes.refl (l : Ledger) : Wanes l l := .of_eq rfl rfl rfl

theorem Wanes.trans (hlm : Wanes l m) (hmn : Wanes m n) : Wanes l n :=
  ⟨hmn.idle.trans hlm.idle, hlm.now.trans hmn.now, hlm.closed.trans hmn.closed⟩

/-- Operations on the pool take no time. -/
@[simp] theorem now_withPool (l : Ledger) (p : Pool) (dead : List Opened) :
    (l.withPool p dead).now = l.now := by
  simp only [withPool, report]
  split <;> rfl

theorem wanes_withPool {p : Pool} (h : p.idle.Sublist l.pool.idle) (dead : List Opened) :
    Wanes l (l.withPool p dead) := by
  refine ⟨h, (now_withPool l p dead).ge, ?_⟩
  simp only [withPool, report]
  split
  · exact List.prefix_append _ _
  · exact List.prefix_rfl

theorem wanes_dropLease (l : Ledger) (lease : Lease) : Wanes l (l.dropLease lease) := by
  rw [dropLease]
  split
  · exact wanes_withPool (p := l.pool.discard lease) (List.Sublist.refl _) _
  · exact .refl l

theorem wanes_dropCheckout (l : Ledger) (checkout : Checkout) :
    Wanes l (l.dropCheckout checkout) := by
  cases checkout with
  | idle lease => exact wanes_dropLease l lease
  | reserved r =>
    rw [dropCheckout, dropSlot]
    split
    · exact .of_eq rfl rfl rfl
    · exact .refl l

theorem wanes_dropHolding (l : Ledger) (holding : Holding) : Wanes l (l.dropHolding holding) := by
  cases holding with
  | lease lease => exact wanes_dropLease l lease
  | slot r => exact wanes_dropCheckout l (.reserved r)
  | waiter ticket =>
    rw [dropHolding]
    split
    · exact wanes_dropCheckout l _
    · exact .of_eq rfl rfl rfl

/-- A name is taken away without touching the idle set. -/
theorem wanes_giveUp (l : Ledger) (name : String) (holding : Holding) :
    Wanes l ((l.clear name).dropHolding holding) :=
  Wanes.trans (m := l.clear name) (.of_eq rfl rfl rfl) (wanes_dropHolding _ _)

/-- A name is given without touching the idle set. -/
theorem wanes_fill (l : Ledger) (name : String) (holding : Holding) :
    Wanes l (l.fill name holding) := by
  have hnamed :
      Wanes l { l.clear name with holdings := (name, holding) :: (l.clear name).holdings } :=
    .of_eq rfl rfl rfl
  rw [fill]
  split
  · exact hnamed.trans (wanes_dropHolding _ _)
  · exact hnamed

theorem wanes_fillCheckout (l : Ledger) (name : String) (found : Option Checkout) :
    Wanes l (l.fillCheckout name found).2 := by
  rcases found with _ | (lease | r)
  · exact .refl l
  · exact wanes_fill l name _
  · exact wanes_fill l name _

theorem wanes_connect (l : Ledger) (name : String) (r : Reservation) :
    Wanes l (l.connect name r).2 := by
  refine .of_eq ?_ rfl rfl
  simp only [connect]
  split <;> rfl

theorem wanes_settle {p : Pool} (h : p.idle.Sublist l.pool.idle) (dead : List Opened)
    (ticket : Nat) (status : CheckoutStatus) :
    Wanes l ((l.withPool p dead).settle ticket status) := by
  refine (wanes_withPool h dead).trans ?_
  cases status <;> exact .of_eq rfl rfl rfl

theorem wanes_beginCheckout (l : Ledger) (target : Target) (wait : Option Nat) :
    Wanes l (l.beginCheckout target wait).2 :=
  wanes_settle (Pool.idle_checkout_sublist rfl) _ _ _

theorem wanes_serve (fuel : Nat) (l : Ledger) : Wanes l (l.serve fuel) := by
  induction fuel generalizing l with
  | zero => exact .refl l
  | succ fuel ih =>
    rw [serve]
    split
    · exact .refl l
    · exact (wanes_settle (Pool.idle_resume_sublist rfl) _ _ _).trans (ih _)

/-- Serving takes no time. -/
theorem now_serve (fuel : Nat) (l : Ledger) : (l.serve fuel).now = l.now := by
  induction fuel generalizing l with
  | zero => rfl
  | succ fuel ih =>
    rw [serve]
    split
    · rfl
    · rw [ih, now_settle_withPool]

theorem wanes_serveAll (l : Ledger) : Wanes l l.serveAll := wanes_serve _ l

/-- The clock is put forward and those who wait are served. -/
theorem wanes_serveAt {time : Nat} (h : l.now ≤ time) :
    Wanes l { l with now := time }.serveAll :=
  Wanes.trans (m := { l with now := time }) ⟨List.Sublist.refl _, h, List.prefix_rfl⟩
    (wanes_serveAll _)

theorem wanes_runTo (time fuel : Nat) (l : Ledger) (h : l.now ≤ time) :
    Wanes l (l.runTo time fuel) := by
  induction fuel generalizing l with
  | zero => exact wanes_serveAt h
  | succ fuel ih =>
    rw [runTo]
    split
    · rename_i deadline _
      split
      · rename_i hdeadline
        have hserved : Wanes l { l with now := max l.now deadline }.serveAll :=
          wanes_serveAt (Nat.le_max_left _ _)
        refine hserved.trans (ih _ ?_)
        rw [serveAll, now_serve]
        exact Nat.max_le.mpr ⟨h, hdeadline⟩
      · exact wanes_serveAt h
    · exact wanes_serveAt h

theorem wanes_waitFor (ticket fuel : Nat) (l : Ledger) : Wanes l (l.waitFor ticket fuel) := by
  induction fuel generalizing l with
  | zero => exact .refl l
  | succ fuel ih =>
    rw [waitFor]
    split
    · exact (wanes_serveAt (Nat.le_max_left _ _)).trans (ih _)
    · exact .refl l

/-- Only a release adds to the idle set. -/
theorem wanes_run (l : Ledger) {command : PoolCommand}
    (hrelease : ∀ name, command ≠ .release name) : Wanes l (l.run command).2 := by
  cases command with
  | acquire name target =>
    rcases hacquire : l.pool.acquire l.moment target with ⟨found, p, dead⟩
    have hacquired := wanes_withPool (Pool.idle_acquire_sublist hacquire) dead
    simp only [run, hacquire]
    split
    · exact .refl l
    · cases found with
      | none => exact hacquired
      | some lease => exact hacquired.trans (wanes_fill _ _ _)
  | reserve name target =>
    rcases hreserve : l.pool.reserve target with ⟨found, p, dead⟩
    have hreserved := wanes_withPool (Pool.idle_reserve_sublist hreserve) dead
    simp only [run, hreserve]
    split
    · exact .refl l
    · exact hreserved.trans (wanes_fillCheckout _ _ _)
  | connect name target =>
    rcases hreserve : l.pool.reserve target with ⟨found, p, dead⟩
    have hreserved := wanes_withPool (Pool.idle_reserve_sublist hreserve) dead
    simp only [run, hreserve]
    split
    · exact .refl l
    · cases found with
      | none => exact hreserved
      | some r => exact (hreserved.trans (wanes_connect _ _ _)).trans (wanes_fill _ _ _)
  | fulfill name closed =>
    simp only [run]
    split
    · rename_i r _
      have hopened (dead : List TransportId) :
          Wanes l { ((l.clear name).connect name r).2 with dead := dead } :=
        Wanes.trans (m := l.clear name) (.of_eq rfl rfl rfl)
          ((wanes_connect _ name r).trans (.of_eq rfl rfl rfl))
      cases closed with
      | true => exact (hopened _).trans (wanes_fill _ _ _)
      | false => exact (hopened _).trans (wanes_fill _ _ _)
    · exact wanes_giveUp l name _
    · exact .refl l
  | checkout name target wait =>
    simp only [run]
    split
    · exact .refl l
    · exact (((wanes_beginCheckout l target wait).trans (wanes_serveAll _)).trans
        (wanes_waitFor _ _ _)).trans (wanes_fillCheckout _ _ _)
  | wait name target wait =>
    simp only [run]
    split
    · exact .refl l
    · exact (wanes_beginCheckout l target wait).trans (wanes_fill _ _ _)
  | poll name =>
    simp only [run]
    split
    · exact .refl l
    · split
      · exact .refl l
      · exact Wanes.trans (m := l.clear name) (.of_eq rfl rfl rfl) (wanes_fillCheckout _ _ _)
    · exact .refl l
  | unpoolable name =>
    simp only [run]
    split
    · exact Wanes.trans (m := l.clear name) (.of_eq rfl rfl rfl) (wanes_fill _ _ _)
    · exact .refl l
  | release name => exact absurd rfl (hrelease name)
  | remove name =>
    simp only [run]
    split
    · exact wanes_giveUp l name (.lease _)
    · exact wanes_giveUp l name _
    · exact .refl l
  | drop name =>
    simp only [run]
    split
    · exact wanes_giveUp l name _
    · exact .refl l
  | close conn =>
    simp only [run]
    split
    · exact .of_eq rfl rfl rfl
    · exact .refl l
  | advance millis => exact wanes_runTo _ _ l (Nat.le_add_right _ _)
  | dropPool => exact .of_eq rfl rfl rfl
  | park name realm =>
    simp only [run]
    split
    · exact .of_eq rfl rfl rfl
    · exact .refl l
  | unpark name realm =>
    simp only [run]
    split
    · exact .of_eq rfl rfl rfl
    · exact .refl l

/-- The idle connections of a ledger stand in the order of their release. -/
def InOrder (l : Ledger) : Prop := l.pool.InOrder l.now

theorem Wanes.inOrder (h : Wanes l m) (hl : l.InOrder) : m.InOrder := hl.of_sublist h.idle h.now

/-- A connection that is released and kept goes to the end of the idle set. -/
theorem inOrder_release (h : l.InOrder) (name : String) : (l.run (.release name)).2.InOrder := by
  simp only [run]
  split
  · rename_i lease _
    split
    · rcases hrelease : (l.clear name).pool.release (l.clear name).moment lease with ⟨p, dead⟩
      unfold Pool.release at hrelease
      split at hrelease
      · simp only [Prod.mk.injEq] at hrelease
        obtain ⟨rfl, rfl⟩ := hrelease
        rw [withPool_nil]
        exact Pool.InOrder.concat h rfl rfl
      · simp only [Prod.mk.injEq] at hrelease
        obtain ⟨rfl, rfl⟩ := hrelease
        have hdiscarded : Wanes l ((l.clear name).withPool
            ((l.clear name).pool.discard lease) [lease.toOpened]) :=
          Wanes.trans (m := l.clear name) (.of_eq rfl rfl rfl)
            (wanes_withPool (p := (l.clear name).pool.discard lease) (List.Sublist.refl _) _)
        exact hdiscarded.inOrder h
    · exact (wanes_giveUp l name (.lease lease)).inOrder h
  · exact (wanes_giveUp l name _).inOrder h
  · exact h

/-- Every command keeps the order of release. -/
theorem InOrder.run (h : l.InOrder) (command : PoolCommand) : (l.run command).2.InOrder := by
  by_cases hrelease : ∃ name, command = .release name
  · obtain ⟨name, rfl⟩ := hrelease
    exact inOrder_release h name
  · rw [not_exists] at hrelease
    exact (wanes_run l hrelease).inOrder h

/-- Whatever callers do with a pool, its idle connections stay in the order of release. -/
theorem InOrder.play (commands : List PoolCommand) {l : Ledger} (h : l.InOrder) :
    (l.play commands).2.InOrder := by
  induction commands generalizing l with
  | nil => exact h
  | cons command commands ih =>
    have hrun : ({ l with closed := [] }.run command).2.InOrder :=
      InOrder.run (l := { l with closed := [] }) h command
    exact ih ((wanes_serveAll _).inOrder hrun)

/-- What holds of a pool as long as it is used: it has the settings that it began with, its books
are balanced, and its idle connections stand in the order of their release. -/
structure Standing (settings : PoolSettings) (reports : Bool) (l : Ledger) : Prop where
  isOpen : l.isOpen = true
  reports : l.reports = reports
  settings : l.pool.settings = settings
  balanced : ∃ leases reservations gone opened,
    Custody.Balanced ⟨l.pool, leases, reservations, gone, opened⟩
  inOrder : l.InOrder

/-- Whatever callers do with a pool, it stands. -/
theorem standing_play (settings : PoolSettings) (reports : Bool) {commands : List PoolCommand}
    (hpool : .dropPool ∉ commands) :
    Standing settings reports ((ofSettings settings reports).play commands).2 := by
  obtain ⟨reported, h, -⟩ := (accounted_ofSettings settings reports).play
    (Custody.balanced_fresh settings) (Custody.traced_fresh settings) commands hpool
  obtain ⟨gone, hmoves, hreports, -⟩ := h.moves
  have hfresh : (ofSettings settings reports).InOrder := ⟨List.Pairwise.nil, nofun⟩
  exact {
    isOpen := h.isOpen
    reports := hreports
    settings := Custody.Moves.settings hmoves
    balanced := ⟨_, _, _, _, (Custody.balanced_fresh settings).moves hmoves⟩
    inOrder := hfresh.play commands }

end Ledger

end HttpClient
