import HttpClient.Proofs.Pool.Holdings

/-!
# Callers and custody

Whatever callers do with what they hold keeps the accounts of a ledger: taking a turn in the queue,
getting something after waiting, giving it up, and giving names to it. What a command has in hand
at a point is among the holdings there.
-/

namespace HttpClient

namespace Ledger

open Custody

variable {start : Custody} {reports : Bool} {l : Ledger} {hs : Multiset Holding}
  {before : Multiset ConnId} {O : Multiset Opened} {p : Pool} {dead : List Opened}

/-- An outcome is noted for every caller who does not wait on. -/
theorem settle_of_ne_waiting {status : CheckoutStatus} (h : ∀ u, status ≠ .waiting u)
    (l : Ledger) (ticket : Nat) :
    l.settle ticket status =
      { l with outcomes := (ticket, status.checkout?) :: l.outcomes } := by
  cases status with
  | ready checkout => rfl
  | waiting u => exact absurd rfl (h u)
  | tooMany => rfl

/-- A caller in nobody's queue who has no outcome holds nothing. -/
private theorem custody_undecided {ticket : Nat} (hnone : l.outcomes.lookup ticket = none)
    (hs : Multiset Holding) (G O : Multiset Opened) :
    l.custody (.waiter ticket ::ₘ hs) G O = l.custody hs G O := by
  rw [custody_cons, held?, hnone]
  rfl

/-- A turn of a caller who waits is accounted for, whether the caller gets something, learns that
there is nothing or waits on. -/
theorem Accounted.settle (hstart : start.Balanced) {ticket : Nat} {status : CheckoutStatus}
    {others : Multiset Nat} (h : Accounted start reports l (.waiter ticket ::ₘ hs) before O)
    (hnone : l.outcomes.lookup ticket = none)
    (hop : ∀ {L R G}, Balanced ⟨l.pool, L, R, G, O⟩ →
      Moves ⟨l.pool, L, R, G, O⟩ (grant ⟨p, L, R, dead + G, O⟩ status.checkout?))
    (hnext : p.nextTicket = l.pool.nextTicket) (hle : others ≤ l.pool.queue.map Prod.fst)
    (hothers : ticket ∉ others)
    (hend : (∃ u, status = .waiting u) ∧ p.queue.map Prod.fst ≤ ticket ::ₘ others ∨
      (∀ u, status ≠ .waiting u) ∧ p.queue.map Prod.fst = others) :
    Accounted start reports ((l.withPool p dead).settle ticket status) (.waiter ticket ::ₘ hs)
      before O := by
  have hnodup := h.nodup
  have hqueue := h.queue
  rw [tickets_waiter] at hnodup hqueue
  have hless : others ≤ tickets hs :=
    (Multiset.le_cons_of_notMem hothers).mp (hle.trans hqueue)
  rcases hend with ⟨⟨u, rfl⟩, hwaits⟩ | ⟨hdone, hwaits⟩
  · refine ⟨?_, ?_, h.nodup, ?_, ?_, ?_, ?_, ?_⟩
    · exact (isOpen_withPool l p dead).trans h.isOpen
    · refine h.extend hstart dead (fun G hG => ?_) (reports_withPool ..)
        fun hr => closed_withPool h.isOpen hr p dead
      rw [custody_undecided hnone] at hG ⊢
      rw [Ledger.settle, custody_withPool]
      exact custody_undecided (l := { l with pool := p }) hnone hs _ O ▸ hop hG
    · rw [tickets_waiter]
      exact hwaits.trans (Multiset.cons_le_cons ticket hless)
    · intro t ht
      rw [Ledger.settle, outcomes_withPool]
      rcases Multiset.mem_cons.mp (Multiset.mem_of_le hwaits ht) with rfl | ht
      · exact hnone
      · exact h.undecided t (Multiset.mem_of_le hle ht)
    · exact fun t ht => (h.tickets_lt t ht).trans_eq hnext.symm
    · intro o ho
      rw [Ledger.settle, outcomes_withPool] at ho
      exact (h.outcomes_lt o ho).trans_eq hnext.symm
    · exact (holdings_withPool l p dead).symm ▸ h.names
  · rw [settle_of_ne_waiting hdone]
    refine ⟨?_, ?_, h.nodup, ?_, ?_, ?_, ?_, ?_⟩
    · exact (isOpen_withPool l p dead).trans h.isOpen
    · refine h.extend hstart dead (fun G hG => ?_)
        (reports_withPool l p dead)
        fun hr => closed_withPool h.isOpen hr p dead
      rw [custody_undecided hnone] at hG ⊢
      rw [custody_cons, custody_outcome _ (Multiset.nodup_cons.mp hnodup).1, custody_withPool,
        held?, List.lookup_cons_self]
      exact hop hG
    · rw [tickets_waiter]
      exact (hwaits.le.trans hless).trans (Multiset.le_cons_self _ ticket)
    · intro t ht
      have hmem : t ∈ others := hwaits ▸ ht
      have hne : t ≠ ticket := fun heq => hothers (heq ▸ hmem)
      simp only [List.lookup_cons, beq_false_of_ne hne, outcomes_withPool]
      exact h.undecided t (Multiset.mem_of_le hle hmem)
    · exact fun t ht => (h.tickets_lt t ht).trans_eq hnext.symm
    · intro o ho
      rw [outcomes_withPool] at ho
      rcases List.mem_cons.mp ho with rfl | ho
      · exact (h.tickets_lt ticket (by simp)).trans_eq hnext.symm
      · exact (h.outcomes_lt o ho).trans_eq hnext.symm
    · exact (holdings_withPool l p dead).symm ▸ h.names

/-- Which tickets were given does not matter to what is reported. -/
private theorem withPool_nextTicket (l : Ledger) (nextTicket : Nat) (p : Pool)
    (dead : List Opened) :
    { l with pool := { l.pool with nextTicket := nextTicket } }.withPool p dead =
      l.withPool p dead := by
  cases hreported : l.reports && (l.isOpen || !l.pool.waiting.isEmpty) with
  | false => simp only [withPool, report, hasPool, hreported, Bool.false_eq_true, if_false]
  | true => simp only [withPool, report, hasPool, hreported, if_true]

/-- A caller takes the next ticket, and is not in the queue yet. -/
private theorem Accounted.enlist (h : Accounted start reports l hs before O) :
    Accounted start reports { l with pool := { l.pool with nextTicket := l.pool.nextTicket + 1 } }
      (.waiter l.pool.nextTicket ::ₘ hs) before O ∧
      l.outcomes.lookup l.pool.nextTicket = none ∧
      l.pool.nextTicket ∉ l.pool.queue.map Prod.fst := by
  have hfresh : l.pool.nextTicket ∉ tickets hs := fun hmem =>
    absurd (h.tickets_lt _ hmem) (Nat.lt_irrefl _)
  have hnone : l.outcomes.lookup l.pool.nextTicket = none := by
    rw [List.lookup_eq_none_iff]
    intro o ho
    exact bne_iff_ne.mpr (Nat.ne_of_gt (h.outcomes_lt o ho))
  refine ⟨⟨h.isOpen, ?_, ?_, ?_, h.undecided, ?_, ?_, h.names⟩, hnone,
    fun hmem => hfresh (Multiset.mem_of_le h.queue hmem)⟩
  · obtain ⟨gone, hmoves, hgone⟩ := h.moves
    refine ⟨gone, hmoves.tail ?_, hgone⟩
    rw [custody_cons]
    simp only [held?, hnone, Option.join_none]
    exact .note l.pool.lastSweep l.pool.waiting (l.pool.nextTicket + 1)
  · rw [tickets_waiter, Multiset.nodup_cons]
    exact ⟨hfresh, h.nodup⟩
  · rw [tickets_waiter]
    exact h.queue.trans (Multiset.le_cons_self _ _)
  · intro t ht
    rw [tickets_waiter, Multiset.mem_cons] at ht
    rcases ht with rfl | ht
    · exact Nat.lt_succ_self _
    · exact Nat.lt_succ_of_lt (h.tickets_lt t ht)
  · exact fun o ho => Nat.lt_succ_of_lt (h.outcomes_lt o ho)

/-- A checkout begins with a ticket in hand. -/
theorem Accounted.beginCheckout (hstart : start.Balanced)
    (h : Accounted start reports l hs before O) (target : Target) (wait : Option Nat) :
    Accounted start reports (l.beginCheckout target wait).2
      (.waiter (l.beginCheckout target wait).1 ::ₘ hs) before O := by
  obtain ⟨henlisted, hnone, hqueue⟩ := h.enlist
  rcases hcheckout : l.pool.checkout l.moment target wait with ⟨status, p, dead⟩
  obtain ⟨hnext, hend⟩ := Pool.queue_attemptUntil hcheckout
  have hsettled := henlisted.settle hstart (p := p) hnone
    (fun hG => attemptUntil_moves hG hcheckout) hnext le_rfl hqueue ?_
  · rw [withPool_nextTicket] at hsettled
    simpa only [Ledger.beginCheckout, hcheckout] using hsettled
  · rcases hend with ⟨rfl, hjoined⟩ | ⟨hdone, hsame⟩
    · exact Or.inl ⟨⟨_, rfl⟩, by rw [hjoined, Multiset.map_cons]⟩
    · exact Or.inr ⟨hdone, by rw [hsame]⟩

/-- A queue of callers who hold different tickets has nobody twice. -/
theorem Accounted.ids_nodup (h : Accounted start reports l hs before O) :
    (l.pool.waiting.map Ticket.id).Nodup := by
  have hcallers := Multiset.nodup_of_le h.queue h.nodup
  simp only [Pool.queue, Multiset.map_coe, List.map_map, Multiset.coe_nodup] at hcallers
  exact hcallers

/-- A caller who holds a ticket is one of those who wait. -/
private theorem exists_cons_of_mem_tickets {ticket : Nat} (h : ticket ∈ tickets hs) :
    ∃ others, hs = .waiter ticket ::ₘ others := by
  obtain ⟨holding, hmem, hticket⟩ := (Multiset.mem_filterMap _ _).mp h
  cases holding with
  | lease lease => cases hticket
  | slot r => cases hticket
  | waiter t =>
    obtain rfl : t = ticket := Option.some.inj hticket
    exact Multiset.exists_cons_of_mem hmem

/-- Serving waiting callers is accounted for. -/
theorem Accounted.serve (hstart : start.Balanced) (fuel : Nat) {l : Ledger}
    (h : Accounted start reports l hs before O) :
    Accounted start reports (l.serve fuel) hs before O := by
  induction fuel generalizing l with
  | zero => exact h
  | succ fuel ih =>
    rw [Ledger.serve]
    split
    · exact h
    · rename_i ticket hdue
      rcases hresume : l.pool.resume l.moment ticket with ⟨status, p, dead⟩
      have hids := h.ids_nodup
      obtain ⟨deadline, hqueue, hnext, -, hend⟩ :=
        Pool.resume_of_nextDue? (m := l.moment) hids hdue hresume
      have hcallers := congrArg (Multiset.map Prod.fst) hqueue
      rw [Multiset.map_cons] at hcallers
      have hmem : ticket ∈ l.pool.queue.map Prod.fst := by
        rw [hcallers]
        exact Multiset.mem_cons_self _ _
      have hleft : ticket ∉ (l.pool.dequeue ticket).queue.map Prod.fst := by
        have hnodup := Multiset.nodup_of_le h.queue h.nodup
        rw [hcallers] at hnodup
        exact (Multiset.nodup_cons.mp hnodup).1
      obtain ⟨others, rfl⟩ := exists_cons_of_mem_tickets (Multiset.mem_of_le h.queue hmem)
      refine ih (h.settle hstart (h.undecided ticket hmem) (fun hG => resume_moves hG hresume)
        hnext (hcallers ▸ Multiset.le_cons_self _ _) hleft ?_)
      rcases hend with ⟨rfl, hsame⟩ | ⟨hdone, hless⟩
      · exact Or.inl ⟨⟨_, rfl⟩, by rw [hsame, hcallers]⟩
      · exact Or.inr ⟨hdone, by rw [hless]⟩

/-- Serving all waiting callers is accounted for. -/
theorem Accounted.serveAll (hstart : start.Balanced) (h : Accounted start reports l hs before O) :
    Accounted start reports l.serveAll hs before O :=
  h.serve hstart _

/-- Serving the waiting callers at another time is accounted for. -/
theorem Accounted.serveAt (hstart : start.Balanced) (h : Accounted start reports l hs before O)
    (now : Nat) : Accounted start reports { l with now := now }.serveAll hs before O :=
  (h.elsewhere now l.dead l.connections l.arena).serveAll hstart

/-- Letting time pass is accounted for. -/
theorem Accounted.runTo (hstart : start.Balanced) (time fuel : Nat) {l : Ledger}
    (h : Accounted start reports l hs before O) :
    Accounted start reports (l.runTo time fuel) hs before O := by
  induction fuel generalizing l with
  | zero => exact h.serveAt hstart time
  | succ fuel ih =>
    rw [Ledger.runTo]
    split
    · split
      · exact ih (h.serveAt hstart _)
      · exact h.serveAt hstart time
    · exact h.serveAt hstart time

/-- Waiting for an outcome is accounted for. -/
theorem Accounted.waitFor (hstart : start.Balanced) (ticket fuel : Nat) {l : Ledger}
    (h : Accounted start reports l hs before O) :
    Accounted start reports (l.waitFor ticket fuel) hs before O := by
  induction fuel generalizing l with
  | zero => exact h
  | succ fuel ih =>
    rw [Ledger.waitFor]
    split
    · exact ih (h.serveAt hstart _)
    · exact h

/-- A caller who is not in the queue any more has what it got. -/
theorem Accounted.collect {ticket : Nat}
    (h : Accounted start reports l (.waiter ticket ::ₘ hs) before O)
    (hleft : ticket ∉ l.pool.queue.map Prod.fst) :
    Accounted start reports l (received hs (l.outcomes.lookup ticket).join) before O := by
  obtain ⟨gone, hmoves, hgone⟩ := h.moves
  have hnodup := h.nodup
  have hqueue := h.queue
  have hbelow := h.tickets_lt
  rw [tickets_waiter] at hnodup hqueue hbelow
  refine ⟨h.isOpen, ⟨gone, ?_, hgone⟩, ?_, ?_, h.undecided, ?_, h.outcomes_lt, h.names⟩
  · rw [custody_received]
    rwa [custody_cons] at hmoves
  · rw [tickets_received]
    exact (Multiset.nodup_cons.mp hnodup).2
  · rw [tickets_received]
    exact (Multiset.le_cons_of_notMem hleft).mp hqueue
  · intro t ht
    rw [tickets_received] at ht
    exact hbelow t (Multiset.mem_cons_of_mem ht)

/-- Without closed connections nothing is reported. -/
theorem withPool_nil (l : Ledger) (p : Pool) : l.withPool p [] = { l with pool := p } := by
  simp only [withPool, report, List.map_nil, List.append_nil, Arena.removeAll, List.foldl_nil,
    ite_self]

/-- Giving up a lease is accounted for. -/
theorem Accounted.dropLease (hstart : start.Balanced) {lease : Lease}
    (h : Accounted start reports l (.lease lease ::ₘ hs) before O) :
    Accounted start reports (l.dropLease lease) hs before O := by
  have hpool : l.hasPool = true := by simp only [hasPool, h.isOpen, Bool.true_or]
  rw [Ledger.dropLease, if_pos hpool]
  refine h.operate hstart (fun G hG => ?_) (Pool.queue_notify _).le rfl (tickets_lease ..).symm
  rw [custody_cons] at hG ⊢
  exact discard_moves hG

/-- Giving up a slot is accounted for. -/
theorem Accounted.dropSlot (hstart : start.Balanced) {r : Reservation}
    (h : Accounted start reports l (.slot r ::ₘ hs) before O) :
    Accounted start reports (l.dropSlot r) hs before O := by
  have hpool : l.hasPool = true := by simp only [hasPool, h.isOpen, Bool.true_or]
  rw [Ledger.dropSlot, if_pos hpool, ← withPool_nil]
  refine h.operate hstart (fun G hG => ?_) (Pool.queue_notify _).le rfl (tickets_slot ..).symm
  rw [custody_cons] at hG ⊢
  rw [Multiset.coe_nil, Multiset.zero_add]
  exact abandon_moves hG

/-- Giving up what was checked out is accounted for. -/
theorem Accounted.dropCheckout (hstart : start.Balanced) {checkout : Checkout}
    (h : Accounted start reports l (checkout.holding ::ₘ hs) before O) :
    Accounted start reports (l.dropCheckout checkout) hs before O := by
  cases checkout with
  | idle lease => exact h.dropLease hstart
  | reserved r => exact h.dropSlot hstart

/-- A caller who stops waiting leaves the queue. -/
theorem queue_dequeue (p : Pool) (ticket : Nat) :
    (p.dequeue ticket).queue ≤ p.queue ∧
      ticket ∉ (p.dequeue ticket).queue.map Prod.fst := by
  constructor
  · exact Multiset.coe_le.mpr (List.Sublist.subperm (List.filter_sublist.map _))
  · simp [Pool.queue, Pool.dequeue]

/-- Giving up whatever is held is accounted for. -/
theorem Accounted.dropHolding (hstart : start.Balanced) {holding : Holding}
    (h : Accounted start reports l (holding ::ₘ hs) before O) :
    Accounted start reports (l.dropHolding holding) hs before O := by
  cases holding with
  | lease lease => exact h.dropLease hstart
  | slot r => exact h.dropSlot hstart
  | waiter ticket =>
    have hleave : Accounted start reports (l.withPool (l.pool.dequeue ticket) [])
        (.waiter ticket ::ₘ hs) before O := by
      refine h.operate hstart (fun G hG => ?_) (queue_dequeue ..).1 rfl rfl
      rw [Multiset.coe_nil, Multiset.zero_add]
      exact dequeue_moves ticket
    have hgot := hleave.collect (queue_dequeue ..).2
    rw [outcomes_withPool, withPool_nil] at hgot
    rw [Ledger.dropHolding]
    split
    · rename_i checkout houtcome
      have hleft : ticket ∉ l.pool.queue.map Prod.fst := fun hmem =>
        absurd (h.undecided ticket hmem) (by simp [houtcome])
      have hkept := h.collect hleft
      rw [houtcome] at hkept
      exact hkept.dropCheckout hstart
    · rename_i hnothing
      have hnone : (l.outcomes.lookup ticket).join = none := by
        rcases houtcome : l.outcomes.lookup ticket with _ | (_ | checkout)
        · rfl
        · rfl
        · exact absurd houtcome (hnothing checkout)
      rwa [hnone] at hgot

/-- Giving up a holding takes no name away. -/
theorem holdings_dropHolding (l : Ledger) (holding : Holding) :
    (l.dropHolding holding).holdings = l.holdings := by
  have hlease : ∀ lease, (l.dropLease lease).holdings = l.holdings := by
    intro lease
    rw [dropLease]
    split
    · exact holdings_withPool ..
    · rfl
  have hslot : ∀ r, (l.dropSlot r).holdings = l.holdings := by
    intro r
    rw [dropSlot]
    split <;> rfl
  cases holding with
  | lease lease => exact hlease lease
  | slot r => exact hslot r
  | waiter ticket =>
    rw [dropHolding]
    split
    · rename_i checkout _
      cases checkout with
      | idle lease => exact hlease lease
      | reserved r => exact hslot r
    · rfl

/-- The names that are left when one stands for nothing. -/
private theorem names_clear {holdings : List (String × Holding)} (name : String)
    (h : (holdings.map Prod.fst).Nodup) :
    ((holdings.filter (·.1 ≠ name)).map Prod.fst).Nodup ∧
      name ∉ (holdings.filter (·.1 ≠ name)).map Prod.fst := by
  constructor
  · exact h.sublist (List.filter_sublist.map _)
  · simp

/-- What a name stands for is one of the things that names stand for. -/
private theorem carried_filter {holdings : List (String × Holding)} (name : String)
    (h : (holdings.map Prod.fst).Nodup) :
    ((holdings.map Prod.snd : List Holding) : Multiset Holding) =
      match holdings.lookup name with
      | some holding =>
        holding ::ₘ ((holdings.filter (·.1 ≠ name)).map Prod.snd : List Holding)
      | none => ((holdings.filter (·.1 ≠ name)).map Prod.snd : List Holding) := by
  induction holdings with
  | nil => rfl
  | cons entry holdings ih =>
    obtain ⟨key, value⟩ := entry
    rw [List.map_cons, List.nodup_cons] at h
    by_cases hkey : key = name
    · subst hkey
      have hothers : holdings.filter (·.1 ≠ key) = holdings := by
        refine List.filter_eq_self.mpr fun other hmem => ?_
        exact decide_eq_true fun heq => h.1 (List.mem_map.mpr ⟨other, hmem, heq⟩)
      rw [List.lookup_cons_self, List.filter_cons_of_neg (by simp), hothers]
      rfl
    · rw [List.lookup_cons, beq_false_of_ne (Ne.symm hkey),
        List.filter_cons_of_pos (by simpa using hkey), List.map_cons, ← Multiset.cons_coe,
        ih h.2]
      cases holdings.lookup name with
      | none => rfl
      | some holding => exact Multiset.cons_swap ..

/-- A command takes in hand what a name stands for. -/
theorem Accounted.take {name : String} {holding : Holding}
    (h : Accounted start reports l l.carried before O) (hname : l.holding? name = some holding) :
    Accounted start reports (l.clear name) (holding ::ₘ (l.clear name).carried) before O := by
  have hcarried := carried_filter name h.names
  rw [show l.holdings.lookup name = some holding from hname] at hcarried
  have hall := h.rename (names_clear name h.names).1
  rw [carried, hcarried] at hall
  exact hall

/-- Giving a name to something is accounted for, and so is what the name stood for. -/
theorem Accounted.fill (hstart : start.Balanced) {holding : Holding}
    (h : Accounted start reports l (holding ::ₘ l.carried) before O) (name : String) :
    Accounted start reports (l.fill name holding) (l.fill name holding).carried before O := by
  have hcarried := carried_filter name h.names
  obtain ⟨hnodup, hfresh⟩ := names_clear name h.names
  have hnamed : Accounted start reports
      { l with holdings := (name, holding) :: l.holdings.filter (·.1 ≠ name) }
      (holding ::ₘ l.carried) before O :=
    h.rename (List.nodup_cons.mpr ⟨hfresh, hnodup⟩)
  rw [carried, hcarried] at hnamed
  unfold Ledger.fill
  cases hbefore : l.holding? name with
  | none =>
    rw [show l.holdings.lookup name = none from hbefore] at hnamed
    exact hnamed
  | some old =>
    rw [show l.holdings.lookup name = some old from hbefore] at hnamed
    dsimp only at hnamed ⊢
    rw [Multiset.cons_swap] at hnamed
    have hdropped := hnamed.dropHolding hstart
    simp only [carried, holdings_dropHolding]
    exact hdropped

end Ledger

end HttpClient
