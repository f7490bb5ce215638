import HttpClient.Proofs.Pool.Waiting

/-!
# What the callers of a pool hold

Between commands, and while a command runs, the pool of a ledger and all that its callers hold
make up a custody. Every operation of the ledger is a chain of moves of that custody, and what was
reported closed is what is gone. A caller who waits holds what it got, also before it is asked.
-/

namespace HttpClient

/-- The lease that was checked out. -/
def Checkout.lease? : Checkout → Option Lease
  | .idle lease => some lease
  | .reserved _ => none

/-- The slot that was checked out. -/
def Checkout.reservation? : Checkout → Option Reservation
  | .idle _ => none
  | .reserved r => some r

/-- What a name stands for once it has what was checked out. -/
def Checkout.holding : Checkout → Holding
  | .idle lease => .lease lease
  | .reserved r => .slot r

/-- The ticket of a caller who waits. -/
def Holding.ticket? : Holding → Option Nat
  | .waiter ticket => some ticket
  | _ => none

/-- The tickets among what is held. -/
def tickets (hs : Multiset Holding) : Multiset Nat := hs.filterMap Holding.ticket?

/-- What is held after something was checked out. -/
def received (hs : Multiset Holding) : Option Checkout → Multiset Holding
  | none => hs
  | some checkout => checkout.holding ::ₘ hs

@[simp] theorem tickets_lease (lease : Lease) (hs : Multiset Holding) :
    tickets (.lease lease ::ₘ hs) = tickets hs := Multiset.filterMap_cons_none _ _ rfl

@[simp] theorem tickets_slot (r : Reservation) (hs : Multiset Holding) :
    tickets (.slot r ::ₘ hs) = tickets hs := Multiset.filterMap_cons_none _ _ rfl

@[simp] theorem tickets_waiter (ticket : Nat) (hs : Multiset Holding) :
    tickets (.waiter ticket ::ₘ hs) = ticket ::ₘ tickets hs :=
  Multiset.filterMap_cons_some _ _ _ rfl

@[simp] theorem tickets_received (hs : Multiset Holding) (found : Option Checkout) :
    tickets (received hs found) = tickets hs := by
  rcases found with _ | (lease | r)
  · rfl
  · exact tickets_lease lease hs
  · exact tickets_slot r hs

namespace Ledger

open Custody

/-- What a holding amounts to. -/
def held? (l : Ledger) : Holding → Option Checkout
  | .lease lease => some (.idle lease)
  | .slot r => some (.reserved r)
  | .waiter ticket => (l.outcomes.lookup ticket).join

/-- The pool and what is held, together with what is gone and what was ever opened. -/
def custody (l : Ledger) (hs : Multiset Holding) (gone opened : Multiset Opened) : Custody :=
  ⟨l.pool, hs.filterMap fun h => (l.held? h).bind Checkout.lease?,
    hs.filterMap fun h => (l.held? h).bind Checkout.reservation?, gone, opened⟩

/-- All that names stand for. -/
def carried (l : Ledger) : Multiset Holding := (l.holdings.map Prod.snd : List Holding)

variable {l : Ledger} {hs : Multiset Holding} {G O : Multiset Opened}

/-- A holding adds to custody what it amounts to. -/
theorem custody_cons (l : Ledger) (h : Holding) (hs : Multiset Holding)
    (G O : Multiset Opened) : l.custody (h ::ₘ hs) G O = grant (l.custody hs G O) (l.held? h) := by
  cases hheld : l.held? h with
  | none =>
    simp only [custody, grant]
    rw [Multiset.filterMap_cons_none _ _ (by simp [hheld]),
      Multiset.filterMap_cons_none _ _ (by simp [hheld])]
  | some checkout =>
    cases checkout with
    | idle lease =>
      simp only [custody, grant]
      rw [Multiset.filterMap_cons_some _ _ _ (b := lease) (by simp [hheld, Checkout.lease?]),
        Multiset.filterMap_cons_none _ _ (by simp [hheld, Checkout.reservation?])]
    | reserved r =>
      simp only [custody, grant]
      rw [Multiset.filterMap_cons_none _ _ (by simp [hheld, Checkout.lease?]),
        Multiset.filterMap_cons_some _ _ _ (b := r) (by simp [hheld, Checkout.reservation?])]

/-- What was checked out is in the custody of the caller. -/
theorem custody_received (l : Ledger) (hs : Multiset Holding) (found : Option Checkout)
    (G O : Multiset Opened) :
    l.custody (received hs found) G O = grant (l.custody hs G O) found := by
  rcases found with _ | (lease | r)
  · rfl
  · exact custody_cons l (.lease lease) hs G O
  · exact custody_cons l (.slot r) hs G O

/-- An outcome for one caller changes nothing that others hold. -/
theorem custody_outcome {ticket : Nat} (outcome : Option Checkout) (h : ticket ∉ tickets hs) :
    { l with outcomes := (ticket, outcome) :: l.outcomes }.custody hs G O = l.custody hs G O := by
  induction hs using Multiset.induction with
  | empty => rfl
  | cons x hs ih =>
    rw [custody_cons, custody_cons]
    cases x with
    | lease lease => rw [ih (by simpa using h), held?, held?]
    | slot r => rw [ih (by simpa using h), held?, held?]
    | waiter t =>
      rw [tickets_waiter, Multiset.mem_cons, not_or] at h
      rw [ih h.2, held?, held?, List.lookup_cons, beq_false_of_ne (Ne.symm h.1)]

@[simp] theorem outcomes_withPool (l : Ledger) (p : Pool) (dead : List Opened) :
    (l.withPool p dead).outcomes = l.outcomes := by
  simp only [withPool, report]; split <;> rfl

@[simp] theorem holdings_withPool (l : Ledger) (p : Pool) (dead : List Opened) :
    (l.withPool p dead).holdings = l.holdings := by
  simp only [withPool, report]; split <;> rfl

@[simp] theorem isOpen_withPool (l : Ledger) (p : Pool) (dead : List Opened) :
    (l.withPool p dead).isOpen = l.isOpen := by
  simp only [withPool, report]; split <;> rfl

@[simp] theorem reports_withPool (l : Ledger) (p : Pool) (dead : List Opened) :
    (l.withPool p dead).reports = l.reports := by
  simp only [withPool, report]; split <;> rfl

/-- While the pool exists what is closed is reported. -/
theorem closed_withPool (hopen : l.isOpen = true) (hreports : l.reports = true) (p : Pool)
    (dead : List Opened) : (l.withPool p dead).closed = l.closed ++ dead.map Opened.id := by
  simp only [withPool, report, hasPool, hopen, hreports, Bool.true_or, Bool.and_self, if_true]

/-- The custody after an operation on the pool. -/
theorem custody_withPool (l : Ledger) (p : Pool) (dead : List Opened) (hs : Multiset Holding)
    (G O : Multiset Opened) :
    (l.withPool p dead).custody hs G O = { l with pool := p }.custody hs G O := by
  simp only [withPool, report]; split <;> rfl

/-- The pool of a ledger and what is held follow by moves on a custody from which the ledger is
looked at; the connections that are gone are those reported before and since, and the callers who
wait are among those who hold something. -/
structure Accounted (start : Custody) (reports : Bool) (l : Ledger) (hs : Multiset Holding)
    (before : Multiset ConnId) (opened : Multiset Opened) : Prop where
  isOpen : l.isOpen = true
  /-- All changes were moves, and all that is gone was reported if anything is. -/
  moves : ∃ gone, Moves start (l.custody hs gone opened) ∧ l.reports = reports ∧
    (reports = true → gone.map Opened.id = before + l.closed)
  /-- Nobody waits twice. -/
  nodup : (tickets hs).Nodup
  queue : l.pool.queue.map Prod.fst ≤ tickets hs
  /-- Who is in the queue has no outcome. -/
  undecided : ∀ t ∈ l.pool.queue.map Prod.fst, l.outcomes.lookup t = none
  tickets_lt : ∀ t ∈ tickets hs, t < l.pool.nextTicket
  outcomes_lt : ∀ o ∈ l.outcomes, o.1 < l.pool.nextTicket
  /-- A name stands for one thing. -/
  names : (l.holdings.map Prod.fst).Nodup

variable {start : Custody} {reports : Bool} {before : Multiset ConnId} {p : Pool}
  {dead : List Opened}

/-- Time, streams, the names of connections and parked states are not accounted for. -/
theorem Accounted.elsewhere (h : Accounted start reports l hs before O) (now : Nat)
    (dead : List TransportId) (connections : List (String × ConnId)) (arena : Arena) :
    Accounted start reports
      { l with now := now, dead := dead, connections := connections, arena := arena }
      hs before O :=
  ⟨h.isOpen, h.moves, h.nodup, h.queue, h.undecided, h.tickets_lt, h.outcomes_lt, h.names⟩

/-- Names may be given anew. -/
theorem Accounted.rename (h : Accounted start reports l hs before O)
    {holdings : List (String × Holding)} (hnames : (holdings.map Prod.fst).Nodup) :
    Accounted start reports { l with holdings := holdings } hs before O :=
  ⟨h.isOpen, h.moves, h.nodup, h.queue, h.undecided, h.tickets_lt, h.outcomes_lt, hnames⟩

/-- Once reports are read they count as reported before. -/
theorem Accounted.read (h : Accounted start reports l hs before O) :
    Accounted start reports { l with closed := [] } hs (before + l.closed) O := by
  obtain ⟨gone, hmoves, hsame, hgone⟩ := h.moves
  refine ⟨h.isOpen, ⟨gone, hmoves, hsame, fun hreports => ?_⟩, h.nodup, h.queue, h.undecided,
    h.tickets_lt, h.outcomes_lt, h.names⟩
  rw [hgone hreports, Multiset.coe_nil, Multiset.add_zero]

/-- The moves of an operation are added to those before, and what it closed to what is gone. -/
theorem Accounted.extend (hstart : start.Balanced) (h : Accounted start reports l hs before O)
    (dead : List Opened) {m : Ledger} {hs' : Multiset Holding} {O' : Multiset Opened}
    (hop : ∀ G, (l.custody hs G O).Balanced →
      Moves (l.custody hs G O) (m.custody hs' (dead + G) O'))
    (hreports : m.reports = l.reports)
    (hclosed : l.reports = true → m.closed = l.closed ++ dead.map Opened.id) :
    ∃ gone, Moves start (m.custody hs' gone O') ∧ m.reports = reports ∧
      (reports = true → gone.map Opened.id = before + m.closed) := by
  obtain ⟨gone, hmoves, hsame, hgone⟩ := h.moves
  refine ⟨dead + gone, hmoves.trans (hop gone (hstart.moves hmoves)), hreports.trans hsame,
    fun hr => ?_⟩
  rw [Multiset.map_add, hgone hr, hclosed (hsame.trans hr), Multiset.map_coe,
    Multiset.add_comm (_ : Multiset ConnId) (before + _), Multiset.add_assoc, Multiset.coe_add]

/-- An operation on the pool that answers what it closed is accounted for. -/
theorem Accounted.operate (hstart : start.Balanced) (h : Accounted start reports l hs before O)
    {hs' : Multiset Holding}
    (hop : ∀ G, (l.custody hs G O).Balanced →
      Moves (l.custody hs G O) ({ l with pool := p }.custody hs' (dead + G) O))
    (hqueue : p.queue ≤ l.pool.queue) (hnext : p.nextTicket = l.pool.nextTicket)
    (htickets : tickets hs' = tickets hs) :
    Accounted start reports (l.withPool p dead) hs' before O := by
  have hcallers : p.queue.map Prod.fst ≤ l.pool.queue.map Prod.fst := Multiset.map_le_map hqueue
  refine ⟨?_, ?_, ?_, ?_, ?_, ?_, ?_, ?_⟩
  · rw [isOpen_withPool, h.isOpen]
  · refine h.extend hstart dead (fun G hG => ?_) (reports_withPool ..)
      fun hr => closed_withPool h.isOpen hr p dead
    rw [custody_withPool]
    exact hop G hG
  · rw [htickets]
    exact h.nodup
  · rw [htickets]
    exact hcallers.trans h.queue
  · intro t ht
    rw [outcomes_withPool]
    exact h.undecided t (Multiset.mem_of_le hcallers ht)
  · intro t ht
    rw [htickets] at ht
    exact (h.tickets_lt t ht).trans_eq hnext.symm
  · intro o ho
    rw [outcomes_withPool] at ho
    exact (h.outcomes_lt o ho).trans_eq hnext.symm
  · rw [holdings_withPool]
    exact h.names

end Ledger

end HttpClient
