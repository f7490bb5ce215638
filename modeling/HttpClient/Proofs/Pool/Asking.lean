import HttpClient.Proofs.Pool.Waiting

/-!
# What callers ask for

A caller that waits is remembered with the target that it asked for, and what it gets in the end
leads there.
-/

namespace HttpClient

/-- Where what was checked out leads. -/
def Checkout.target : Checkout → Target
  | .idle lease => lease.target
  | .reserved r => r.target

namespace Pool

variable {p q : Pool}

/-- Who waits, and what for. -/
def callers (p : Pool) : List (Nat × Target) := p.waiting.map fun t => (t.id, t.target)

/-- The second pool remembers no caller that the first did not know, unless its ticket is new. -/
structure Recalls (p q : Pool) : Prop where
  nextTicket : p.nextTicket ≤ q.nextTicket
  callers : ∀ c ∈ q.callers, c ∈ p.callers ∨ p.nextTicket ≤ c.1 ∧ c.1 < q.nextTicket

/-- The numbers of tickets were given before. -/
def IsNumbered (p : Pool) : Prop := ∀ c ∈ p.callers, c.1 < p.nextTicket

theorem Recalls.of_subset (hnext : q.nextTicket = p.nextTicket) (h : q.callers ⊆ p.callers) :
    Recalls p q :=
  ⟨hnext.ge, fun _ hc => Or.inl (h hc)⟩

theorem Recalls.of_eq (hnext : q.nextTicket = p.nextTicket) (h : q.callers = p.callers) :
    Recalls p q :=
  .of_subset hnext fun _ hc => h ▸ hc

theorem Recalls.refl (p : Pool) : Recalls p p := .of_eq rfl rfl

theorem Recalls.isNumbered (h : Recalls p q) (hp : p.IsNumbered) : q.IsNumbered := by
  intro c hc
  rcases h.callers c hc with hold | hnew
  · exact (hp c hold).trans_le h.nextTicket
  · exact hnew.2

/-- Waking callers changes nothing about what they ask for. -/
@[simp] theorem callers_notify (p : Pool) : p.notify.callers = p.callers := by
  simp only [callers, notify, List.map_map]
  rfl

/-- Who leaves the queue is not remembered. -/
theorem callers_dequeue (p : Pool) (ticket : Nat) : (p.dequeue ticket).callers ⊆ p.callers := by
  intro c hc
  obtain ⟨t, ht, rfl⟩ := List.mem_map.mp hc
  exact List.mem_map_of_mem (List.mem_of_mem_filter ht)

theorem Quiets.callers (h : Quiets p q) : q.callers = p.callers := by
  rcases h.waiting with hsame | ⟨-, hwoken⟩
  · simp only [Pool.callers, hsame]
  · rw [← callers_notify p]
    simp only [Pool.callers, hwoken]

/-- An acquired connection leads where it was asked to. -/
theorem target_of_acquire {m : Moment} {target : Target} {lease : Lease}
    {dead : List Opened} (heq : p.acquire m target = (some lease, q, dead)) :
    lease.target = target := by
  rcases hreap : p.reap m target with ⟨p₁, dead₁⟩
  simp only [Pool.acquire, hreap] at heq
  split at heq
  · cases heq
  · rename_i e hfind
    simp only [Prod.mk.injEq, Option.some.injEq] at heq
    obtain ⟨rfl, -, -⟩ := heq
    simpa using List.find?_some hfind

/-- A reserved slot is for the target that was asked for. -/
theorem target_of_reserve {target : Target} {reservation : Reservation} {dead : List Opened}
    (heq : p.reserve target = (some reservation, q, dead)) : reservation.target = target := by
  simp only [reserve] at heq
  split at heq
  · split at heq
    · simp only [Prod.mk.injEq, Option.some.injEq] at heq
      rw [← heq.1]
    · cases heq
  · cases heq

/-- What an attempt gives leads where it was asked to. -/
theorem target_of_attempt {m : Moment} {target : Target} {checkout : Checkout}
    {dead : List Opened} (heq : p.attempt m target = (some checkout, q, dead)) :
    checkout.target = target := by
  rcases hacquire : p.acquire m target with ⟨lease, p₁, expired⟩
  simp only [attempt, hacquire] at heq
  cases lease with
  | some lease =>
    simp only [Prod.mk.injEq, Option.some.injEq] at heq
    obtain ⟨rfl, -, -⟩ := heq
    exact target_of_acquire hacquire
  | none =>
    rcases hreserve : p₁.reserve target with ⟨reservation, p₂, evicted⟩
    simp only [hreserve, Prod.mk.injEq] at heq
    obtain ⟨reservation, rfl, rfl⟩ := Option.map_eq_some_iff.mp heq.1
    exact target_of_reserve hreserve

/-- Asking leads to something for the target, to the end, or to waiting under a ticket. -/
structure Asks (ticket : Nat) (target : Target) (p : Pool) (status : CheckoutStatus) (q : Pool) :
    Prop where
  nextTicket : q.nextTicket = p.nextTicket
  callers : ∀ c ∈ q.callers, c ∈ p.callers ∨ c = (ticket, target)
  waiting : ∀ u, status = .waiting u → u = ticket
  ready : ∀ checkout, status = .ready checkout → checkout.target = target

/-- An attempt that may end in waiting asks for the target of its ticket. -/
theorem asks_attemptUntil {m : Moment} {t : Ticket} {status : CheckoutStatus}
    {dead : List Opened} (heq : p.attemptUntil m t = (status, q, dead)) :
    Asks t.id t.target p status q := by
  rcases hattempt : p.attempt m t.target with ⟨found, p₁, dead₁⟩
  have hquiet := quiets_attempt hattempt
  have hold : ∀ c ∈ p₁.callers, c ∈ p.callers ∨ c = (t.id, t.target) := by
    intro c hc
    rw [hquiet.callers] at hc
    exact Or.inl hc
  simp only [attemptUntil, hattempt] at heq
  cases found with
  | some checkout =>
    simp only [Prod.mk.injEq] at heq
    obtain ⟨rfl, rfl, -⟩ := heq
    refine ⟨hquiet.nextTicket, hold, by rintro _ ⟨⟩, fun found hfound => ?_⟩
    cases hfound
    exact target_of_attempt hattempt
  | none =>
    dsimp only at heq
    split at heq
    · simp only [Prod.mk.injEq] at heq
      obtain ⟨rfl, rfl, -⟩ := heq
      exact ⟨hquiet.nextTicket, hold, by rintro _ ⟨⟩, by rintro _ ⟨⟩⟩
    · simp only [Prod.mk.injEq] at heq
      obtain ⟨rfl, rfl, -⟩ := heq
      refine ⟨hquiet.nextTicket, fun c hc => ?_, fun u hu => ?_, by rintro _ ⟨⟩⟩
      · simp only [Pool.callers, enqueue, List.map_append, List.mem_append, List.map_singleton,
          List.mem_singleton] at hc
        exact hc.elim (hold c) Or.inr
      · cases hu
        rfl

/-- A checkout asks under a new ticket. -/
theorem asks_checkout {m : Moment} {target : Target} {wait : Option Nat} {status : CheckoutStatus}
    {dead : List Opened} (heq : p.checkout m target wait = (status, q, dead)) :
    q.nextTicket = p.nextTicket + 1 ∧
      Asks p.nextTicket target { p with nextTicket := p.nextTicket + 1 } status q := by
  have hasks := asks_attemptUntil heq
  exact ⟨hasks.nextTicket, hasks⟩

/-- Who waits asks again for what it asked for. -/
theorem asks_resume {m : Moment} {ticket : Nat} {target : Target} {status : CheckoutStatus}
    {dead : List Opened} (hcaller : ∀ c ∈ p.callers, c.1 = ticket → c.2 = target)
    (heq : p.resume m ticket = (status, q, dead)) :
    q.callers ⊆ p.callers ∧ Asks ticket target p status q := by
  unfold resume at heq
  cases hticket : p.ticket? ticket with
  | none =>
    simp only [hticket, Prod.mk.injEq] at heq
    obtain ⟨rfl, rfl, -⟩ := heq
    exact ⟨fun c hc => hc, ⟨rfl, fun c hc => Or.inl hc, nofun, nofun⟩⟩
  | some t =>
    have hid : t.id = ticket := by simpa using List.find?_some hticket
    have hmem : (t.id, t.target) ∈ p.callers :=
      List.mem_map_of_mem (f := fun t => (t.id, t.target)) (List.mem_of_find?_eq_some hticket)
    have htarget : t.target = target := hcaller (t.id, t.target) hmem hid
    simp only [hticket] at heq
    split at heq
    · have hasks := asks_attemptUntil heq
      have hsub : q.callers ⊆ p.callers := by
        intro c hc
        rcases hasks.callers c hc with hold | rfl
        · exact callers_dequeue p ticket hold
        · exact hmem
      rw [hid, htarget] at hasks
      exact ⟨hsub, ⟨hasks.nextTicket, fun c hc => Or.inl (hsub hc), hasks.waiting, hasks.ready⟩⟩
    · simp only [Prod.mk.injEq] at heq
      obtain ⟨rfl, rfl, -⟩ := heq
      refine ⟨fun c hc => hc, ⟨rfl, fun c hc => Or.inl hc, fun u hu => ?_, nofun⟩⟩
      cases hu
      rfl

/-- Giving up a connection or a slot leaves the callers to their tickets. -/
theorem recalls_discard (p : Pool) (l : Lease) : Recalls p (p.discard l) :=
  .of_eq rfl (callers_notify (p.giveBack.forget l.target))

theorem recalls_abandon (p : Pool) (r : Reservation) : Recalls p (p.abandon r) :=
  .of_eq rfl (callers_notify (p.forget r.target))

theorem recalls_dequeue (p : Pool) (ticket : Nat) : Recalls p (p.dequeue ticket) :=
  .of_subset rfl (callers_dequeue p ticket)

theorem recalls_release {m : Moment} {l : Lease} {dead : List Opened}
    (heq : p.release m l = (q, dead)) : Recalls p q := by
  unfold release at heq
  split at heq
  · simp only [Prod.mk.injEq] at heq
    rw [← heq.1]
    exact .of_eq rfl (callers_notify _)
  · simp only [Prod.mk.injEq] at heq
    rw [← heq.1]
    exact recalls_discard p l

end Pool

end HttpClient
