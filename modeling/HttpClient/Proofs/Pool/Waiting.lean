import HttpClient.Pool.Ledger
import HttpClient.Proofs.Pool.Operations
import Mathlib.Algebra.Order.Group.Multiset

/-!
# Callers that wait

Waiting callers are woken only where an idle connection was closed. So each turn of a caller who
is due lowers a measure, the turns end, and afterwards nobody has reason to try again; as time
reaches the deadlines one after the other, every caller leaves the queue.
-/

namespace HttpClient

namespace Pool

variable {p q r : Pool}

/-- The second pool follows on the first without new callers, and callers were woken only if an
idle connection has gone. -/
structure Quiets (p q : Pool) : Prop where
  idle : q.idle.length ≤ p.idle.length
  nextTicket : q.nextTicket = p.nextTicket
  waiting : q.waiting = p.waiting ∨
    q.idle.length < p.idle.length ∧ q.waiting = p.notify.waiting

/-- Waking callers twice is waking them once. -/
theorem waiting_notify_congr (h : q.waiting = p.notify.waiting) :
    q.notify.waiting = p.notify.waiting := by
  simp only [notify] at h ⊢
  rw [h, List.map_map]
  rfl

theorem Quiets.trans (hpq : Quiets p q) (hqr : Quiets q r) : Quiets p r := by
  refine ⟨hqr.idle.trans hpq.idle, hqr.nextTicket.trans hpq.nextTicket, ?_⟩
  rcases hpq.waiting with hsame | ⟨hless, hwoken⟩
  · rcases hqr.waiting with hsame' | ⟨hless', hwoken'⟩
    · exact Or.inl (hsame'.trans hsame)
    · refine Or.inr ⟨hless'.trans_le hpq.idle, ?_⟩
      simp only [notify, hsame] at hwoken' ⊢
      exact hwoken'
  · refine Or.inr ⟨hqr.idle.trans_lt hless, ?_⟩
    rcases hqr.waiting with hsame' | ⟨-, hwoken'⟩
    · exact hsame'.trans hwoken
    · exact hwoken'.trans (waiting_notify_congr hwoken)

/-- The second pool has lost a number of idle connections, and nobody was woken yet. -/
structure Loses (p q : Pool) (count : Nat) : Prop where
  idle : q.idle.length + count = p.idle.length
  nextTicket : q.nextTicket = p.nextTicket
  waiting : q.waiting = p.waiting

/-- After losses the callers are woken exactly where there were some. -/
theorem Loses.bury {dead : List Opened} (h : Loses p q dead.length) : Quiets p (q.bury dead) := by
  have hidle := h.idle
  cases dead with
  | nil => exact ⟨by simpa [Pool.bury] using hidle.le, h.nextTicket, Or.inl h.waiting⟩
  | cons o dead =>
    have hwoken : q.bury (o :: dead) = q.notify := rfl
    have hsame : q.notify.idle = q.idle := rfl
    rw [hwoken]
    simp only [List.length_cons] at hidle
    refine ⟨?_, h.nextTicket, Or.inr ⟨?_, ?_⟩⟩
    · rw [hsame]
      omega
    · rw [hsame]
      omega
    · simp only [notify, h.waiting]

/-- Giving back slots leaves the idle set and the queue alone. -/
private theorem foldl_forget (leaving : List Idle) (p : Pool) :
    let q := leaving.foldl (fun p e => p.forget e.target) p
    q.idle = p.idle ∧ q.nextTicket = p.nextTicket ∧ q.waiting = p.waiting := by
  induction leaving generalizing p with
  | nil => exact ⟨rfl, rfl, rfl⟩
  | cons e leaving ih => exact ih (p.forget e.target)

/-- Taking out a class of the idle connections answers all that were lost. -/
theorem loses_expel {which : Idle → Bool} {dead : List Opened}
    (heq : p.expel which = (q, dead)) : Loses p q dead.length := by
  obtain ⟨rfl, rfl⟩ := Prod.mk.injEq .. ▸ heq
  obtain ⟨hidle, hticket, hwaiting⟩ :=
    foldl_forget (p.idle.filter which) { p with idle := p.idle.filter fun e => !which e }
  refine ⟨?_, hticket, hwaiting⟩
  have hsum := List.length_eq_length_filter_add (l := p.idle) which
  rw [hidle, List.length_map]
  simp only
  omega

/-- Looking after a target answers all that were lost. -/
theorem loses_reap {m : Moment} {target : Target} {dead : List Opened}
    (heq : p.reap m target = (q, dead)) : Loses p q dead.length := by
  simp only [Pool.reap] at heq
  split at heq
  · obtain ⟨hidle, hticket, hwaiting⟩ := loses_expel heq
    exact ⟨hidle, hticket, hwaiting⟩
  · exact loses_expel heq

/-- Acquiring adds no caller, and wakes callers only where a connection was closed. -/
theorem quiets_acquire {m : Moment} {target : Target} {found : Option Lease} {dead : List Opened}
    (heq : p.acquire m target = (found, q, dead)) : Quiets p q := by
  rcases hreap : p.reap m target with ⟨p₁, dead₁⟩
  have hquiet := (loses_reap hreap).bury
  simp only [Pool.acquire, hreap] at heq
  split at heq
  · simp only [Prod.mk.injEq] at heq
    obtain ⟨-, rfl, -⟩ := heq
    exact hquiet
  · rename_i e hfind
    obtain ⟨before, after, hidle, hrest⟩ := Custody.newest_split hfind
    simp only [Prod.mk.injEq] at heq
    obtain ⟨-, rfl, -⟩ := heq
    refine hquiet.trans ⟨?_, rfl, Or.inl rfl⟩
    rw [hrest, hidle]
    simp

/-- Making room answers all that were lost. -/
theorem loses_makeRoom (isFull : Pool → Bool) (which : Idle → Bool) (p : Pool) :
    Loses p (p.makeRoom isFull which).2.1 (p.makeRoom isFull which).2.2.length := by
  fun_induction Pool.makeRoom isFull which p with
  | case1 p hfull hnone => exact ⟨rfl, rfl, rfl⟩
  | case2 p hfull e r hsome ok q dead hmore ih =>
    rw [hmore] at ih
    obtain ⟨hidle, hticket, hwaiting⟩ := ih
    obtain ⟨found, hfind, hpair⟩ := Option.map_eq_some_iff.mp hsome
    simp only [Prod.mk.injEq] at hpair
    obtain ⟨rfl, rfl⟩ := hpair
    refine ⟨?_, hticket, hwaiting⟩
    have hmem := List.mem_of_find?_eq_some hfind
    have hpos := List.length_pos_of_mem hmem
    simp only [forget, List.length_eraseP_of_mem hmem (List.find?_some hfind)] at hidle
    simp only [List.length_cons]
    omega
  | case3 p hfull => exact ⟨rfl, rfl, rfl⟩

/-- Reserving adds no caller, and wakes callers only where a connection was closed. -/
theorem quiets_reserve {target : Target} {found : Option Reservation} {dead : List Opened}
    (heq : p.reserve target = (found, q, dead)) : Quiets p q := by
  have hhost := loses_makeRoom (isFullFor target) (fun e => e.target = target) p
  rcases hmake : p.makeRoom (isFullFor target) (fun e => e.target = target) with
    ⟨okHost, p₁, dead₁⟩
  rw [hmake] at hhost
  simp only [Pool.reserve, hmake] at heq
  cases okHost with
  | false =>
    simp only [Bool.false_eq_true, if_false, Prod.mk.injEq] at heq
    obtain ⟨-, rfl, -⟩ := heq
    exact hhost.bury
  | true =>
    have hall := loses_makeRoom isFull (fun _ => true) p₁
    rcases hmake₂ : p₁.makeRoom isFull (fun _ => true) with ⟨ok, p₂, dead₂⟩
    rw [hmake₂] at hall
    have hlost : Loses p p₂ (dead₁ ++ dead₂).length := by
      refine ⟨?_, hall.nextTicket.trans hhost.nextTicket, hall.waiting.trans hhost.waiting⟩
      have hfirst := hhost.idle
      have hsecond := hall.idle
      simp only [List.length_append] at hfirst hsecond ⊢
      omega
    have hquiet := hlost.bury
    simp only [hmake₂, if_true] at heq
    cases ok with
    | false =>
      simp only [Bool.false_eq_true, if_false, Prod.mk.injEq] at heq
      obtain ⟨-, rfl, -⟩ := heq
      exact hquiet
    | true =>
      simp only [if_true, Prod.mk.injEq] at heq
      obtain ⟨-, rfl, -⟩ := heq
      exact hquiet.trans ⟨Nat.le_refl _, rfl, Or.inl rfl⟩

/-- An attempt adds no caller, and wakes callers only where a connection was closed. -/
theorem quiets_attempt {m : Moment} {target : Target} {found : Option Checkout}
    {dead : List Opened} (heq : p.attempt m target = (found, q, dead)) : Quiets p q := by
  rcases hacquire : p.acquire m target with ⟨lease, p₁, expired⟩
  have hacquired := quiets_acquire hacquire
  simp only [Pool.attempt, hacquire] at heq
  cases lease with
  | some lease =>
    simp only [Prod.mk.injEq] at heq
    obtain ⟨-, rfl, -⟩ := heq
    exact hacquired
  | none =>
    rcases hreserve : p₁.reserve target with ⟨reservation, p₂, evicted⟩
    simp only [hreserve, Prod.mk.injEq] at heq
    obtain ⟨-, rfl, -⟩ := heq
    exact hacquired.trans (quiets_reserve hreserve)

/-- Who waits, and until when. -/
def queue (p : Pool) : Multiset (Nat × Nat) := (p.waiting.map fun t => (t.id, t.deadline) : List _)

/-- The queue is not changed by waking callers. -/
theorem queue_notify (p : Pool) : p.notify.queue = p.queue := by
  simp only [queue, notify, List.map_map]
  rfl

/-- Nobody joins or leaves the queue in between. -/
theorem Quiets.queue (h : Quiets p q) : q.queue = p.queue := by
  rcases h.waiting with hsame | ⟨-, hwoken⟩
  · simp only [Pool.queue, hsame]
  · rw [← queue_notify p]
    simp only [Pool.queue, hwoken]

/-- How many turns the waiting callers may still take at a time. -/
def urgency (p : Pool) (now : Nat) : Nat :=
  p.waiting.countP (·.isDue now) + p.idle.length * p.waiting.length

/-- Nobody has reason to try again once the measure is down to zero. -/
theorem nextDue?_of_urgency {now : Nat} (h : p.urgency now = 0) : p.nextDue? now = none := by
  simp only [urgency, Nat.add_eq_zero_iff, List.countP_eq_zero] at h
  simpa [nextDue?] using h.1

/-- The measure is below what callers are given as turns. -/
theorem urgency_le (p : Pool) (now : Nat) :
    p.urgency now ≤ (p.waiting.length + 1) * (p.idle.length + 2) := by
  have hcount := List.countP_le_length (p := (·.isDue now)) (l := p.waiting)
  rw [urgency, Nat.add_mul, Nat.mul_add, Nat.mul_comm p.waiting.length]
  omega

/-- The caller whose turn it is stands between the others, and leaves them as they are. -/
theorem split_of_nextDue? {now ticket : Nat} (hids : (p.waiting.map Ticket.id).Nodup)
    (h : p.nextDue? now = some ticket) :
    ∃ before t after, p.waiting = before ++ t :: after ∧ t.id = ticket ∧ t.isDue now = true ∧
      p.ticket? ticket = some t ∧ (p.dequeue ticket).waiting = before ++ after := by
  obtain ⟨t, hfind, rfl⟩ := Option.map_eq_some_iff.mp h
  obtain ⟨hdue, before, after, hsplit, -⟩ := List.find?_eq_some_iff_append.mp hfind
  rw [hsplit, List.map_append, List.map_cons] at hids
  obtain ⟨-, hafter, hdisjoint⟩ := List.nodup_append.mp hids
  have hbefore : ∀ u ∈ before, u.id ≠ t.id := fun u hu =>
    hdisjoint _ (List.mem_map_of_mem hu) _ (List.mem_cons_self ..)
  have hlater : ∀ u ∈ after, u.id ≠ t.id := fun u hu heq =>
    (List.nodup_cons.mp hafter).1 (heq ▸ List.mem_map_of_mem hu)
  refine ⟨before, t, after, hsplit, rfl, hdue, ?_, ?_⟩
  · rw [ticket?, hsplit, List.find?_append, List.find?_eq_none.mpr (by simpa using hbefore)]
    simp
  · simp only [dequeue, hsplit, List.filter_append]
    rw [List.filter_eq_self.mpr (by simpa using hbefore), List.filter_cons_of_neg (by simp),
      List.filter_eq_self.mpr (by simpa using hlater)]

/-- An attempt that may end in waiting adds at most the caller itself to the queue. -/
theorem queue_attemptUntil {m : Moment} {t : Ticket} {status : CheckoutStatus}
    {dead : List Opened} (heq : p.attemptUntil m t = (status, q, dead)) :
    q.nextTicket = p.nextTicket ∧
      (status = .waiting t.id ∧ q.queue = (t.id, t.deadline) ::ₘ p.queue ∨
        (∀ u, status ≠ .waiting u) ∧ q.queue = p.queue) := by
  rcases hattempt : p.attempt m t.target with ⟨found, p₁, dead₁⟩
  have hquiet := quiets_attempt hattempt
  simp only [attemptUntil, hattempt] at heq
  cases found with
  | some checkout =>
    simp only [Prod.mk.injEq] at heq
    obtain ⟨rfl, rfl, rfl⟩ := heq
    exact ⟨hquiet.nextTicket, Or.inr ⟨by simp, hquiet.queue⟩⟩
  | none =>
    dsimp only at heq
    split at heq
    · simp only [Prod.mk.injEq] at heq
      obtain ⟨rfl, rfl, rfl⟩ := heq
      exact ⟨hquiet.nextTicket, Or.inr ⟨by simp, hquiet.queue⟩⟩
    · simp only [Prod.mk.injEq] at heq
      obtain ⟨rfl, rfl, rfl⟩ := heq
      refine ⟨hquiet.nextTicket, Or.inl ⟨rfl, ?_⟩⟩
      rw [← hquiet.queue]
      simp only [Pool.queue, enqueue, List.map_append, List.map_singleton]
      exact coe_concat _ _

/-- A caller who is due lowers the measure with its turn, whether it goes back to the queue or
not: either the others are as they were, or an idle connection has gone and all may try again. -/
private theorem urgency_attemptUntil {m : Moment} {t : Ticket} {before after : List Ticket}
    {status : CheckoutStatus} {dead : List Opened} (hsplit : p.waiting = before ++ t :: after)
    (hready : t.isDue m.now = true) (hothers : (p.dequeue t.id).waiting = before ++ after)
    (heq : (p.dequeue t.id).attemptUntil m t = (status, q, dead)) :
    q.urgency m.now < p.urgency m.now := by
  rcases hattempt : (p.dequeue t.id).attempt m t.target with ⟨found, p₁, dead₁⟩
  have hquiet := quiets_attempt hattempt
  have hidle : (p.dequeue t.id).idle = p.idle := rfl
  have hlength : p₁.waiting.length + 1 = p.waiting.length ∧
      p₁.waiting.countP (·.isDue m.now) + p₁.idle.length * (p₁.waiting.length + 1) <
        p.urgency m.now := by
    have htotal : before.length + after.length + 1 = p.waiting.length := by
      rw [hsplit]
      simp only [List.length_append, List.length_cons]
      omega
    have hcount : p.urgency m.now = before.countP (·.isDue m.now) +
        after.countP (·.isDue m.now) + 1 + p.idle.length * p.waiting.length := by
      rw [urgency, hsplit, List.countP_append,
        List.countP_cons_of_pos (p := fun u : Ticket => u.isDue m.now) hready]
      omega
    rcases hquiet.waiting with hsame | ⟨hless, hwoken⟩
    · have hlength : p₁.waiting.length + 1 = p.waiting.length := by
        rw [hsame, hothers, List.length_append, htotal]
      have hmul := Nat.mul_le_mul_right p.waiting.length hquiet.idle
      rw [hidle] at hmul
      refine ⟨hlength, ?_⟩
      rw [hlength, hsame, hothers, hcount, List.countP_append]
      omega
    · have hlength : p₁.waiting.length + 1 = p.waiting.length := by
        rw [hwoken]
        simp only [notify, hothers, List.length_map, List.length_append]
        exact htotal
      have hle := List.countP_le_length (p := (·.isDue m.now)) (l := p₁.waiting)
      have hmul := Nat.mul_le_mul_right p.waiting.length (Nat.succ_le_of_lt hless)
      rw [hidle, Nat.succ_mul] at hmul
      refine ⟨hlength, ?_⟩
      rw [hlength]
      omega
  have hout : p₁.urgency m.now < p.urgency m.now := by
    have hless := hlength.2
    rw [Nat.mul_add] at hless
    simp only [urgency] at hless ⊢
    omega
  simp only [attemptUntil, hattempt] at heq
  cases found with
  | some checkout =>
    simp only [Prod.mk.injEq] at heq
    obtain ⟨rfl, rfl, rfl⟩ := heq
    exact hout
  | none =>
    dsimp only at heq
    split at heq
    · simp only [Prod.mk.injEq] at heq
      obtain ⟨rfl, rfl, rfl⟩ := heq
      exact hout
    · rename_i hlate
      simp only [Prod.mk.injEq] at heq
      obtain ⟨rfl, rfl, rfl⟩ := heq
      have hcalm : Ticket.isDue { t with notified := false } m.now = false := by
        simpa [Ticket.isDue] using hlate
      rw [urgency, enqueue, List.countP_append, List.countP_singleton, hcalm, List.length_append]
      exact hlength.2

/-- A turn ends with the caller out of the queue, or waiting as before with nothing to wake it. -/
theorem resume_of_nextDue? {m : Moment} {ticket : Nat} {status : CheckoutStatus}
    {dead : List Opened} (hids : (p.waiting.map Ticket.id).Nodup)
    (hdue : p.nextDue? m.now = some ticket) (heq : p.resume m ticket = (status, q, dead)) :
    ∃ deadline, p.queue = (ticket, deadline) ::ₘ (p.dequeue ticket).queue ∧
      q.nextTicket = p.nextTicket ∧ q.urgency m.now < p.urgency m.now ∧
      (status = .waiting ticket ∧ q.queue = p.queue ∨
        (∀ t, status ≠ .waiting t) ∧ q.queue = (p.dequeue ticket).queue) := by
  obtain ⟨before, t, after, hsplit, rfl, hready, hticket, hothers⟩ := split_of_nextDue? hids hdue
  have hqueue : p.queue = (t.id, t.deadline) ::ₘ (p.dequeue t.id).queue := by
    simp only [Pool.queue, hsplit, hothers, List.map_append, List.map_cons]
    exact coe_insert _ _ _
  simp only [resume, hticket, hready, if_true] at heq
  obtain ⟨hnext, hend⟩ := queue_attemptUntil heq
  refine ⟨t.deadline, hqueue, hnext, urgency_attemptUntil hsplit hready hothers heq, ?_⟩
  rwa [hqueue]

end Pool

namespace Ledger

variable {l : Ledger}

/-- The queue is one of callers with different numbers. -/
theorem nodup_of_queue_le {p q : Pool} (hids : (p.waiting.map Ticket.id).Nodup)
    (hle : q.queue ≤ p.queue) : (q.waiting.map Ticket.id).Nodup := by
  have hmap := Multiset.map_le_map (f := Prod.fst) hle
  simp only [Pool.queue, Multiset.map_coe, List.map_map] at hmap
  exact Multiset.coe_nodup.mp (Multiset.nodup_of_le hmap (Multiset.coe_nodup.mpr hids))

/-- The pool after an operation is the pool that the operation answered. -/
@[simp] theorem pool_settle_withPool (l : Ledger) (p : Pool) (dead : List Opened) (ticket : Nat)
    (status : CheckoutStatus) : ((l.withPool p dead).settle ticket status).pool = p := by
  cases status <;> rfl

/-- Operations on the pool take no time. -/
@[simp] theorem now_settle_withPool (l : Ledger) (p : Pool) (dead : List Opened) (ticket : Nat)
    (status : CheckoutStatus) : ((l.withPool p dead).settle ticket status).now = l.now := by
  cases status <;> simp only [settle, withPool, report] <;> split <;> rfl

/-- Serving takes no time and adds nobody to the queue, and with turns enough it ends with nobody
who has reason to try again. -/
theorem serve_settles (fuel : Nat) (l : Ledger) (hids : (l.pool.waiting.map Ticket.id).Nodup) :
    (l.serve fuel).now = l.now ∧ (l.serve fuel).pool.queue ≤ l.pool.queue ∧
      (l.pool.urgency l.now ≤ fuel → (l.serve fuel).pool.nextDue? l.now = none) := by
  induction fuel generalizing l with
  | zero =>
    exact ⟨rfl, le_refl _, fun h => Pool.nextDue?_of_urgency (Nat.le_zero.mp h)⟩
  | succ fuel ih =>
    rw [serve]
    split
    · rename_i hnone
      exact ⟨rfl, le_refl _, fun _ => hnone⟩
    · rename_i ticket hdue
      rcases hresume : l.pool.resume l.moment ticket with ⟨status, p, dead⟩
      obtain ⟨deadline, hqueue, -, hless, hend⟩ :=
        Pool.resume_of_nextDue? (m := l.moment) hids hdue hresume
      have hle : p.queue ≤ l.pool.queue := by
        rcases hend with ⟨-, hsame⟩ | ⟨-, hleft⟩
        · exact hsame.le
        · rw [hleft, hqueue]
          exact Multiset.le_cons_self _ _
      have hnext := ih ((l.withPool p dead).settle ticket status)
        (by simpa using nodup_of_queue_le hids hle)
      simp only [pool_settle_withPool, now_settle_withPool] at hnext
      refine ⟨hnext.1, hnext.2.1.trans hle, fun hfuel => hnext.2.2 ?_⟩
      exact Nat.le_of_lt_succ (hless.trans_le hfuel)

/-- After all were served nobody has reason to try again. -/
theorem nextDue?_serveAll (hids : (l.pool.waiting.map Ticket.id).Nodup) :
    l.serveAll.pool.nextDue? l.now = none :=
  (serve_settles _ l hids).2.2 (Pool.urgency_le _ _)

/-- Serving at the first deadline of all sends somebody away. -/
theorem card_queue_serveAll {deadline : Nat} (hids : (l.pool.waiting.map Ticket.id).Nodup)
    (hfirst : l.pool.nextDeadline? = some deadline) (hnow : deadline ≤ l.now) :
    l.serveAll.pool.queue.card < l.pool.queue.card := by
  have hle : l.serveAll.pool.queue ≤ l.pool.queue := (serve_settles _ l hids).2.1
  obtain ⟨t, ht, rfl⟩ := List.mem_map.mp (List.min?_mem hfirst)
  refine Multiset.card_lt_card (lt_of_le_of_ne hle fun hsame => ?_)
  have hmem : (t.id, t.deadline) ∈ l.serveAll.pool.queue := by
    rw [hsame]
    exact Multiset.mem_coe.mpr (List.mem_map_of_mem ht)
  obtain ⟨u, hu, hpair⟩ := List.mem_map.mp (Multiset.mem_coe.mp hmem)
  have hcalm := List.find?_eq_none.mp (Option.map_eq_none_iff.mp (nextDue?_serveAll hids)) u hu
  simp only [Prod.mk.injEq] at hpair
  simp [Ticket.isDue, hpair.2, hnow] at hcalm

/-- Waiting for an outcome adds nobody to the queue, and with time enough it ends with the outcome
or an empty queue. -/
theorem waitFor_settles (ticket fuel : Nat) (l : Ledger)
    (hids : (l.pool.waiting.map Ticket.id).Nodup) :
    (l.waitFor ticket fuel).pool.queue ≤ l.pool.queue ∧
      (l.pool.queue.card < fuel → ((l.waitFor ticket fuel).outcomes.lookup ticket).isSome ∨
        (l.waitFor ticket fuel).pool.queue = 0) := by
  induction fuel generalizing l with
  | zero => exact ⟨le_refl _, fun h => absurd h (Nat.not_lt_zero _)⟩
  | succ fuel ih =>
    rw [waitFor]
    split
    · rename_i deadline hnone hfirst
      have hserved := serve_settles ((l.pool.waiting.length + 1) * (l.pool.idle.length + 2))
        { l with now := max l.now deadline } hids
      have hnext := ih _ (nodup_of_queue_le hids hserved.2.1)
      refine ⟨hnext.1.trans hserved.2.1, fun hfuel => hnext.2 ?_⟩
      exact (card_queue_serveAll (l := { l with now := max l.now deadline }) hids hfirst
        (le_max_right _ _)).trans_le (Nat.le_of_lt_succ hfuel)
    · rename_i hstop
      refine ⟨le_refl _, fun _ => ?_⟩
      cases houtcome : l.outcomes.lookup ticket with
      | some outcome => exact Or.inl rfl
      | none =>
        right
        cases hfirst : l.pool.nextDeadline? with
        | some deadline => exact absurd hfirst (hstop deadline houtcome)
        | none =>
          rw [Pool.nextDeadline?, List.min?_eq_none_iff, List.map_eq_nil_iff] at hfirst
          simp [Pool.queue, hfirst]

end Ledger

end HttpClient
