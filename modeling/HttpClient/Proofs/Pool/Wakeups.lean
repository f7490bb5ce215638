import HttpClient.Proofs.Pool.Shortage
import Mathlib.Data.List.Induction
import Mathlib.Logic.Function.Basic

/-!
# Nobody waits in vain

Callers wait for a pool while others use it. A caller enters the queue before it looks for an idle
connection, and looks before it claims a slot; calls of others may come between, from other
threads. Whoever waits afterwards and was not woken would fail again at any moment, because every
call that gives something back wakes all who are in the queue, also those in the middle of an
attempt.
-/

namespace HttpClient

/-- How far the attempt of a caller in the queue has come. -/
inductive Bid
  /-- The caller is told of what is given back, and has not looked yet. -/
  | entered
  /-- The caller found no idle connection, and has not claimed a slot yet. -/
  | missed
  /-- The caller got no slot either and waits. -/
  | parked
  deriving DecidableEq, Repr

/-- A pool with the callers in its queue. -/
structure Crowd where
  pool : Pool
  bid : Nat → Bid := fun _ => .parked

/-- What is done to a pool. The moments of two calls need not have anything to do with each other:
clocks advance and connections close in between. -/
inductive Call
  | acquire (m : Moment) (target : Target)
  | reserve (target : Target)
  | fulfill (now : Nat) (reservation : Reservation) (transport : TransportId)
  | abandon (reservation : Reservation)
  | release (m : Moment) (lease : Lease)
  | discard (lease : Lease)
  /-- A caller asks, and waits where its whole attempt fails at once. -/
  | checkout (m : Moment) (target : Target) (wait : Option Nat)
  /-- A caller that waits makes a whole attempt if it has reason to. -/
  | resume (m : Moment) (ticket : Nat)
  /-- A caller asks and enters the queue, with its attempt still to come. -/
  | enter (now : Nat) (target : Target) (wait : Nat)
  /-- The first half of an attempt. -/
  | look (m : Moment) (ticket : Nat)
  /-- The second half of an attempt. -/
  | claim (ticket : Nat)
  /-- A caller that waits goes back to the start of an attempt. -/
  | retry (ticket : Nat)
  /-- A caller gives up. -/
  | leave (ticket : Nat)

/-- What a caller asks for, since when and for how long. -/
structure Wish where
  target : Target
  since : Nat
  wait : Nat
  deriving DecidableEq, Repr

/-- The time up to which a caller waits. -/
def Wish.deadline (w : Wish) : Nat := w.since + w.wait

/-- What a call asks for, when it is one that may end in waiting. -/
def Call.wish? : Call → Option Wish
  | .checkout m target wait => some ⟨target, m.now, wait.getD 0⟩
  | .enter now target wait => some ⟨target, now, wait⟩
  | _ => none

/-- What is asked for in a list of calls; the tickets count these wishes. -/
def wishes (calls : List Call) : List Wish := calls.filterMap Call.wish?

namespace Crowd

/-- The crowd after a call. -/
def step (s : Crowd) : Call → Crowd
  | .acquire m target => { s with pool := (s.pool.acquire m target).2.1 }
  | .reserve target => { s with pool := (s.pool.reserve target).2.1 }
  | .fulfill now reservation transport =>
    { s with pool := (s.pool.fulfill now reservation transport).2 }
  | .abandon reservation => { s with pool := s.pool.abandon reservation }
  | .release m lease => { s with pool := (s.pool.release m lease).1 }
  | .discard lease => { s with pool := s.pool.discard lease }
  | .checkout m target wait =>
    { pool := (s.pool.checkout m target wait).2.1,
      bid := Function.update s.bid s.pool.nextTicket .parked }
  | .resume m ticket =>
    if s.bid ticket = .parked then { s with pool := (s.pool.resume m ticket).2.1 } else s
  | .enter now target wait =>
    let t : Ticket := { id := s.pool.nextTicket, target := target, deadline := now + wait }
    { pool := Pool.enqueue { s.pool with nextTicket := s.pool.nextTicket + 1 } t,
      bid := Function.update s.bid t.id .entered }
  | .look m ticket =>
    match s.pool.ticket? ticket, s.bid ticket with
    | some t, .entered =>
      match s.pool.acquire m t.target with
      | (some _, p, _) => { s with pool := p.dequeue ticket }
      | (none, p, _) => { pool := p, bid := Function.update s.bid ticket .missed }
    | _, _ => s
  | .claim ticket =>
    match s.pool.ticket? ticket, s.bid ticket with
    | some t, .missed =>
      match s.pool.reserve t.target with
      | (some _, p, _) => { s with pool := p.dequeue ticket }
      | (none, p, _) => { pool := p, bid := Function.update s.bid ticket .parked }
    | _, _ => s
  | .retry ticket =>
    match s.pool.ticket? ticket with
    | some t =>
      { pool := (s.pool.dequeue ticket).enqueue { t with notified := false },
        bid := Function.update s.bid ticket .entered }
    | none => s
  | .leave ticket => { s with pool := s.pool.dequeue ticket }

/-- The crowd after a list of calls. -/
def run (s : Crowd) (calls : List Call) : Crowd := calls.foldl step s

end Crowd

/-- What a caller that was not woken knows about the pool. -/
def Bid.Knows (p : Pool) (target : Target) : Bid → Prop
  | .entered => True
  | .missed => p.Lacks target
  | .parked => p.Shortage target

theorem Bid.Knows.tightens {p q : Pool} {target : Target} {bid : Bid}
    (h : bid.Knows p target) (htight : Pool.Tightens p q) : bid.Knows q target := by
  cases bid with
  | entered => trivial
  | missed => exact htight.lacks h
  | parked => exact htight.shortage h

namespace Crowd

variable {s : Crowd} {asked : List Wish}

/-- The queue is one of callers with different tickets, who wait for what they asked for, and what
those know who were not woken is still true. -/
structure Patient (asked : List Wish) (s : Crowd) : Prop where
  nextTicket : s.pool.nextTicket = asked.length
  wish : ∀ t ∈ s.pool.waiting, ∃ w, asked[t.id]? = some w ∧ w.target = t.target ∧
    w.deadline = t.deadline
  nodup : (s.pool.waiting.map Ticket.id).Nodup
  knows : ∀ t ∈ s.pool.waiting, t.notified = false → (s.bid t.id).Knows s.pool t.target

/-- A caller is found under its ticket. -/
theorem Patient.ticket? {t : Ticket} (h : Patient asked s) (ht : t ∈ s.pool.waiting) :
    s.pool.ticket? t.id = some t := by
  have hfound : (s.pool.ticket? t.id).isSome := List.find?_isSome.mpr ⟨t, ht, decide_eq_true rfl⟩
  obtain ⟨u, hfind⟩ := Option.isSome_iff_exists.mp hfound
  have hid : u.id = t.id := by simpa using List.find?_some hfind
  rw [hfind, List.inj_on_of_nodup_map h.nodup (List.mem_of_find?_eq_some hfind) ht hid]

/-- Whatever wakes the callers or only tightens the pool keeps what they know true. -/
theorem Patient.heeds {q : Pool} (h : Patient asked s) (hq : Pool.Heeds s.pool q) :
    Patient asked { s with pool := q } := by
  have hids : q.waiting.map Ticket.id = s.pool.waiting.map Ticket.id := hq.map_waiting fun _ => rfl
  have hsame : q.waiting.map (fun t => (t.id, t.target, t.deadline)) =
      s.pool.waiting.map fun t => (t.id, t.target, t.deadline) := hq.map_waiting fun _ => rfl
  refine ⟨hq.nextTicket.trans h.nextTicket, fun t ht => ?_, hids ▸ h.nodup, fun t ht hcalm => ?_⟩
  · have hmem := List.mem_map_of_mem (f := fun t : Ticket => (t.id, t.target, t.deadline)) ht
    rw [hsame] at hmem
    obtain ⟨u, hu, hpair⟩ := List.mem_map.mp hmem
    simp only [Prod.mk.injEq] at hpair
    obtain ⟨hid, htarget, hdeadline⟩ := hpair
    exact hid ▸ htarget ▸ hdeadline ▸ h.wish u hu
  · obtain ⟨hold, htight⟩ := hq.spared ht hcalm
    exact (h.knows t hold hcalm).tightens htight

/-- A caller that leaves the queue takes its knowledge along. -/
theorem Patient.dequeue (h : Patient asked s) (ticket : Nat) :
    Patient asked { s with pool := s.pool.dequeue ticket } := by
  have hmem : ∀ t ∈ (s.pool.dequeue ticket).waiting, t ∈ s.pool.waiting :=
    fun t ht => List.mem_of_mem_filter ht
  refine ⟨h.nextTicket, fun t ht => h.wish t (hmem t ht), ?_, fun t ht hcalm => ?_⟩
  · exact h.nodup.sublist (List.filter_sublist.map Ticket.id)
  · exact (h.knows t (hmem t ht) hcalm).tightens (.of_eq rfl rfl rfl rfl)

/-- A caller goes on to where its knowledge brings it. -/
theorem Patient.rebid (h : Patient asked s) (ticket : Nat) (bid : Bid)
    (hknows : ∀ t ∈ s.pool.waiting, t.id = ticket → t.notified = false →
      bid.Knows s.pool t.target) :
    Patient asked { s with bid := Function.update s.bid ticket bid } := by
  refine ⟨h.nextTicket, h.wish, h.nodup, fun t ht hcalm => ?_⟩
  by_cases hid : t.id = ticket
  · simp only [hid, Function.update_self]
    exact hknows t ht hid hcalm
  · simp only [Function.update_of_ne hid]
    exact h.knows t ht hcalm

/-- A caller joins the queue with what it asked for and with what it knows. -/
theorem Patient.enqueue {t : Ticket} {w : Wish} (h : Patient asked s) (hw : asked[t.id]? = some w)
    (htarget : w.target = t.target) (hdeadline : w.deadline = t.deadline)
    (hnew : ∀ u ∈ s.pool.waiting, u.id ≠ t.id) (hknows : (s.bid t.id).Knows s.pool t.target) :
    Patient asked { s with pool := s.pool.enqueue t } := by
  have hmem : ∀ u ∈ (s.pool.enqueue t).waiting, u ∈ s.pool.waiting ∨ u = t :=
    fun u hu => by simpa [Pool.enqueue] using hu
  have htight : Pool.Tightens s.pool (s.pool.enqueue t) := .of_eq rfl rfl rfl rfl
  refine ⟨h.nextTicket, fun u hu => ?_, ?_, fun u hu hcalm => ?_⟩
  · rcases hmem u hu with hold | rfl
    · exact h.wish u hold
    · exact ⟨w, hw, htarget, hdeadline⟩
  · simp only [Pool.enqueue, List.map_append, List.map_singleton]
    refine List.nodup_append.mpr ⟨h.nodup, List.nodup_singleton _, ?_⟩
    rintro _ hid _ hlast rfl
    obtain ⟨u, hu, hsame⟩ := List.mem_map.mp hid
    exact hnew u hu (hsame.trans (List.mem_singleton.mp hlast))
  · rcases hmem u hu with hold | rfl
    · exact (h.knows u hold hcalm).tightens htight
    · exact hknows.tightens htight

/-- A new wish gets a ticket that nobody in the queue has. -/
theorem Patient.begin (h : Patient asked s) (w : Wish) :
    Patient (asked ++ [w]) { s with pool := { s.pool with nextTicket := s.pool.nextTicket + 1 } } ∧
      (asked ++ [w])[s.pool.nextTicket]? = some w ∧
      ∀ t ∈ s.pool.waiting, t.id ≠ s.pool.nextTicket := by
  have hbelow : ∀ t ∈ s.pool.waiting, t.id < asked.length := by
    intro t ht
    obtain ⟨w, hw, -⟩ := h.wish t ht
    exact (List.getElem?_eq_some_iff.mp hw).1
  refine ⟨⟨?_, fun t ht => ?_, h.nodup, fun t ht hcalm => ?_⟩, ?_, fun t ht => ?_⟩
  · simp only [h.nextTicket, List.length_append, List.length_singleton]
  · rw [List.getElem?_append_left (hbelow t ht)]
    exact h.wish t ht
  · exact (h.knows t ht hcalm).tightens (.of_eq rfl rfl rfl rfl)
  · rw [h.nextTicket, List.getElem?_concat_length]
  · exact h.nextTicket ▸ (hbelow t ht).ne

/-- A caller who is not in the queue makes a whole attempt, and waits where it fails. -/
theorem Patient.attemptUntil {m : Moment} {t : Ticket} {w : Wish} {status : CheckoutStatus}
    {q : Pool} {dead : List Opened} (h : Patient asked s) (hw : asked[t.id]? = some w)
    (htarget : w.target = t.target) (hdeadline : w.deadline = t.deadline)
    (hnew : ∀ u ∈ s.pool.waiting, u.id ≠ t.id) (hbid : s.bid t.id = .parked)
    (heq : s.pool.attemptUntil m t = (status, q, dead)) : Patient asked { s with pool := q } := by
  rcases hattempt : s.pool.attempt m t.target with ⟨found, p₁, dead₁⟩
  have hheeds := Pool.heeds_attempt hattempt
  have hafter := h.heeds hheeds
  simp only [Pool.attemptUntil, hattempt] at heq
  cases found with
  | some checkout =>
    simp only [Prod.mk.injEq] at heq
    obtain ⟨-, rfl, -⟩ := heq
    exact hafter
  | none =>
    dsimp only at heq
    split at heq
    · simp only [Prod.mk.injEq] at heq
      obtain ⟨-, rfl, -⟩ := heq
      exact hafter
    · simp only [Prod.mk.injEq] at heq
      obtain ⟨-, rfl, -⟩ := heq
      refine hafter.enqueue (t := { t with notified := false }) hw htarget hdeadline
        (fun u hu => ?_) ?_
      · have hids : p₁.waiting.map Ticket.id = s.pool.waiting.map Ticket.id :=
          hheeds.map_waiting fun _ => rfl
        have hmem := List.mem_map_of_mem (f := Ticket.id) hu
        rw [hids] at hmem
        obtain ⟨v, hv, hsame⟩ := List.mem_map.mp hmem
        exact hsame ▸ hnew v hv
      · simp only [hbid]
        exact Pool.shortage_of_attempt hattempt

/-- The ticket of a caller is gone once it left the queue. -/
private theorem id_ne_of_dequeued {p : Pool} {ticket : Nat} :
    ∀ t ∈ (p.dequeue ticket).waiting, t.id ≠ ticket :=
  fun t ht => by simpa using (List.mem_filter.mp ht).2

/-- A caller in the queue with a ticket who was not woken is the one found under it before. -/
private theorem Patient.eq_of_spared {q : Pool} {t u : Ticket} {ticket : Nat} (h : Patient asked s)
    (hheeds : Pool.Heeds s.pool q) (hfind : s.pool.ticket? ticket = some t) (hu : u ∈ q.waiting)
    (hid : u.id = ticket) (hcalm : u.notified = false) : u = t := by
  have hsame := h.ticket? (hheeds.spared hu hcalm).1
  rw [hid, hfind, Option.some.injEq] at hsame
  exact hsame.symm

/-- A caller that waits makes a whole attempt, and goes on waiting where it fails. -/
private theorem Patient.resume (h : Patient asked s) (m : Moment) {ticket : Nat}
    (hbid : s.bid ticket = .parked) :
    Patient asked { s with pool := (s.pool.resume m ticket).2.1 } := by
  cases hfind : s.pool.ticket? ticket with
  | none => simpa only [Pool.resume, hfind] using h
  | some t =>
    by_cases hdue : t.isDue m.now = true
    · have hid : t.id = ticket := by simpa using List.find?_some hfind
      obtain ⟨w, hwish, htarget, hdeadline⟩ := h.wish t (List.mem_of_find?_eq_some hfind)
      simp only [Pool.resume, hfind, hdue, if_true]
      exact (h.dequeue ticket).attemptUntil hwish htarget hdeadline (hid ▸ id_ne_of_dequeued)
        (hid ▸ hbid) rfl
    · simpa only [Pool.resume, hfind, hdue, Bool.false_eq_true, if_false] using h

/-- A caller looks for an idle connection, and knows afterwards that there is none or has one. -/
private theorem Patient.look (h : Patient asked s) (m : Moment) (ticket : Nat) :
    Patient asked (s.step (.look m ticket)) := by
  simp only [Crowd.step]
  split
  · rename_i t hfind hbid
    rcases hacquire : s.pool.acquire m t.target with ⟨found, q, dead⟩
    have hheeds := Pool.heeds_acquire hacquire
    cases found with
    | some lease => exact (h.heeds hheeds).dequeue ticket
    | none =>
      refine (h.heeds hheeds).rebid ticket .missed fun u hu hid hcalm => ?_
      rw [h.eq_of_spared hheeds hfind hu hid hcalm]
      exact Pool.lacks_of_acquire hacquire
  · exact h

/-- A caller claims a slot, and knows afterwards that there is none or has one. -/
private theorem Patient.claim (h : Patient asked s) (ticket : Nat) :
    Patient asked (s.step (.claim ticket)) := by
  simp only [Crowd.step]
  split
  · rename_i t hfind hbid
    rcases hreserve : s.pool.reserve t.target with ⟨found, q, dead⟩
    have hheeds := Pool.heeds_reserve hreserve
    cases found with
    | some reservation => exact (h.heeds hheeds).dequeue ticket
    | none =>
      refine (h.heeds hheeds).rebid ticket .parked fun u hu hid hcalm => ?_
      have hknows := h.knows u (hheeds.spared hu hcalm).1 hcalm
      rw [hid, hbid] at hknows
      rw [h.eq_of_spared hheeds hfind hu hid hcalm] at hknows ⊢
      exact Pool.shortage_of_reserve hknows hreserve
  · exact h

/-- A caller that goes back to the start of an attempt knows nothing. -/
private theorem Patient.retry (h : Patient asked s) (ticket : Nat) :
    Patient asked (s.step (.retry ticket)) := by
  simp only [Crowd.step]
  split
  · rename_i t hfind
    have hid : t.id = ticket := by simpa using List.find?_some hfind
    obtain ⟨w, hwish, htarget, hdeadline⟩ := h.wish t (List.mem_of_find?_eq_some hfind)
    have hout := (h.dequeue ticket).rebid ticket .entered fun u hu hsame =>
      absurd hsame (id_ne_of_dequeued u hu)
    refine hout.enqueue (t := { t with notified := false }) hwish htarget hdeadline
      (hid ▸ id_ne_of_dequeued) ?_
    simp only [hid, Function.update_self]
    trivial
  · exact h

/-- Every call keeps what is known by those whom it does not wake. -/
theorem Patient.step (h : Patient asked s) (call : Call) :
    Patient (asked ++ call.wish?.toList) (s.step call) := by
  cases call with
  | checkout m target wait =>
    obtain ⟨hbegun, hwish, hnew⟩ := h.begin ⟨target, m.now, wait.getD 0⟩
    have hbid := hbegun.rebid s.pool.nextTicket .parked fun t ht hid => absurd hid (hnew t ht)
    exact hbid.attemptUntil hwish rfl rfl hnew (Function.update_self ..) rfl
  | enter now target wait =>
    obtain ⟨hbegun, hwish, hnew⟩ := h.begin ⟨target, now, wait⟩
    have hbid := hbegun.rebid s.pool.nextTicket .entered fun t ht hid => absurd hid (hnew t ht)
    refine hbid.enqueue hwish rfl rfl hnew ?_
    simp only [Function.update_self]
    trivial
  | acquire m target =>
    rcases hacquire : s.pool.acquire m target with ⟨found, q, dead⟩
    simpa [Crowd.step, Call.wish?, hacquire] using h.heeds (Pool.heeds_acquire hacquire)
  | reserve target =>
    rcases hreserve : s.pool.reserve target with ⟨found, q, dead⟩
    simpa [Crowd.step, Call.wish?, hreserve] using h.heeds (Pool.heeds_reserve hreserve)
  | release m lease =>
    rcases hrelease : s.pool.release m lease with ⟨q, dead⟩
    simpa [Crowd.step, Call.wish?, hrelease] using h.heeds (Pool.heeds_release hrelease)
  | fulfill now reservation transport =>
    simpa [Crowd.step, Call.wish?] using
      h.heeds (Pool.heeds_fulfill s.pool now reservation transport)
  | abandon reservation =>
    simpa [Crowd.step, Call.wish?] using h.heeds (Pool.heeds_abandon s.pool reservation)
  | discard lease =>
    simpa [Crowd.step, Call.wish?] using h.heeds (Pool.heeds_discard s.pool lease)
  | resume m ticket =>
    by_cases hbid : s.bid ticket = .parked
    · simpa [Crowd.step, Call.wish?, hbid] using h.resume m hbid
    · simpa [Crowd.step, Call.wish?, hbid] using h
  | look m ticket => simpa [Call.wish?] using h.look m ticket
  | claim ticket => simpa [Call.wish?] using h.claim ticket
  | retry ticket => simpa [Call.wish?] using h.retry ticket
  | leave ticket => simpa [Crowd.step, Call.wish?] using h.dequeue ticket

/-- The same after any list of calls on a new pool. -/
theorem patient_run (settings : PoolSettings) (calls : List Call) :
    Patient (wishes calls) (Crowd.run { pool := { settings := settings } } calls) := by
  induction calls using List.reverseRecOn with
  | nil => exact ⟨rfl, nofun, List.nodup_nil, nofun⟩
  | append_singleton calls call ih =>
    have hasked : wishes (calls ++ [call]) = wishes calls ++ call.wish?.toList := by
      rw [wishes, List.filterMap_append, List.filterMap_cons, List.filterMap_nil]
      cases call.wish? <;> rfl
    rw [hasked, run, List.foldl_append]
    exact ih.step call

/-- A caller is told that there are too many connections only when its time is over and its last
attempt fails. -/
theorem attempt_of_tooMany {p q : Pool} {m : Moment} {t : Ticket} {dead : List Opened}
    (heq : p.attemptUntil m t = (.tooMany, q, dead)) :
    t.deadline ≤ m.now ∧ (p.attempt m t.target).1 = none := by
  rcases hattempt : p.attempt m t.target with ⟨found, p₁, dead₁⟩
  simp only [Pool.attemptUntil, hattempt] at heq
  cases found with
  | some checkout => simp at heq
  | none =>
    dsimp only at heq
    split at heq
    · rename_i hover
      exact ⟨hover, rfl⟩
    · simp at heq

/-- Whatever was done to a pool, a caller that waits and was not woken finds no idle connection and
no slot at any moment. Who asks and is told that there are too many connections did not want to
wait; who waited is told so only when the time that it wanted to wait is over, and when its attempt
at that moment fails. -/
theorem nobody_waits_in_vain (settings : PoolSettings) (calls : List Call) :
    let s := Crowd.run { pool := { settings := settings } } calls
    (∀ t ∈ s.pool.waiting, s.bid t.id = .parked → t.notified = false → ∀ m : Moment,
      (s.pool.acquire m t.target).1 = none ∧ (s.pool.reserve t.target).1 = none ∧
        (s.pool.attempt m t.target).1 = none) ∧
    (∀ m target wait q dead, s.pool.checkout m target (some wait) = (.tooMany, q, dead) →
      wait = 0 ∧ (s.pool.attempt m target).1 = none) ∧
    ∀ t ∈ s.pool.waiting, ∀ m q dead, s.pool.resume m t.id = (.tooMany, q, dead) →
      ∃ w, (wishes calls)[t.id]? = some w ∧ w.target = t.target ∧ w.since + w.wait ≤ m.now ∧
        (s.pool.attempt m t.target).1 = none := by
  intro s
  have hpatient := patient_run settings calls
  refine ⟨fun t ht hbid hcalm m => ?_, fun m target wait q dead heq => ?_,
    fun t ht m q dead heq => ?_⟩
  · have hknows : (s.bid t.id).Knows s.pool t.target := hpatient.knows t ht hcalm
    have hshortage : s.pool.Shortage t.target := by rwa [hbid] at hknows
    exact ⟨(Pool.acquire_of_shortage m hshortage).1, Pool.reserve_of_shortage hshortage,
      Pool.attempt_of_shortage m hshortage⟩
  · obtain ⟨hover, hfails⟩ := attempt_of_tooMany heq
    refine ⟨?_, (Pool.attempt_congr m target (by rfl)).trans hfails⟩
    exact Nat.add_eq_left.mp (Nat.le_antisymm hover (Nat.le_add_right m.now wait))
  · obtain ⟨w, hwish, htarget, hdeadline⟩ := hpatient.wish t ht
    have hfind : s.pool.ticket? t.id = some t := hpatient.ticket? ht
    simp only [Pool.resume, hfind] at heq
    split at heq
    · obtain ⟨hover, hfails⟩ := attempt_of_tooMany heq
      exact ⟨w, hwish, htarget, hdeadline.trans_le hover,
        (Pool.attempt_congr m t.target (by rfl)).trans hfails⟩
    · simp at heq

/-- A slot taken between the halves of an attempt leaves the caller waiting until it is given
back. -/
example :
    let one : Target := ⟨.http, "one.test", 80⟩
    let two : Target := ⟨.http, "two.test", 80⟩
    let calls : List Call := [.enter 0 two 1000, .look ⟨0, fun _ => true⟩ 0, .reserve one, .claim 0]
    let s := Crowd.run { pool := { settings := { maxConnections := some 1 } } } calls
    s.bid 0 = .parked ∧ s.pool.waiting.map Ticket.notified = [false] ∧
      (s.step (.abandon ⟨one⟩)).pool.waiting.map Ticket.notified = [true] := by
  decide +kernel

end Crowd

end HttpClient
