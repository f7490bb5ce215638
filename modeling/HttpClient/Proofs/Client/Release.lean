import HttpClient.Proofs.Client.Connections
import HttpClient.Proofs.Client.Fates
import HttpClient.Proofs.Pool.Accounts

/-!
# Nothing is leaked

Whatever an exchange has, a connection or a slot, is in exactly one place, and the pool counts it.
An exchange that has ended has nothing: it gave back what it had with its end, and the pump of its
body gave back the connection when it stopped. So once all have ended nothing is in use, and no slot
is held but for idle connections.
-/

namespace HttpClient

/-- The connections of a phase. -/
def Phase.leases : Phase → List Lease
  | sending l _ | draining l _ _ _ => [l]
  | answered _ body => body.lease.toList
  | _ => []

/-- The slots of a phase for which no connection was opened yet. -/
def Phase.reservations : Phase → List Reservation
  | dialing r _ _ => [r]
  | _ => []

/-- True where there is no response to come, and no body of which the pump still reads. -/
def Phase.hasEnded : Phase → Bool
  | answered _ body => body.phase = .stopped
  | failed _ | dropped => true
  | _ => false

theorem Phase.leases_eq (p : Phase) : p.leases = p.place.lease?.toList := by
  cases p with
  | answered head body =>
    simp only [leases, place]
    cases body.lease <;> rfl
  | _ => rfl

theorem Phase.reservations_eq (p : Phase) : p.reservations = p.place.reservation?.toList := by
  cases p with
  | answered head body =>
    simp only [reservations, place]
    cases body.lease <;> rfl
  | _ => rfl

/-- True when the pump of a body stops with its next turn, if it has not stopped yet. -/
def Body.isHalted (b : Body) (s : Shared) : Bool :=
  b.demand.isCanceled || s.isCanceled b.token ||
    b.timesOut s.now ((b.lease.map s.inbox).getD {})

/-- A turn of the pump after which it has stopped. -/
theorem Body.pump_of_halted {b : Body} {now : Nat} {tokenCanceled : Bool} {inbox : Inbox}
    (hopen : b.phase ≠ .stopped)
    (hhalted : (b.demand.isCanceled || tokenCanceled || b.timesOut now inbox) = true) :
    ∃ next effect left, b.pump now tokenCanceled inbox = some ((next, effect), left) ∧
      next.phase = .stopped := by
  have hfail : ∀ (e : Error) (left : Inbox), ∃ next effect rest,
      some (b.fail e, left) = some ((next, effect), rest) ∧ next.phase = .stopped :=
    fun e left => ⟨(b.fail e).1, (b.fail e).2, left, rfl, rfl⟩
  unfold pump
  by_cases hcanceled : (b.demand.isCanceled || tokenCanceled) = true
  · cases hphase : b.phase with
    | stopped => exact absurd hphase hopen
    | awaitingCredit | reading limit =>
      simp only [hcanceled, if_true]
      exact hfail _ _
  · rw [Bool.not_eq_true] at hcanceled
    rw [hcanceled, Bool.false_or] at hhalted
    unfold timesOut at hhalted
    cases hphase : b.phase with
    | stopped => exact absurd hphase hopen
    | awaitingCredit =>
      simp only [hphase, Bool.and_eq_true, decide_eq_true_eq] at hhalted
      simp only [hcanceled, hhalted.1, hhalted.2, Nat.lt_irrefl, Bool.false_eq_true, if_false,
        if_true]
      exact hfail _ _
    | reading limit =>
      simp only [hphase] at hhalted
      by_cases hlate : isOver b.deadline now = true
      · simp only [hcanceled, hlate, Bool.false_eq_true, if_false, if_true]
        exact hfail _ _
      · rw [Bool.not_eq_true] at hlate
        rw [hlate, Bool.false_or, Bool.and_eq_true, Option.isNone_iff_eq_none] at hhalted
        rcases hread : inbox.read with ⟨found, left⟩
        rw [hread] at hhalted
        obtain rfl : found = none := hhalted.1
        simp only [hcanceled, hlate, hhalted.2, Bool.false_eq_true, if_false, if_true]
        exact hfail _ _

namespace Exchange

/-- The connections that an exchange has between its steps, with that of its body. -/
def leases (x : Exchange) : List Lease := x.held.toList ++ x.phase.leases

/-- How much an exchange has while its step has something in hand. -/
def owned (x : Exchange) (h : Hand) : Nat :=
  (h.lease?.toList ++ x.leases).length + x.phase.reservations.length

/-- True when an exchange has ended, and the pump of its body has. -/
def hasEnded (x : Exchange) : Bool := x.phase.hasEnded

/-- Nothing has happened to the body of a response but what can happen to a body. -/
def IsSettled (x : Exchange) : Prop := ∀ b, x.body? = some b → b.Settled

variable {x y : Exchange} {s t : Shared} {h : Hand}

/-- What an exchange has between its steps. -/
theorem leases_eq (htidy : x.Tidy .empty) :
    x.leases = (x.place .empty).lease?.toList ∧
      x.phase.reservations = (x.place .empty).reservation?.toList := by
  rw [leases, x.phase.leases_eq, x.phase.reservations_eq]
  cases hheld : x.held with
  | some l =>
    have hphase : x.phase = .resting := (htidy.held (by rw [hheld]; rfl)).1
    simp only [place, hheld, hphase]
    exact ⟨rfl, rfl⟩
  | none =>
    rw [place_of_held hheld]
    exact ⟨rfl, rfl⟩

/-- Also in the midst of a step an exchange has one connection or one slot at most. -/
theorem owned_le_one (htidy : x.Tidy h) : x.owned h ≤ 1 := by
  have hplace : ∀ p : Place, p.lease?.toList.length + p.reservation?.toList.length ≤ 1 := by
    intro p
    cases p <;> exact Nat.le_of_ble_eq_true rfl
  unfold owned
  cases hhand : h.lease? with
  | none =>
    have hempty : h = .empty := by
      cases h with
      | empty => rfl
      | ready | rested | spent => cases hhand
    rw [hempty] at htidy
    obtain ⟨hleases, hreservations⟩ := leases_eq htidy
    rw [hleases, hreservations]
    exact hplace _
  | some l =>
    have hbare := htidy.bare_of_hand hhand
    rw [leases, htidy.held_of_hand hhand, Phase.leases_eq, Phase.reservations_eq, hbare]
    exact Nat.le_refl 1

/-- An exchange that has ended has nothing. -/
theorem nothing_of_hasEnded (htidy : x.Tidy .empty) (hsettled : x.IsSettled)
    (hended : x.hasEnded = true) : x.leases = [] ∧ x.phase.reservations = [] := by
  have hheld : x.held = none := by
    refine htidy.held_of_phase rfl ?_
    rw [hasEnded] at hended
    cases hphase : x.phase with
    | resting =>
      rw [hphase] at hended
      cases hended
    | _ => rfl
  rw [leases, hheld]
  rw [hasEnded] at hended
  cases hphase : x.phase with
  | answered head body =>
    rw [hphase] at hended
    have hbody : x.body? = some body := by rw [body?, hphase]
    have hlease := (hsettled body hbody).lease (of_decide_eq_true hended)
    rw [Phase.leases, hlease]
    exact ⟨rfl, rfl⟩
  | failed | dropped => exact ⟨rfl, rfl⟩
  | resting | waiting | dialing | sending | draining =>
    rw [hphase] at hended
    cases hended

/-- A step leads to no body, or to one to which nothing has happened. -/
theorem settled_step (hstep : x.step s = some (y, t)) : y.IsSettled := by
  intro b hbody
  rw [← untouched_of_step hstep b hbody]
  exact .fresh b

/-- Without a step of its own an exchange has a body that went on, or none. -/
theorem settled_rests (hrests : x.Rests y) (hsettled : x.IsSettled) : y.IsSettled := by
  intro b hbody
  cases hrests with
  | quiet hcourse hsame =>
    rw [body?, hsame] at hbody
    exact hsettled b hbody
  | body hcourse hbefore hevolves hnext =>
    rw [body?, hnext] at hbody
    rw [← Option.some.inj hbody]
    exact (hsettled _ (by rw [body?, hbefore])).evolves hevolves
  | drop hcourse hrunning hnext =>
    rw [body?, hnext] at hbody
    cases hbody

/-- A reader that has come to the end of a body finds that its pump has stopped. -/
theorem hasEnded_of_done {b : Body} (hsettled : x.IsSettled) (hbody : x.body? = some b)
    (hdone : b.isDone = true) : x.hasEnded = true := by
  have hstopped := (hsettled b hbody).done hdone
  unfold body? at hbody
  split at hbody
  · rename_i head body hphase
    rw [hasEnded, hphase, Option.some.inj hbody]
    exact decide_eq_true hstopped
  · cases hbody

end Exchange

namespace Client

open Exchange

variable {c : Client} {id : ExchangeId} {x : Exchange} {settings : Settings} {supply : Supply}

/-- Nothing has happened to any body but what can happen to one. -/
def IsSettled (c : Client) : Prop := ∀ id x, c.exchange? id = some x → x.IsSettled

theorem IsSettled.step (h : c.IsSettled) (event : Event) : (c.step event).IsSettled := by
  intro id y hy
  cases hx : c.exchange? id with
  | none =>
    obtain ⟨request, consumer, -, -, delivery, rfl⟩ := submitted_of_step hx hy
    exact fun b hbody => nomatch hbody
  | some x =>
    obtain ⟨z, hz, hfares⟩ := fares_step hx event
    obtain rfl := Option.some.inj (hz.symm.trans hy)
    cases hfares with
    | step hevent hstep => exact settled_step hstep
    | rest hidle hrests => exact settled_rests hrests (h id x hx)

theorem IsSettled.run (h : c.IsSettled) (events : List Event) : (c.run events).IsSettled := by
  induction events generalizing c with
  | nil => exact h
  | cons event events ih => exact ih (h.step event)

/-- True when an exchange is there that has ended. -/
def IsOver (c : Client) (id : ExchangeId) : Prop :=
  ∃ x, c.exchange? id = some x ∧ x.hasEnded = true

/-- However far an exchange is, it ends when it should. -/
structure CanEnd (c : Client) (id : ExchangeId) (x : Exchange) : Prop where
  /-- Nobody is interested any more, and the pump of a body notices. -/
  drop : (c.run [.drop id, .run (.pump id)]).IsOver id
  /-- The request is canceled, or its time is over. -/
  cut : x.isRunning = true → x.isCut c.shared = true → (c.step (.run (.exchange id))).IsOver id
  /-- The body is canceled, or the time for it is over. -/
  halt : ∀ b, x.body? = some b → b.isHalted c.shared = true →
    (c.step (.run (.pump id))).IsOver id
  /-- The reader took the last part or an error. -/
  done : ∀ b, x.body? = some b → b.isDone = true → x.hasEnded = true

/-- An exchange that was cut short ends with its next step. -/
theorem over_of_cut (hx : c.exchange? id = some x) (hrunning : x.isRunning = true)
    (hcut : x.isCut c.shared = true) : (c.step (.run (.exchange id))).IsOver id := by
  have hstep := step_of_cut hrunning hcut
  exact ⟨_, c.exchange?_run_of_turn (.exchange id) hx hstep, rfl⟩

/-- Of an exchange that has ended no pump does anything. -/
theorem pumpStep_of_hasEnded (hended : x.hasEnded = true) : x.pumpStep c.shared = none := by
  rw [hasEnded] at hended
  cases hphase : x.phase with
  | answered head body =>
    rw [hphase] at hended
    have hstopped : body.phase = .stopped := of_decide_eq_true hended
    simp only [pumpStep, hphase, Body.pump, hstopped]
  | _ => simp only [pumpStep, hphase]

/-- After a turn of its pump an exchange has ended if it had, or if its body was given up. -/
theorem over_of_pump (hx : c.exchange? id = some x)
    (hwhy : x.hasEnded = true ∨ ∃ b, x.body? = some b ∧ b.isHalted c.shared = true) :
    (c.step (.run (.pump id))).IsOver id := by
  by_cases hended : x.hasEnded = true
  · rw [c.step_run_of_wait (.pump id) hx (pumpStep_of_hasEnded hended)]
    exact ⟨x, hx, hended⟩
  · obtain ⟨b, hbody, hhalted⟩ := hwhy.resolve_left hended
    unfold Exchange.body? at hbody
    split at hbody
    · rename_i head body hphase
      obtain rfl := Option.some.inj hbody
      have hopen : body.phase ≠ .stopped := by
        rintro hstopped
        rw [hasEnded, hphase] at hended
        exact hended (decide_eq_true hstopped)
      unfold Body.isHalted at hhalted
      obtain ⟨next, effect, left, hpump, hnext⟩ := Body.pump_of_halted hopen hhalted
      have hturn : ∃ y t, x.pumpStep c.shared = some (y, t) ∧ y.phase = .answered head next := by
        simp only [pumpStep, hphase, hpump]
        exact ⟨_, _, rfl, rfl⟩
      obtain ⟨y, t, hstep, hanswered⟩ := hturn
      refine ⟨y, c.exchange?_run_of_turn (.pump id) hx hstep, ?_⟩
      rw [hasEnded, hanswered]
      exact decide_eq_true hnext
    · cases hbody

/-- An exchange in which nobody is interested has ended, but for a body that was given up. -/
theorem drop_cases (hsettled : x.IsSettled) (s : Shared) :
    (x.drop s).1.hasEnded = true ∨
      ∃ b, (x.drop s).1.body? = some b ∧ b.demand.isCanceled = true := by
  unfold Exchange.drop
  split
  · exact Or.inl rfl
  · rename_i hrunning
    cases hphase : x.phase with
    | answered head body =>
      by_cases hdone : body.isDone = true
      · left
        have hbody : x.body? = some body := by rw [Exchange.body?, hphase]
        have hstopped := (hsettled body hbody).done hdone
        simp only [hasEnded, Exchange.updateBody, hphase, Body.drop, if_pos hdone]
        exact decide_eq_true hstopped
      · right
        simp only [Exchange.body?, Exchange.updateBody, hphase, Body.drop, if_neg hdone]
        exact ⟨_, rfl, rfl⟩
    | failed | dropped =>
      left
      simp only [hasEnded, Exchange.updateBody, hphase]
      rfl
    | resting | waiting | dialing | sending | draining =>
      exact absurd (by rw [isRunning, hphase]) hrunning

/-- Where nobody is interested any more, an exchange has ended after a turn of the pump. -/
theorem over_of_drop (hx : c.exchange? id = some x) (hsettled : x.IsSettled) :
    (c.run [.drop id, .run (.pump id)]).IsOver id := by
  have hdrop : c.step (.drop id) = c.put id (x.drop c.shared).1 (x.drop c.shared).2 := by
    simp only [step, hx]
  have hrun : c.run [.drop id, .run (.pump id)] = (c.step (.drop id)).step (.run (.pump id)) := rfl
  rw [hrun, hdrop]
  refine over_of_pump (exchange?_put_self hx) ?_
  rcases drop_cases hsettled c.shared with hended | ⟨b, hbody, hcanceled⟩
  · exact Or.inl hended
  · refine Or.inr ⟨b, hbody, ?_⟩
    rw [Body.isHalted, hcanceled, Bool.true_or, Bool.true_or]

theorem IsSettled.canEnd (h : c.IsSettled) (hx : c.exchange? id = some x) : c.CanEnd id x where
  drop := over_of_drop hx (h id x hx)
  cut := over_of_cut hx
  halt := fun b hbody hhalted => over_of_pump hx (Or.inr ⟨b, hbody, hhalted⟩)
  done := fun _ => hasEnded_of_done (h id x hx)

/-- The pool counts what its exchanges have. -/
structure Counts (c : Client) : Prop where
  inUse : c.shared.pool.inUse = (c.exchanges.flatMap Exchange.leases).length
  total : c.shared.pool.total = c.shared.pool.idle.length +
    (c.exchanges.flatMap Exchange.leases).length +
      (c.exchanges.flatMap (·.phase.reservations)).length
  slots : c.shared.pool.slots.Perm (c.shared.pool.idle.map (·.target) ++
    (c.exchanges.flatMap Exchange.leases).map (·.target) ++
      (c.exchanges.flatMap (·.phase.reservations)).map (·.target))

/-- Nothing is out but idle connections. -/
structure IsAtRest (c : Client) : Prop where
  inUse : c.shared.pool.inUse = 0
  reservations : ∀ x ∈ c.exchanges, x.phase.reservations = []
  total : c.shared.pool.total = c.shared.pool.idle.length
  slots : c.shared.pool.slots.Perm (c.shared.pool.idle.map (·.target))

/-- What exchanges have between their steps, in two ways. -/
theorem filterMap_places {α : Type} {f : Place → Option α} {g : Exchange → List α}
    {xs : List Exchange} (h : ∀ x ∈ xs, g x = (f (x.place .empty)).toList) :
    ((xs.map (·.place .empty) : List Place) : Multiset Place).filterMap f =
      (xs.flatMap g : List α) := by
  rw [Multiset.filterMap_coe, List.filterMap_map, List.filterMap_eq_flatMap_toList]
  exact congrArg _ (List.flatMap_congr fun x hx => (h x hx).symm)

/-- The pool counts what the exchanges of a sound client have. -/
theorem counts_of_sound {j : Journal} (hsound : Snapshot.Sound settings.pool ⟨c, 0, .empty, j⟩) :
    c.Counts := by
  obtain ⟨hall, -, gone, opened, hmoves, -⟩ :=
    (Snapshot.sound_idle_iff settings.pool c 0 j).mp hsound
  have hbalanced := (Custody.balanced_fresh settings.pool).moves hmoves
  rw [custodyOf, filterMap_places fun x hx => (leases_eq (hall x hx).1).1,
    filterMap_places fun x hx => (leases_eq (hall x hx).1).2] at hbalanced
  refine ⟨hbalanced.inUse, hbalanced.total_eq, ?_⟩
  have hslots := hbalanced.slots
  simp only [Multiset.map_coe, Multiset.coe_add, Multiset.coe_eq_coe] at hslots
  exact hslots

/-- Once all exchanges have ended nothing is out. -/
theorem Counts.atRest (hcounts : c.Counts)
    (hnone : ∀ x ∈ c.exchanges, x.leases = [] ∧ x.phase.reservations = []) : c.IsAtRest := by
  have hleases : c.exchanges.flatMap Exchange.leases = [] :=
    List.flatMap_eq_nil_iff.mpr fun x hx => (hnone x hx).1
  have hreservations : c.exchanges.flatMap (·.phase.reservations) = [] :=
    List.flatMap_eq_nil_iff.mpr fun x hx => (hnone x hx).2
  obtain ⟨hinUse, htotal, hslots⟩ := hcounts
  rw [hleases] at hinUse htotal hslots
  rw [hreservations] at htotal hslots
  refine ⟨hinUse, fun x hx => (hnone x hx).2, htotal, ?_⟩
  simpa only [List.map_nil, List.append_nil] using hslots

/-- Nothing is leaked, whatever happens to a client. At any time, also in the midst of a step, an
exchange has one connection or one slot at most, with its body, and the pool counts what all of them
have. Once all have ended nothing is in use, no slot is kept for a connection to come, and all
others are those of idle connections. And wherever an exchange is, it ends when it is dropped, cut
short or read to its end. -/
theorem nothing_leaks (settings : Settings) (supply : Supply) :
    (∀ a id x, Snapshot.Reachable settings supply a → a.client.exchange? id = some x →
      x.owned (a.handOf id) ≤ 1) ∧
    ∀ events : List Event,
      (∀ x ∈ ((make settings supply).run events).exchanges, x.owned .empty ≤ 1) ∧
      ((make settings supply).run events).Counts ∧
      ((∀ x ∈ ((make settings supply).run events).exchanges, x.hasEnded = true) →
        ((make settings supply).run events).IsAtRest) ∧
      ∀ id x, ((make settings supply).run events).exchange? id = some x →
        ((make settings supply).run events).CanEnd id x := by
  refine ⟨fun a id x ha hx => owned_le_one (ha.sound.tidy id x hx), fun events => ?_⟩
  have hsettled : ((make settings supply).run events).IsSettled :=
    IsSettled.run (fun id x hx => by simp [make, exchange?] at hx) events
  have hsound := (Snapshot.reachable_run settings supply events).sound
  have hcounts := counts_of_sound hsound
  obtain ⟨hall, -⟩ := (Snapshot.sound_idle_iff ..).mp hsound
  generalize (make settings supply).run events = c at *
  refine ⟨fun x hx => owned_le_one (hall x hx).1, hcounts, fun hended => ?_,
    fun id x hx => hsettled.canEnd hx⟩
  refine hcounts.atRest fun x hx => ?_
  obtain ⟨id, hid⟩ := List.mem_iff_getElem?.mp hx
  exact nothing_of_hasEnded (hall x hx).1 (hsettled id x hid) (hended x hx)

end Client

end HttpClient
