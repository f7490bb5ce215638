import HttpClient.Proofs.Body.Channel

/-!
# Backpressure

Demand is counted twice: as credits, which the pump takes, and as parts that are outstanding, which
the reader counts down. Each part goes from one count to the next: it is asked for, a credit for it
is taken, an item is read with that credit, and the part is queued and found. So there are never
more parts than were asked for, and as long as the credits were never cut off at their limit the two
counts say the same, and nobody waits for nothing.
-/

namespace HttpClient

namespace Demand

variable {d : Demand}

/-- Interest is not lost by asking. -/
@[simp] theorem isCanceled_request (d : Demand) (n : Nat) :
    (d.request n).isCanceled = d.isCanceled := by
  unfold request
  split <;> rfl

/-- No more credits come of asking than were asked for. -/
theorem credits_request_le (d : Demand) (n : Nat) : (d.request n).credits ≤ d.credits + n := by
  unfold request
  split
  · omega
  · dsimp only
    omega

/-- Asking counts alike in credits and in parts, unless the credits are cut off at their limit. -/
theorem request_cases (hlive : d.isCanceled = false) (n : Nat) :
    maxCredits ≤ (d.request n).credits ∨
      n ≤ maxCredits ∧ (d.request n).credits = d.credits + n ∧
        (d.outstanding + n ≤ maxOutstanding →
          (d.request n).outstanding = d.outstanding + n) := by
  by_cases hzero : n = 0
  · subst hzero
    exact Or.inr ⟨Nat.zero_le _, rfl, fun _ => rfl⟩
  · have hasks : ¬(decide (n = 0) || d.isCanceled) = true := by
      simp only [hzero, hlive, decide_false, Bool.or_self, Bool.false_eq_true, not_false_eq_true]
    unfold request
    rw [if_neg hasks]
    dsimp only
    by_cases hroom : n ≤ maxCredits - d.credits
    · refine Or.inr ⟨by omega, by omega, fun hbound => ?_⟩
      omega
    · exact Or.inl (by omega)

end Demand

namespace Queued

/-- What does not end a body is one part, and nothing is more than one. -/
theorem length_part? (q : Queued) :
    q.part?.toList.length ≤ 1 ∧ (q.isTerminal = false → q.part?.toList.length = 1) := by
  cases q with
  | part p => exact ⟨Nat.le_refl _, fun _ => rfl⟩
  | error e => exact ⟨Nat.zero_le _, nofun⟩

/-- What is queued at the end counts as the part that it is. -/
theorem length_parts_concat (queue : List Queued) (q : Queued) :
    ((queue ++ [q]).filterMap part?).length =
      (queue.filterMap part?).length + q.part?.toList.length := by
  rw [List.filterMap_append, List.length_append]
  cases q <;> rfl

end Queued

namespace Channel

/-- How many credits the pump has taken and not used yet. -/
def held (c : Channel) : Nat := if c.body.phase.isReading then 1 else 0

/-- The accounts of a channel: what was asked for bounds the credits, these bound the items, and
these the parts. -/
structure Metered (c : Channel) : Prop where
  asked : c.taken + c.body.demand.credits ≤ c.asked
  taken : c.items.length + c.held ≤ c.taken
  items : c.emitted.length ≤ c.items.length
  /-- A part that was produced was found or is queued. -/
  parts : c.emitted.length = c.received.length + (c.body.queue.filterMap Queued.part?).length
  /-- While the pump goes on, each credit is held or was used for a part. -/
  exact : c.body.phase ≠ .stopped → c.taken = c.emitted.length + c.held
  /-- While the reader is interested, the credits were cut off at their limit, or all that was asked
  for is there to be taken and to be received. -/
  agreed : c.body.demand.isCanceled = false → c.body.phase ≠ .stopped →
    maxCredits ≤ c.taken + c.body.demand.credits ∨
      c.taken + c.body.demand.credits = c.asked ∧
        c.body.demand.outstanding + c.received.length = c.asked

variable {c : Channel}

theorem Metered.start (b : Body) (inbox : Inbox) : (Channel.start b inbox).Metered where
  asked := Nat.le_refl _
  taken := Nat.le_refl _
  items := Nat.le_refl _
  parts := rfl
  exact _ := rfl
  agreed _ _ := Or.inr ⟨rfl, rfl⟩

/-- The number of parts that can be counted is far above the number of credits. -/
theorem maxCredits_add_le : maxCredits + maxCredits ≤ maxOutstanding := by decide

/-- The accounts agree after a reader has asked for parts. -/
theorem Metered.request (h : c.Metered) (n : Nat) : (c.step (.request n)).Metered where
  asked := by
    have hbound := h.asked
    have hmore := c.body.demand.credits_request_le n
    change c.taken + (c.body.demand.request n).credits ≤ c.asked + n
    omega
  taken := h.taken
  items := h.items
  parts := h.parts
  exact := h.exact
  agreed := by
    intro hlive hopen
    change (c.body.demand.request n).isCanceled = false at hlive
    rw [Demand.isCanceled_request] at hlive
    change maxCredits ≤ c.taken + (c.body.demand.request n).credits ∨
      c.taken + (c.body.demand.request n).credits = c.asked + n ∧
        (c.body.demand.request n).outstanding + c.received.length = c.asked + n
    rcases Demand.request_cases hlive n with hfull | ⟨hn, hcredits, hparts⟩
    · exact Or.inl (by omega)
    · rcases h.agreed hlive hopen with hfull | ⟨hbought, hwaited⟩
      · exact Or.inl (by omega)
      · by_cases hfull : maxCredits ≤ c.asked
        · exact Or.inl (by omega)
        · -- Below the limit of credits the outstanding parts are far from theirs.
          have hroom := maxCredits_add_le
          have hnext := hparts (by omega)
          exact Or.inr ⟨by omega, by omega⟩

theorem Metered.pulled (h : c.Metered) (pull : Bool) : (c.pulled pull).Metered := by
  unfold Channel.pulled
  split
  · exact h.request 1
  · exact h

/-- The accounts agree after a reader has found something. -/
theorem Metered.look {reading : Body.Reading} {next : Body} (h : c.Metered)
    (hlook : c.body.Looked reading next) : (c.look reading next).Metered := by
  have hsilent : reading.part? = none → (c.look reading next).received = c.received := by
    intro hnone
    simp only [received, Channel.look, List.filterMap_append, List.filterMap_cons, hnone,
      List.filterMap_nil, List.append_nil]
  cases hlook with
  | finished | pending =>
    have hsame := hsilent rfl
    exact ⟨h.asked, h.taken, h.items, hsame ▸ h.parts, h.exact, hsame ▸ h.agreed⟩
  | short =>
    have hsame := hsilent rfl
    exact ⟨h.asked, h.taken, h.items, hsame ▸ h.parts, h.exact, hsame ▸ h.agreed⟩
  | @error e rest hin hqueue =>
    have hsame := hsilent rfl
    have hparts := h.parts
    rw [hqueue] at hparts
    exact ⟨h.asked, h.taken, h.items, hsame ▸ hparts, h.exact, hsame ▸ h.agreed⟩
  | @part p rest hin hqueue =>
    have hmore : (c.look (.part p) { c.body with
        demand := c.body.demand.received
        queue := rest
        isDone := p.isLast }).received.length = c.received.length + 1 := by
      simp only [received, Channel.look, List.filterMap_append, List.length_append]
      rfl
    have hparts := h.parts
    rw [hqueue, List.filterMap_cons_some (f := Queued.part?) (b := p) rfl,
      List.length_cons] at hparts
    refine ⟨h.asked, h.taken, h.items, ?_, h.exact, fun hlive hopen => ?_⟩
    · rw [hmore]
      change c.emitted.length = c.received.length + 1 + (rest.filterMap Queued.part?).length
      omega
    · rw [hmore]
      rcases h.agreed hlive hopen with hfull | ⟨hbought, hwaited⟩
      · exact Or.inl hfull
      · -- A part that stands in the queue was asked for and is outstanding still.
        have htaken := h.taken
        have hitems := h.items
        refine Or.inr ⟨hbought, ?_⟩
        change c.body.demand.outstanding - 1 + (c.received.length + 1) = c.asked
        omega

/-- The accounts agree after a turn of the pump. -/
theorem Metered.pump {d : Channel} {now : Nat} {tokenCanceled : Bool} (h : c.Metered)
    (hpump : c.Pumps now tokenCanceled d) : d.Metered := by
  cases hpump with
  | rest => exact h
  | spend hphase hcredit hlive =>
    have hidle : c.held = 0 := by
      rw [held, hphase]
      rfl
    have hopen : c.body.phase ≠ .stopped := by
      rw [hphase]
      nofun
    have hasked := h.asked
    have htaken := h.taken
    have hexact := h.exact hopen
    refine ⟨?_, ?_, h.items, h.parts, fun _ => ?_, fun _ _ => ?_⟩
    · change c.taken + 1 + (c.body.demand.credits - 1) ≤ c.asked
      omega
    · change c.items.length + 1 ≤ c.taken + 1
      omega
    · change c.taken + 1 = c.emitted.length + 1
      omega
    · rcases h.agreed hlive hopen with hfull | ⟨hbought, hwaited⟩
      · refine Or.inl ?_
        change maxCredits ≤ c.taken + 1 + (c.body.demand.credits - 1)
        omega
      · refine Or.inr ⟨?_, hwaited⟩
        change c.taken + 1 + (c.body.demand.credits - 1) = c.asked
        omega
  | @take limit item left hphase hread hlive =>
    have hheld : c.held = 1 := by
      rw [held, hphase]
      rfl
    have hopen : c.body.phase ≠ .stopped := by
      rw [hphase]
      nofun
    have htaken := h.taken
    have hitems := h.items
    have hparts := h.parts
    have hexact := h.exact hopen
    generalize Queued.ofItem c.body.url item = queued
    -- An error counts as no part, and everything else as one.
    obtain ⟨hcount, hpart⟩ := queued.length_part?
    have hrests : ∀ phase : PumpPhase,
        phase = (if queued.isTerminal then .stopped else .awaitingCredit) →
        (if phase.isReading then 1 else 0) = 0 := by
      intro phase hnext
      subst hnext
      split <;> rfl
    refine ⟨h.asked, ?_, ?_, ?_, fun hon => ?_, fun _ _ => h.agreed hlive hopen⟩
    · simp only [held, hrests _ rfl, List.length_append, List.length_singleton]
      omega
    · simp only [emitted, Queued.length_parts_concat, List.length_append,
        List.length_singleton] at hitems ⊢
      omega
    · simp only [emitted, Queued.length_parts_concat, received] at hparts ⊢
      omega
    · have hgoes : queued.isTerminal = false := by
        rw [← Bool.not_eq_true]
        exact fun hterminal => hon ((Queued.stops_iff _).mpr hterminal)
      have hone := hpart hgoes
      simp only [emitted] at hexact
      simp only [emitted, Queued.length_parts_concat, held, hrests _ rfl]
      omega
  | @stop left e hopen hwhy hleft =>
    have htaken := h.taken
    have hparts := h.parts
    have hsent : ∀ queue : List Queued, ((queue ++ if c.body.demand.isCanceled then []
        else [Queued.error (e.withUrl c.body.url)]).filterMap Queued.part?) =
        queue.filterMap Queued.part? := by
      intro queue
      rw [List.filterMap_append]
      split <;> exact List.append_nil _
    have hqueue : (c.body.fail e).1.queue = c.body.queue ++
        if c.body.demand.isCanceled then [] else [Queued.error (e.withUrl c.body.url)] := by
      simp only [Body.fail]
      split
      · rw [List.append_nil]
      · rfl
    refine ⟨h.asked, ?_, ?_, ?_, fun hon => absurd rfl hon, fun _ hon => absurd rfl hon⟩
    · change c.items.length + 0 ≤ c.taken
      omega
    · simp only [emitted, hsent]
      exact h.items
    · simp only [emitted, hsent, hqueue]
      exact hparts

/-- The accounts agree after every event. -/
theorem Metered.step (h : c.Metered) (event : BodyEvent) : (c.step event).Metered := by
  cases event with
  | arrive arrival => exact ⟨h.asked, h.taken, h.items, h.parts, h.exact, h.agreed⟩
  | request n => exact h.request n
  | cancel => exact ⟨h.asked, h.taken, h.items, h.parts, h.exact, fun hlive => by cases hlive⟩
  | read pull =>
    obtain ⟨hlook, heq⟩ := c.step_read pull
    rw [heq]
    exact (h.pulled pull).look hlook
  | pump now tokenCanceled => exact h.pump (c.pumps_step now tokenCanceled)

/-- The accounts agree after any number of events. -/
theorem Metered.run (h : c.Metered) (events : List BodyEvent) : (c.run events).Metered := by
  induction events generalizing c with
  | nil => exact h
  | cons event events ih => exact ih (h.step event)

/-- While a reader waits for parts there is one for it, or the pump has a credit or can take one. -/
theorem Metered.ready (h : c.Metered) (hlive : c.body.demand.isCanceled = false)
    (hopen : c.body.phase ≠ .stopped) (hfew : c.emitted.length < maxCredits)
    (hwaits : 0 < c.body.demand.outstanding) :
    (∃ part, .part part ∈ c.body.queue) ∨ c.body.phase.isReading = true ∨
      0 < c.body.demand.credits := by
  by_cases hreads : c.body.phase.isReading = true
  · exact Or.inr (Or.inl hreads)
  · by_cases hcredit : 0 < c.body.demand.credits
    · exact Or.inr (Or.inr hcredit)
    · -- All credits became parts, so what is outstanding is in the queue.
      have hidle : c.held = 0 := if_neg hreads
      have hexact := h.exact hopen
      have hparts := h.parts
      have hqueued : 0 < (c.body.queue.filterMap Queued.part?).length := by
        rcases h.agreed hlive hopen with hfull | ⟨hbought, hwaited⟩ <;> omega
      obtain ⟨part, hmem⟩ := List.exists_mem_of_length_pos hqueued
      obtain ⟨queued, hqueue, hpart⟩ := List.mem_filterMap.mp hmem
      refine Or.inl ⟨part, ?_⟩
      cases queued with
      | part p =>
        obtain rfl := Option.some.inj hpart
        exact hqueue
      | error e => cases hpart

/-- Only what arrives and a pump with a credit change what has arrived and was not read. -/
theorem inbox_step {event : BodyEvent} (hchanges : (c.step event).inbox ≠ c.inbox) :
    (∃ arrival, event = .arrive arrival) ∨ c.body.phase.isReading = true := by
  cases event with
  | arrive arrival => exact Or.inl ⟨arrival, rfl⟩
  | request | cancel | read => exact absurd rfl hchanges
  | pump now tokenCanceled =>
    have hpump := c.pumps_step now tokenCanceled
    generalize c.step (.pump now tokenCanceled) = d at hpump hchanges
    cases hpump with
    | rest | spend => exact absurd rfl hchanges
    | take hphase =>
      rw [hphase]
      exact Or.inr rfl
    | stop e hopen hwhy hleft => exact hleft.imp_left fun hsame => absurd hsame hchanges

/-- A reader that pulls waits for a part at least. -/
theorem outstanding_pulled (hin : (c.pulled true).body.isOut = false) :
    0 < (c.pulled true).body.demand.outstanding := by
  unfold pulled at hin ⊢
  by_cases hasks : (!c.body.isOut && true && c.body.demand.outstanding = 0) = true
  · rw [if_pos hasks] at hin ⊢
    have hlive : c.body.demand.isCanceled = false := by
      simp only [Bool.and_eq_true, Bool.not_eq_true', Body.isOut, Bool.or_eq_false_iff] at hasks
      exact hasks.1.1.2
    change 0 < (c.body.demand.request 1).outstanding
    have hroom := maxCredits_add_le
    have hlimit : 0 < maxCredits := by decide
    simp only [Demand.request, hlive, Nat.one_ne_zero, decide_false, Bool.or_self,
      Bool.false_eq_true, if_false]
    omega
  · rw [if_neg hasks] at hin ⊢
    simp only [hin, Bool.not_false, Bool.true_and, decide_eq_true_eq] at hasks
    omega

/-- A reader that finds nothing yet is interested still, and the pump goes on. -/
theorem of_pending {pull : Bool} (hpending : (c.body.read pull).1 = .pending) :
    c.step (.read pull) = (c.pulled pull).look .pending (c.pulled pull).body ∧
      (c.pulled pull).body.isOut = false ∧ (c.pulled pull).body.queue = [] ∧
      (c.pulled pull).body.phase ≠ .stopped := by
  obtain ⟨hlook, heq⟩ := c.step_read pull
  rw [hpending] at hlook heq
  generalize (c.body.read pull).2 = next at hlook heq
  cases hlook with
  | pending hin hqueue hphase => exact ⟨heq, hin, hqueue, hphase⟩

/-- No part without demand, and no demand without progress. Whatever happens to a body: there are
never more parts than were asked for, and an item is read only with a credit of its own. While the
reader is interested and the pump goes on, demand that is outstanding has a part in the queue, or
the pump has a credit, or one can be taken; so where a reader waits for a part, the pump never waits
for demand. The limit of credits is the only condition. -/
theorem parts_meet_demand (b : Body) (inbox : Inbox) (events : List BodyEvent) :
    let c := (start b inbox).run events
    c.emitted.length ≤ c.asked ∧
      (c.items.length + c.held ≤ c.taken ∧ c.taken ≤ c.asked) ∧
      (∀ event, (c.step event).inbox ≠ c.inbox →
        (∃ arrival, event = .arrive arrival) ∨ c.body.phase.isReading = true) ∧
      (c.body.demand.isCanceled = false → c.body.phase ≠ .stopped →
        c.emitted.length < maxCredits →
        (0 < c.body.demand.outstanding →
          (∃ part, .part part ∈ c.body.queue) ∨ c.body.phase.isReading = true ∨
            0 < c.body.demand.credits) ∧
        ∀ pull, (c.body.read pull).1 = .pending → pull = true ∨ 0 < c.body.demand.outstanding →
          0 < (c.step (.read pull)).body.demand.outstanding ∧
            ((c.step (.read pull)).body.phase.isReading = true ∨
              ∀ now tokenCanceled inbox,
                ((c.step (.read pull)).body.pump now tokenCanceled inbox).isSome = true)) := by
  intro c
  have hmetered : c.Metered := (Metered.start b inbox).run events
  have hasked := hmetered.asked
  have htaken := hmetered.taken
  have hitems := hmetered.items
  refine ⟨by omega, ⟨htaken, by omega⟩, fun event => inbox_step, fun hlive hopen hfew => ?_⟩
  refine ⟨hmetered.ready hlive hopen hfew, fun pull hpending hwaits => ?_⟩
  obtain ⟨heq, hin, hqueue, hgoes⟩ := of_pending hpending
  have hwaits : 0 < (c.pulled pull).body.demand.outstanding := by
    cases pull with
    | true => exact outstanding_pulled hin
    | false =>
      have hsame : c.pulled false = c := if_neg (by simp)
      rw [hsame]
      exact hwaits.resolve_left nofun
  have hcalm : (c.pulled pull).body.demand.isCanceled = false := (Bool.or_eq_false_iff.mp hin).2
  have hfew : (c.pulled pull).emitted.length < maxCredits := by
    have hsame : (c.pulled pull).emitted = c.emitted := by
      unfold pulled
      split <;> rfl
    rwa [hsame]
  rw [heq]
  refine ⟨hwaits, ?_⟩
  rcases (hmetered.pulled pull).ready hcalm hgoes hfew hwaits with ⟨part, hmem⟩ | hreads | hcredit
  · rw [hqueue] at hmem
    exact absurd hmem List.not_mem_nil
  · exact Or.inl hreads
  · cases hphase : (c.pulled pull).body.phase with
    | stopped => exact absurd hphase hgoes
    | awaitingCredit => exact Or.inr (Body.pump_of_credit hphase hcredit)
    | reading limit => exact Or.inl (congrArg PumpPhase.isReading hphase)

end Channel

end HttpClient
