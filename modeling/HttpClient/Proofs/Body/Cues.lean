import HttpClient.Proofs.Body.Backpressure

/-!
# Cues

What passes between a delivery and its consumer is a log of cues: the calls that are made, and the
demand and the loss of interest that the consumer signals, in its calls or from elsewhere. The calls
follow a protocol, and each part in the log was asked for before it: what was given, what is queued
for the consumer and what the pump may still read is together no more than what was asked for.
-/

namespace HttpClient

/-- Something that passes between a delivery and its consumer. -/
inductive Cue
  | told (callback : Callback)
  | signal (call : DemandCall)

/-- The part that a consumer is given in a call. -/
def Callback.part? : Callback → Option Part
  | part p => some p
  | _ => none

/-- What a delivery took from the queue for a call. -/
def Callback.taken? : Callback → Option Queued
  | part p => some (.part p)
  | error e => some (.error e)
  | subscribe | complete => none

namespace Cue

/-- The call that is made. -/
def told? : Cue → Option Callback
  | told callback => some callback
  | signal _ => none

/-- How many parts a consumer has asked for before it lost interest. -/
def demanded : List Cue → Nat
  | [] => 0
  | .told _ :: rest => demanded rest
  | .signal (.request n) :: rest => n + demanded rest
  | .signal .cancel :: _ => 0

/-- How many parts a consumer was given. -/
def given (cues : List Cue) : Nat :=
  (cues.filterMap fun cue => cue.told?.bind Callback.part?).length

/-- Every part was asked for before it is given. -/
def IsMeasured (cues : List Cue) : Prop :=
  ∀ front part rest, cues = front ++ .told (.part part) :: rest → given front < demanded front

variable {cues : List Cue}

/-- Calls signal no demand. -/
@[simp] theorem demanded_told (cues : List Cue) (callback : Callback) :
    demanded (cues ++ [.told callback]) = demanded cues := by
  induction cues with
  | nil => rfl
  | cons cue cues ih =>
    rcases cue with callback | n | _
    · exact ih
    · exact congrArg (n + ·) ih
    · rfl

/-- Demand adds up as long as a consumer is interested. -/
theorem demanded_request (hlive : .signal .cancel ∉ cues) (n : Nat) :
    demanded (cues ++ [.signal (.request n)]) = demanded cues + n := by
  induction cues with
  | nil => exact Nat.add_comm n 0
  | cons cue cues ih =>
    have hrest := ih fun hmem => hlive (List.mem_cons_of_mem _ hmem)
    rcases cue with callback | m | _
    · exact hrest
    · rw [List.cons_append, demanded, hrest, demanded, Nat.add_assoc]
    · exact absurd List.mem_cons_self hlive

/-- Demand is never taken back. -/
theorem demanded_signal_ge (cues : List Cue) (call : DemandCall) :
    demanded cues ≤ demanded (cues ++ [.signal call]) := by
  induction cues with
  | nil => exact Nat.zero_le _
  | cons cue cues ih =>
    rcases cue with callback | n | _
    · exact ih
    · exact Nat.add_le_add_left ih n
    · exact Nat.le_refl _

/-- Interest is lost when it is signaled. -/
theorem cancel_mem_concat {cue : Cue} (hne : cue ≠ .signal .cancel) :
    .signal .cancel ∈ cues ++ [cue] ↔ .signal .cancel ∈ cues := by
  rw [List.mem_append, List.mem_singleton]
  exact or_iff_left hne.symm

@[simp] theorem given_append (cues later : List Cue) :
    given (cues ++ later) = given cues + given later := by
  rw [given, List.filterMap_append, List.length_append, given, given]

theorem isMeasured_nil : IsMeasured [] := by
  intro front part rest hsplit
  simp at hsplit

/-- The last cue is in order with those before it, and so are all. -/
private theorem IsMeasured.concat (h : IsMeasured cues) {cue : Cue}
    (hlast : ∀ part, cue = .told (.part part) → given cues < demanded cues) :
    IsMeasured (cues ++ [cue]) := by
  intro front part rest hsplit
  rcases List.eq_nil_or_concat rest with rfl | ⟨later, last, rfl⟩
  · obtain ⟨rfl, heq⟩ := List.append_inj' hsplit rfl
    exact hlast part (List.singleton_inj.mp heq)
  · rw [List.concat_eq_append, ← List.cons_append, ← List.append_assoc] at hsplit
    exact h front part later (List.append_inj' hsplit rfl).1

theorem IsMeasured.signals (h : IsMeasured cues) (calls : List DemandCall) :
    IsMeasured (cues ++ calls.map .signal) := by
  induction calls generalizing cues with
  | nil => rwa [List.map_nil, List.append_nil]
  | cons call calls ih =>
    rw [List.map_cons, List.append_cons]
    exact ih (h.concat fun _ heq => by cases heq)

/-- A call that gives no part. -/
theorem IsMeasured.told (h : IsMeasured cues) {callback : Callback}
    (hnone : callback.part? = none) : IsMeasured (cues ++ [.told callback]) := by
  refine h.concat fun part heq => ?_
  rw [Cue.told.inj heq] at hnone
  cases hnone

theorem IsMeasured.part (h : IsMeasured cues) (hasked : given cues < demanded cues) (part : Part) :
    IsMeasured (cues ++ [.told (.part part)]) :=
  h.concat fun _ _ => hasked

end Cue

/-- The calls of a delivery: a subscription, parts that are not the last, and at the end the last
part with completion, or an error, or neither where the consumer lost interest. -/
inductive Protocol (cues : List Cue) : DeliveryPhase → List Callback → Prop
  | starting : Protocol cues .starting []
  | running (parts : List Part) (hmore : ∀ part ∈ parts, part.isLast = false) :
    Protocol cues .running (.subscribe :: parts.map .part)
  | complete (parts : List Part) (last : Part) (hmore : ∀ part ∈ parts, part.isLast = false)
    (hlast : last.isLast = true) :
    Protocol cues .finished (.subscribe :: (parts.map .part ++ [.part last, .complete]))
  | failed (parts : List Part) (e : Error) (hmore : ∀ part ∈ parts, part.isLast = false) :
    Protocol cues .finished (.subscribe :: (parts.map .part ++ [.error e]))
  | canceled (parts : List Part) (hmore : ∀ part ∈ parts, part.isLast = false)
    (hcanceled : .signal .cancel ∈ cues) :
    Protocol cues .finished (.subscribe :: parts.map .part)

theorem Protocol.append {cues : List Cue} {phase : DeliveryPhase} {calls : List Callback}
    (h : Protocol cues phase calls) (later : List Cue) : Protocol (cues ++ later) phase calls := by
  cases h with
  | starting => exact .starting
  | running parts hmore => exact .running parts hmore
  | complete parts last hmore hlast => exact .complete parts last hmore hlast
  | failed parts e hmore => exact .failed parts e hmore
  | canceled parts hmore hcanceled =>
    exact .canceled parts hmore (List.mem_append_left _ hcanceled)

/-- What a consumer does in a call. -/
def Delivery.reaction (d : Delivery) : Callback → List DemandCall
  | .subscribe => d.consumer.onSubscribe
  | .part part => d.consumer.onPart d.parts part
  | .error _ | .complete => []

/-- What passes while a delivery becomes another: its new calls, each with what is done in it. -/
def Delivery.cuesTo (d e : Delivery) : List Cue :=
  (e.calls.drop d.calls.length).flatMap fun callback =>
    .told callback :: (d.reaction callback).map .signal

/-- How many credits the pump holds. -/
def Body.inHand (b : Body) : Nat := if b.phase.isReading then 1 else 0

/-- How many parts are queued. -/
def Body.queued (b : Body) : Nat := (b.queue.filterMap Queued.part?).length

/-- The account of a body with its consumer: what can still be given and what was given is no more
than what was asked for. -/
structure Account (b : Body) (cues : List Cue) : Prop where
  credits : b.demand.credits + b.inHand + b.queued + Cue.given cues ≤ Cue.demanded cues
  canceled : b.demand.isCanceled = true ↔ .signal .cancel ∈ cues

namespace Account

variable {b next : Body} {cues : List Cue}

theorem fresh (b : Body) : Account b.fresh [] where
  credits := Nat.le_refl _
  canceled := ⟨fun h => absurd h Bool.false_ne_true, fun h => absurd h List.not_mem_nil⟩

/-- A consumer asks for parts. -/
theorem request (h : Account b cues) (n : Nat) :
    Account (b.request n) (cues ++ [.signal (.request n)]) where
  credits := by
    have hcredits := h.credits
    have hgiven : Cue.given [.signal (.request n)] = 0 := rfl
    rw [Cue.given_append, hgiven, Nat.add_zero]
    change (b.demand.request n).credits + b.inHand + b.queued + Cue.given cues ≤ _
    by_cases hcanceled : .signal .cancel ∈ cues
    · have hsame : b.demand.request n = b.demand := by
        rw [Demand.request, h.canceled.mpr hcanceled, Bool.or_true, if_pos rfl]
      have hmore := Cue.demanded_signal_ge cues (.request n)
      rw [hsame]
      omega
    · have hmore := b.demand.credits_request_le n
      rw [Cue.demanded_request hcanceled]
      omega
  canceled := by
    change (b.demand.request n).isCanceled = true ↔ _
    rw [Demand.isCanceled_request, h.canceled, Cue.cancel_mem_concat (by rintro ⟨⟩)]

/-- A consumer loses interest. -/
theorem cancel (h : Account b cues) : Account b.cancel (cues ++ [.signal .cancel]) where
  credits := by
    have hcredits := h.credits
    have hgiven : Cue.given [.signal .cancel] = 0 := rfl
    have hmore := Cue.demanded_signal_ge cues .cancel
    rw [Cue.given_append, hgiven, Nat.add_zero]
    change b.demand.credits + b.inHand + b.queued + Cue.given cues ≤ _
    omega
  canceled := ⟨fun _ => List.mem_append_right _ (List.mem_singleton_self _), fun _ => rfl⟩

theorem apply (h : Account b cues) (calls : List DemandCall) :
    Account (Delivery.apply b calls) (cues ++ calls.map .signal) := by
  induction calls generalizing b cues with
  | nil => rwa [List.map_nil, List.append_nil]
  | cons call calls ih =>
    rw [Delivery.apply, List.foldl_cons, ← Delivery.apply, List.map_cons, List.append_cons]
    cases call with
    | request n => exact ih (h.request n)
    | cancel => exact ih h.cancel

/-- A call that gives no part. -/
theorem told (h : Account b cues) {callback : Callback} (hnone : callback.part? = none) :
    Account b (cues ++ [.told callback]) where
  credits := by
    have hgiven : Cue.given [.told callback] = 0 := by
      simp only [Cue.given, List.filterMap_cons, Cue.told?, Option.bind_some, hnone]
      rfl
    rw [Cue.given_append, hgiven, Nat.add_zero, Cue.demanded_told]
    exact h.credits
  canceled := by
    rw [h.canceled, Cue.cancel_mem_concat (by rintro ⟨⟩)]

/-- A part that is queued was asked for. -/
theorem asked {part : Part} {rest : List Queued} (h : Account b cues)
    (hqueue : b.queue = .part part :: rest) : Cue.given cues < Cue.demanded cues := by
  have hcredits := h.credits
  rw [Body.queued, hqueue, List.filterMap_cons_some (f := Queued.part?) (b := part) rfl,
    List.length_cons] at hcredits
  omega

/-- A part is given. -/
theorem part {part : Part} {rest : List Queued} (h : Account b cues)
    (hqueue : b.queue = .part part :: rest) :
    Account { b with demand := b.demand.received, queue := rest, isDone := part.isLast }
      (cues ++ [.told (.part part)]) where
  credits := by
    have hcredits := h.credits
    have hgiven : Cue.given [.told (.part part)] = 1 := rfl
    rw [Body.queued, hqueue, List.filterMap_cons_some (f := Queued.part?) (b := part) rfl,
      List.length_cons] at hcredits
    rw [Cue.given_append, hgiven, Cue.demanded_told]
    change b.demand.credits + b.inHand + (rest.filterMap Queued.part?).length +
      (Cue.given cues + 1) ≤ _
    omega
  canceled := by
    change b.demand.isCanceled = true ↔ _
    rw [h.canceled, Cue.cancel_mem_concat (by rintro ⟨⟩)]

/-- Of each credit becomes one part at most. -/
theorem pump (h : Account b cues) (inbox : Inbox) (now : Nat) (tokenCanceled : Bool) :
    Account (b.after inbox (.pump now tokenCanceled)).1 cues := by
  have hcredits := h.credits
  have hpumped := b.pumped_after inbox now tokenCanceled
  generalize (b.after inbox (.pump now tokenCanceled)).1 = next at hpumped ⊢
  generalize (b.after inbox (.pump now tokenCanceled)).2 = left at hpumped
  cases hpumped with
  | rest => exact h
  | spend hphase hcredit =>
    have hidle : b.inHand = 0 := by
      rw [Body.inHand, hphase]
      rfl
    refine ⟨?_, h.canceled⟩
    change b.demand.credits - 1 + 1 + b.queued + Cue.given cues ≤ _
    omega
  | @take limit item _ hphase hread hfound =>
    have hlive : b.demand.isCanceled = false := by
      rw [Bool.or_assoc, Bool.or_eq_false_iff] at hfound
      exact hfound.1
    have hheld : b.inHand = 1 := by
      rw [Body.inHand, hphase]
      rfl
    rw [Body.take_eq hlive]
    refine ⟨?_, h.canceled⟩
    generalize Queued.ofItem b.url item = queued
    obtain ⟨hcount, -⟩ := queued.length_part?
    rw [hheld, Body.queued] at hcredits
    simp only [Body.inHand, Body.queued, Queued.length_parts_concat]
    have hrests : (if (if queued.isTerminal = true then PumpPhase.stopped
        else .awaitingCredit).isReading = true then 1 else 0) = 0 := by
      split <;> rfl
    omega
  | stop e hopen =>
    have hqueue : ((b.fail e).1.queue.filterMap Queued.part?).length = b.queued := by
      simp only [Body.fail, Body.queued]
      split
      · rfl
      · rw [List.filterMap_append]
        exact congrArg List.length (List.append_nil _)
    refine ⟨?_, h.canceled⟩
    change b.demand.credits + 0 + ((b.fail e).1.queue.filterMap Queued.part?).length +
      Cue.given cues ≤ _
    omega

end Account

end HttpClient
