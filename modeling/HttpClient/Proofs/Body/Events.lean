import HttpClient.Body.Delivery
import Mathlib.Logic.Relation

/-!
# What happens to a body

A body changes when something arrives for it, when its reader asks for parts, looks for one or
loses interest, and when its pump takes a step. What the pump and the reader can do is said once,
case by case. From this follows what holds of a body however its story went: once the last part or
an error has been produced the pump has stopped, and a pump that has stopped has no connection.
-/

namespace HttpClient

/-- Something that happens to a body. -/
inductive BodyEvent
  | arrive (arrival : Arrival)
  | request (parts : Nat)
  | cancel
  /-- The reader looks for a part, and asks for one if it pulls. -/
  | read (pull : Bool)
  /-- The pump takes its turn. -/
  | pump (now : Nat) (tokenCanceled : Bool)
  deriving DecidableEq, Repr

/-- The part that stands in a queue. -/
def Queued.part? : Queued → Option Part
  | part p => some p
  | error _ => none

/-- True for what ends a queue. -/
def Queued.isTerminal : Queued → Bool
  | part p => p.isLast
  | error _ => true

/-- What the pump puts into the queue for an item. -/
def Queued.ofItem (url : Url) : BodyItem → Queued
  | .data bytes isLast => .part ⟨bytes, isLast⟩
  | .ended .complete => .part ⟨[], true⟩
  | .ended .broken => .error ((Error.of .body (.wire .brokenBody)).withUrl url)

/-- The pump stops after what ends the body, and goes on after everything else. -/
theorem Queued.stops_iff (q : Queued) :
    (if q.isTerminal then PumpPhase.stopped else .awaitingCredit) = .stopped ↔
      q.isTerminal = true := by
  cases q.isTerminal with
  | true => exact ⟨fun _ => rfl, fun _ => rfl⟩
  | false => exact ⟨nofun, nofun⟩

/-- True while the pump holds a credit that it took. -/
def PumpPhase.isReading : PumpPhase → Bool
  | .reading _ => true
  | _ => false

namespace Body

/-- The body as it begins. -/
def fresh (b : Body) : Body :=
  { b with demand := {}, phase := .awaitingCredit, queue := [], isDone := false }

/-- True when nobody waits for the body any more. -/
def isOut (b : Body) : Bool := b.isDone || b.demand.isCanceled

/-- The body after a reader that pulls has asked for the part that it waits for. -/
def pulled (b : Body) (pull : Bool) : Body :=
  if pull && b.demand.outstanding = 0 then b.request 1 else b

/-- True when a turn of the pump comes too late. -/
def timesOut (b : Body) (now : Nat) (inbox : Inbox) : Bool :=
  match b.phase with
  | .stopped => false
  | .awaitingCredit => b.demand.credits = 0 && isOver b.deadline now
  | .reading limit => isOver b.deadline now || inbox.read.1.isNone && isOver limit now

/-- The body and what has arrived for it, after an event. -/
def after (b : Body) (inbox : Inbox) : BodyEvent → Body × Inbox
  | .arrive arrival => (b, inbox.receive arrival)
  | .request n => (b.request n, inbox)
  | .cancel => (b.cancel, inbox)
  | .read pull => ((b.read pull).2, inbox)
  | .pump now tokenCanceled =>
    match b.pump now tokenCanceled inbox with
    | some ((next, _), rest) => (next, rest)
    | none => (b, inbox)

/-- What a turn of the pump makes of a body and of what has arrived. -/
inductive Pumped (b : Body) (inbox : Inbox) (now : Nat) (tokenCanceled : Bool) :
    Body → Inbox → Prop
  /-- The pump has stopped, or has to wait. -/
  | rest (hstill : b.pump now tokenCanceled inbox = none) : Pumped b inbox now tokenCanceled b inbox
  | spend (hphase : b.phase = .awaitingCredit) (hcredit : 0 < b.demand.credits)
    (hlive : b.demand.isCanceled = false) :
    Pumped b inbox now tokenCanceled
      { b with
        demand := { b.demand with credits := b.demand.credits - 1 }
        phase := .reading (b.readTimeout.map (now + ·)) } inbox
  | take {limit item rest} (hphase : b.phase = .reading limit)
    (hread : inbox.read = (some item, rest))
    (hfound : (b.demand.isCanceled || tokenCanceled || isOver b.deadline now) = false) :
    Pumped b inbox now tokenCanceled (b.take item).1 rest
  | stop {left} (e : Error) (hopen : b.phase ≠ .stopped)
    (hwhy : (b.demand.isCanceled || tokenCanceled || b.timesOut now inbox) = true)
    (hleft : left = inbox ∨ b.phase.isReading = true) :
    Pumped b inbox now tokenCanceled (b.fail e).1 left

/-- What a reader that looks for a part finds, and what it leaves. -/
inductive Looked (b : Body) : Reading → Body → Prop
  | finished (hout : b.isOut = true) : Looked b .finished b
  | part {p rest} (hin : b.isOut = false) (hqueue : b.queue = .part p :: rest) :
    Looked b (.part p) { b with demand := b.demand.received, queue := rest, isDone := p.isLast }
  | error {e rest} (hin : b.isOut = false) (hqueue : b.queue = .error e :: rest) :
    Looked b (.error e) { b with queue := rest, isDone := true }
  /-- The pump has stopped without a last part. -/
  | short (hin : b.isOut = false) (hqueue : b.queue = []) (hphase : b.phase = .stopped) :
    Looked b (.error (.of .body (.text "body ended before its last part")))
      { b with isDone := true }
  | pending (hin : b.isOut = false) (hqueue : b.queue = []) (hphase : b.phase ≠ .stopped) :
    Looked b .pending b

section Cases

variable {b : Body} {inbox : Inbox} {now : Nat} {tokenCanceled : Bool}

/-- A turn of the pump is one of these. -/
theorem pumped_after (b : Body) (inbox : Inbox) (now : Nat) (tokenCanceled : Bool) :
    Pumped b inbox now tokenCanceled (b.after inbox (.pump now tokenCanceled)).1
      (b.after inbox (.pump now tokenCanceled)).2 := by
  cases hpump : b.pump now tokenCanceled inbox with
  | none =>
    simp only [after, hpump]
    exact .rest hpump
  | some result =>
    obtain ⟨⟨next, effect⟩, rest⟩ := result
    simp only [after, hpump]
    have hfail : ∀ {left : Inbox} (e : Error), b.phase ≠ .stopped →
        (b.demand.isCanceled || tokenCanceled || b.timesOut now inbox) = true →
        (left = inbox ∨ b.phase.isReading = true) →
        (b.fail e, left) = ((next, effect), rest) → Pumped b inbox now tokenCanceled next rest := by
      intro left e hopen hwhy hleft heq
      simp only [Prod.mk.injEq] at heq
      obtain ⟨hnext, rfl⟩ := heq
      have hstop := Pumped.stop e hopen hwhy hleft
      rwa [hnext] at hstop
    rw [pump] at hpump
    cases hphase : b.phase with
    | stopped => simp [hphase] at hpump
    | awaitingCredit =>
      have hopen : b.phase ≠ .stopped := by rw [hphase]; nofun
      simp only [hphase] at hpump
      split at hpump
      · rename_i hcanceled
        exact hfail _ hopen (by rw [hcanceled, Bool.true_or]) (Or.inl rfl) (Option.some.inj hpump)
      · rename_i hlive
        rw [Bool.not_eq_true, Bool.or_eq_false_iff] at hlive
        split at hpump
        · rename_i hcredit
          simp only [Option.some.injEq, Prod.mk.injEq] at hpump
          obtain ⟨⟨rfl, -⟩, rfl⟩ := hpump
          exact .spend hphase hcredit hlive.1
        · rename_i hcredit
          obtain ⟨hlate, heq⟩ := Option.ite_none_right_eq_some.mp hpump
          refine hfail _ hopen ?_ (Or.inl rfl) (Option.some.inj heq)
          have hnone : b.demand.credits = 0 := by omega
          simp only [timesOut, hphase, hnone, hlate, decide_true, Bool.and_self, Bool.or_true]
    | reading limit =>
      have hopen : b.phase ≠ .stopped := by rw [hphase]; nofun
      simp only [hphase] at hpump
      split at hpump
      · rename_i hcanceled
        exact hfail _ hopen (by rw [hcanceled, Bool.true_or]) (Or.inl rfl) (Option.some.inj hpump)
      · rename_i hlive
        split at hpump
        · rename_i hlate
          refine hfail _ hopen ?_ (Or.inl rfl) (Option.some.inj hpump)
          simp only [timesOut, hphase, hlate, Bool.true_or, Bool.or_true]
        · rename_i hearly
          rcases hread : inbox.read with ⟨_ | item, left⟩
          · simp only [hread] at hpump
            obtain ⟨hlate, heq⟩ := Option.ite_none_right_eq_some.mp hpump
            refine hfail _ hopen ?_ (Or.inr (by rw [hphase]; rfl)) (Option.some.inj heq)
            simp only [timesOut, hphase, hread, hlate, Option.isNone_none, Bool.and_self,
              Bool.or_true]
          · simp only [hread, Option.some.injEq, Prod.mk.injEq] at hpump
            obtain ⟨hnext, rfl⟩ := hpump
            rw [Bool.not_eq_true] at hlive hearly
            have hfound :
                (b.demand.isCanceled || tokenCanceled || isOver b.deadline now) = false := by
              rw [hlive, hearly, Bool.false_or]
            have htake : Pumped b inbox now tokenCanceled (b.take item).1 left :=
              .take hphase hread hfound
            rwa [hnext] at htake

/-- What a reader that looks for a part finds is one of these. -/
theorem looked_read (b : Body) (pull : Bool) :
    Looked (if b.isOut then b else b.pulled pull) (b.read pull).1 (b.read pull).2 := by
  unfold read
  by_cases hout : b.isOut = true
  · rw [if_pos hout, if_pos (by exact hout)]
    exact .finished hout
  · rw [if_neg hout, if_neg (by exact hout)]
    have hin : (b.pulled pull).isOut = false := by
      rw [Bool.not_eq_true] at hout
      unfold pulled
      split
      · rw [← hout]
        simp only [isOut, request, Demand.request]
        split <;> rfl
      · exact hout
    change Looked (b.pulled pull) (b.pulled pull).takeQueued.1 (b.pulled pull).takeQueued.2
    unfold takeQueued
    split
    · rename_i p rest hqueue
      exact .part hin hqueue
    · rename_i e rest hqueue
      exact .error hin hqueue
    · rename_i hqueue
      split
      · rename_i hphase
        exact .short hin hqueue hphase
      · rename_i hphase
        exact .pending hin hqueue hphase

/-- A pump that can take a credit does not have to wait. -/
theorem pump_of_credit (hphase : b.phase = .awaitingCredit) (hcredit : 0 < b.demand.credits)
    (now : Nat) (tokenCanceled : Bool) (inbox : Inbox) :
    (b.pump now tokenCanceled inbox).isSome = true := by
  by_cases hcanceled : (b.demand.isCanceled || tokenCanceled) = true
  · simp only [pump, hphase, if_pos hcanceled, Option.isSome_some]
  · simp only [pump, hphase, if_neg hcanceled, if_pos hcredit, Option.isSome_some]

/-- A pump that has something to read does not have to wait. -/
theorem pump_of_item {limit : Option Nat} {item : BodyItem} {left : Inbox}
    (hphase : b.phase = .reading limit) (hread : inbox.read = (some item, left)) (now : Nat)
    (tokenCanceled : Bool) : (b.pump now tokenCanceled inbox).isSome = true := by
  by_cases hcanceled : (b.demand.isCanceled || tokenCanceled) = true
  · simp only [pump, hphase, if_pos hcanceled, Option.isSome_some]
  · by_cases hlate : isOver b.deadline now = true
    · simp only [pump, hphase, if_neg hcanceled, if_pos hlate, Option.isSome_some]
    · simp only [pump, hphase, if_neg hcanceled, if_neg hlate, hread, Option.isSome_some]

end Cases

/-- The pump queues what it makes of an item, and stops after what ends the body. -/
theorem take_eq {b : Body} (hlive : b.demand.isCanceled = false) (item : BodyItem) :
    (b.take item).1 =
      { b with
        queue := b.queue ++ [Queued.ofItem b.url item]
        phase := if (Queued.ofItem b.url item).isTerminal then .stopped else .awaitingCredit
        lease := if (Queued.ofItem b.url item).isTerminal then none else b.lease } := by
  rcases item with ⟨bytes, isLast⟩ | (_ | _)
  · cases isLast <;> rfl
  · rfl
  · simp only [take, fail, hlive, Queued.ofItem, Queued.isTerminal, if_true, Bool.false_eq_true,
      if_false]

/-- One body becomes another in any number of events, whatever has arrived for it. -/
def Evolves : Body → Body → Prop :=
  Relation.ReflTransGen fun b c => ∃ inbox event, c = (b.after inbox event).1

section Evolves

variable {b c : Body}

/-- Nothing has happened to a body yet. -/
theorem evolves_self (b : Body) : b.Evolves b := .refl

theorem Evolves.event (h : b.Evolves c) (inbox : Inbox) (event : BodyEvent) :
    b.Evolves (c.after inbox event).1 :=
  h.tail ⟨inbox, event, rfl⟩

theorem Evolves.drop (h : b.Evolves c) : b.Evolves c.drop := by
  unfold Body.drop
  split
  · exact h
  · exact h.event {} .cancel

/-- A consumer asks for parts or loses interest, call by call. -/
theorem Evolves.apply (h : b.Evolves c) (calls : List DemandCall) :
    b.Evolves (Delivery.apply c calls) := by
  induction calls generalizing c with
  | nil => exact h
  | cons call calls ih =>
    rw [Delivery.apply, List.foldl_cons, ← Delivery.apply]
    cases call with
    | request n => exact ih (h.event {} (.request n))
    | cancel => exact ih (h.event {} .cancel)

/-- A step of a delivery is made of events of the body. -/
theorem evolves_deliver {d e : Delivery} (hstep : d.step b = some (e, c)) : b.Evolves c := by
  have hread : b.Evolves (b.read false).2 := b.evolves_self.event {} (.read false)
  unfold Delivery.step at hstep
  split at hstep
  · cases hstep
  · obtain ⟨-, rfl⟩ := Prod.mk.inj (Option.some.inj hstep)
    exact b.evolves_self.apply _
  · split at hstep
    · cases hstep
    · rename_i found hfound
      obtain ⟨-, rfl⟩ := Prod.mk.inj (Option.some.inj hstep)
      rw [hfound] at hread
      exact hread.drop
    · rename_i failure found hfound
      obtain ⟨-, rfl⟩ := Prod.mk.inj (Option.some.inj hstep)
      rw [hfound] at hread
      exact hread.drop
    · rename_i part found hfound
      rw [hfound] at hread
      split at hstep
      · obtain ⟨-, rfl⟩ := Prod.mk.inj (Option.some.inj hstep)
        exact (hread.apply _).drop
      · obtain ⟨-, rfl⟩ := Prod.mk.inj (Option.some.inj hstep)
        exact hread.apply _

/-- What a body is set up with: its URL, its token, its deadline, and how long it waits for more. -/
def terms (b : Body) : Url × Option TokenId × Option Nat × Option Nat :=
  (b.url, b.token, b.deadline, b.readTimeout)

/-- An event changes nothing of what a body was set up with; with a time limit the pump begins to
read only where it has one. -/
theorem terms_after (b : Body) (inbox : Inbox) (event : BodyEvent) :
    (b.after inbox event).1.terms = b.terms ∧
      ∀ due, (b.after inbox event).1.phase = .reading (some due) →
        b.phase = .reading (some due) ∨ b.readTimeout.isSome = true := by
  cases event with
  | arrive | request | cancel => exact ⟨rfl, fun _ hdue => Or.inl hdue⟩
  | read pull =>
    have hasked : (if b.isOut then b else b.pulled pull).terms = b.terms ∧
        (if b.isOut then b else b.pulled pull).phase = b.phase := by
      unfold pulled
      split
      · exact ⟨rfl, rfl⟩
      · split <;> exact ⟨rfl, rfl⟩
    have hlook := b.looked_read pull
    rw [← hasked.1, ← hasked.2]
    change (b.read pull).2.terms = _ ∧ ∀ due, (b.read pull).2.phase = _ → _
    generalize (b.read pull).1 = reading at hlook
    generalize (b.read pull).2 = next at hlook
    cases hlook <;> exact ⟨rfl, fun _ hdue => Or.inl hdue⟩
  | pump now tokenCanceled =>
    have hpumped := b.pumped_after inbox now tokenCanceled
    generalize (b.after inbox (.pump now tokenCanceled)).1 = next at hpumped
    generalize (b.after inbox (.pump now tokenCanceled)).2 = left at hpumped
    cases hpumped with
    | rest => exact ⟨rfl, fun _ hdue => Or.inl hdue⟩
    | spend =>
      refine ⟨rfl, fun due hdue => Or.inr ?_⟩
      have hlimit := PumpPhase.reading.inj hdue
      cases hset : b.readTimeout with
      | none => simp [hset] at hlimit
      | some millis => rfl
    | @take limit item =>
      rcases item with ⟨bytes, _ | _⟩ | (_ | _) <;> exact ⟨rfl, nofun⟩
    | stop => exact ⟨rfl, nofun⟩

/-- Nothing that happens to a body changes what it was set up with. -/
theorem Evolves.terms (h : b.Evolves c) : c.terms = b.terms := by
  induction h with
  | refl => rfl
  | tail _ hnext ih =>
    obtain ⟨inbox, event, rfl⟩ := hnext
    rw [(terms_after _ inbox event).1, ih]

/-- With a time limit a pump reads only where it has one. -/
theorem Evolves.limited (h : b.Evolves c) (hfresh : b.fresh = b) {due : Nat}
    (hdue : c.phase = .reading (some due)) : c.readTimeout.isSome = true := by
  induction h with
  | refl =>
    rw [← hfresh] at hdue
    cases hdue
  | @tail c d _ hnext ih =>
    obtain ⟨inbox, event, rfl⟩ := hnext
    obtain ⟨hterms, hlimit⟩ := c.terms_after inbox event
    have hset : (c.after inbox event).1.readTimeout = c.readTimeout :=
      congrArg (fun terms => terms.2.2.2) hterms
    rw [hset]
    rcases hlimit due hdue with hbefore | hsome
    · exact ih hbefore
    · exact hsome

end Evolves

/-- What holds of a body at any time. -/
structure Settled (b : Body) : Prop where
  lease : b.phase = .stopped → b.lease = none
  queue : ∀ q ∈ b.queue, q.isTerminal = true → b.phase = .stopped
  done : b.isDone = true → b.phase = .stopped

namespace Settled

variable {b : Body}

/-- A body is settled as it begins. -/
theorem fresh (b : Body) : b.fresh.Settled :=
  ⟨nofun, fun _ hmem => absurd hmem List.not_mem_nil, nofun⟩

theorem request (h : b.Settled) (n : Nat) : (b.request n).Settled := ⟨h.lease, h.queue, h.done⟩

theorem cancel (h : b.Settled) : b.cancel.Settled := ⟨h.lease, h.queue, h.done⟩

theorem read (h : b.Settled) (pull : Bool) : (b.read pull).2.Settled := by
  have hlook := b.looked_read pull
  have hasked : (if b.isOut then b else b.pulled pull).Settled := by
    unfold pulled
    split
    · exact h
    · split
      · exact h.request 1
      · exact h
  generalize (if b.isOut then b else b.pulled pull) = asked at hlook hasked
  generalize (b.read pull).1 = reading at hlook
  generalize (b.read pull).2 = next at hlook
  cases hlook with
  | finished | pending => exact hasked
  | @part p rest hin hqueue =>
    have hmem : ∀ q ∈ rest, q ∈ asked.queue := by
      intro q hq
      rw [hqueue]
      exact List.mem_cons_of_mem _ hq
    refine ⟨hasked.lease, fun q hq => hasked.queue q (hmem q hq), fun hlast => ?_⟩
    refine hasked.queue (.part p) ?_ hlast
    rw [hqueue]
    exact List.mem_cons_self
  | @error e rest hin hqueue =>
    have hstopped : asked.phase = .stopped := by
      refine hasked.queue (.error e) ?_ rfl
      rw [hqueue]
      exact List.mem_cons_self
    exact ⟨hasked.lease, fun _ _ _ => hstopped, fun _ => hstopped⟩
  | short hin hqueue hphase => exact ⟨hasked.lease, fun _ _ _ => hphase, fun _ => hphase⟩

/-- While the pump goes on nothing that ends the body is in its queue, nor was it taken. -/
theorem open_of_phase (h : b.Settled) (hopen : b.phase ≠ .stopped) :
    b.isDone = false ∧ ∀ q ∈ b.queue, q.isTerminal = false := by
  refine ⟨?_, fun q hq => ?_⟩
  · rw [← Bool.not_eq_true]
    exact fun hdone => hopen (h.done hdone)
  · rw [← Bool.not_eq_true]
    exact fun hterminal => hopen (h.queue q hq hterminal)

theorem pump (h : b.Settled) (inbox : Inbox) (now : Nat) (tokenCanceled : Bool) :
    (b.after inbox (.pump now tokenCanceled)).1.Settled := by
  have hpumped := b.pumped_after inbox now tokenCanceled
  generalize (b.after inbox (.pump now tokenCanceled)).1 = next at hpumped
  generalize (b.after inbox (.pump now tokenCanceled)).2 = left at hpumped
  cases hpumped with
  | rest => exact h
  | spend hphase hcredit hlive =>
    obtain ⟨hdone, hqueue⟩ := h.open_of_phase (by rw [hphase]; nofun)
    exact ⟨nofun, fun q hq hterminal => absurd hterminal (by rw [hqueue q hq]; nofun),
      fun hd => absurd hd (by rw [hdone]; nofun)⟩
  | @take limit item _ hphase hread hfound =>
    obtain ⟨hdone, hqueue⟩ := h.open_of_phase (by rw [hphase]; nofun)
    have hlive : b.demand.isCanceled = false := by
      rw [Bool.or_assoc, Bool.or_eq_false_iff] at hfound
      exact hfound.1
    rw [take_eq hlive]
    refine ⟨fun hstopped => ?_, fun q hq hterminal => ?_, fun hd => ?_⟩
    · exact if_pos ((Queued.stops_iff _).mp hstopped)
    · rcases List.mem_append.mp hq with hq | hq
      · rw [hqueue q hq] at hterminal
        cases hterminal
      · rw [List.mem_singleton] at hq
        subst hq
        exact if_pos hterminal
    · dsimp only at hd
      rw [hdone] at hd
      cases hd
  | stop e => exact ⟨fun _ => rfl, fun _ _ _ => rfl, fun _ => rfl⟩

/-- A body is settled after every event. -/
theorem after (h : b.Settled) (inbox : Inbox) (event : BodyEvent) :
    (b.after inbox event).1.Settled := by
  cases event with
  | arrive => exact h
  | request n => exact h.request n
  | cancel => exact h.cancel
  | read pull => exact h.read pull
  | pump now tokenCanceled => exact h.pump inbox now tokenCanceled

/-- A body is settled whatever becomes of it. -/
theorem evolves {c : Body} (h : b.Settled) (hevolves : b.Evolves c) : c.Settled := by
  induction hevolves with
  | refl => exact h
  | tail _ hstep ih =>
    obtain ⟨inbox, event, rfl⟩ := hstep
    exact ih.after inbox event

end Settled

end Body

end HttpClient
