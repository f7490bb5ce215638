import HttpClient.Proofs.Body.Events
import HttpClient.Proofs.Exchange.Notes

/-!
# Channels

A body together with the story of its events: all that has arrived for it, what its reader asked
for and found, and what its pump took, read and queued. Every law about a whole body is a law about
the story of a channel that starts with a fresh body.
-/

namespace HttpClient

/-- A body, what has arrived for it and was not read yet, and its story. -/
structure Channel where
  body : Body
  inbox : Inbox
  /-- All that has arrived, whether or not it was read. -/
  arrived : Inbox
  /-- How many parts the reader has asked for. -/
  asked : Nat := 0
  /-- How many credits the pump has taken. -/
  taken : Nat := 0
  /-- What the pump has read. -/
  items : List BodyItem := []
  /-- What the pump has queued. -/
  sent : List Queued := []
  /-- What the reader has found. -/
  found : List Body.Reading := []

/-- How many parts a reader that pulls asks for. -/
def Body.pulls (b : Body) (pull : Bool) : Nat :=
  if !b.isOut && pull && b.demand.outstanding = 0 then 1 else 0

/-- The part that a reader finds. -/
def Body.Reading.part? : Body.Reading → Option Part
  | part p => some p
  | _ => none

namespace Channel

/-- The channel of a body to which nothing has happened yet. -/
def start (b : Body) (inbox : Inbox) : Channel :=
  { body := b.fresh, inbox := inbox, arrived := inbox }

/-- The channel after an event. -/
def step (c : Channel) : BodyEvent → Channel
  | .arrive arrival =>
    { c with inbox := c.inbox.receive arrival, arrived := c.arrived.receive arrival }
  | .request n => { c with body := c.body.request n, asked := c.asked + n }
  | .cancel => { c with body := c.body.cancel }
  | .read pull =>
    { c with
      body := (c.body.read pull).2
      asked := c.asked + c.body.pulls pull
      found := c.found ++ [(c.body.read pull).1] }
  | .pump now tokenCanceled =>
    let next := c.body.after c.inbox (.pump now tokenCanceled)
    { c with
      body := next.1
      inbox := next.2
      taken := c.taken + (c.body.demand.credits - next.1.demand.credits)
      items := c.items ++ (c.body.found? now tokenCanceled c.inbox).toList
      sent := c.sent ++ next.1.queue.drop c.body.queue.length }

/-- The channel after events. -/
def run (c : Channel) (events : List BodyEvent) : Channel := events.foldl step c

/-- The parts that the pump has produced. -/
def emitted (c : Channel) : List Part := c.sent.filterMap Queued.part?

/-- The parts that the reader has found. -/
def received (c : Channel) : List Part := c.found.filterMap Body.Reading.part?

/-- The channel after a reader that pulls has asked for the part that it waits for. -/
def pulled (c : Channel) (pull : Bool) : Channel :=
  if !c.body.isOut && pull && c.body.demand.outstanding = 0 then c.step (.request 1) else c

/-- The channel after its reader found something. -/
def look (c : Channel) (reading : Body.Reading) (next : Body) : Channel :=
  { c with body := next, found := c.found ++ [reading] }

variable {c : Channel}

/-- The body and the inbox of a channel go through the events as they do without a story. -/
theorem after_step (c : Channel) (event : BodyEvent) :
    ((c.step event).body, (c.step event).inbox) = c.body.after c.inbox event := by
  cases event <;> rfl

theorem run_append (c : Channel) (events later : List BodyEvent) :
    c.run (events ++ later) = (c.run events).run later := List.foldl_append ..

/-- To look for a part is to ask for it where the reader pulls, and then to look. -/
theorem step_read (c : Channel) (pull : Bool) :
    (c.pulled pull).body.Looked (c.body.read pull).1 (c.body.read pull).2 ∧
      c.step (.read pull) = (c.pulled pull).look (c.body.read pull).1 (c.body.read pull).2 := by
  have hlook := c.body.looked_read pull
  constructor
  · have hbody : (c.pulled pull).body = if c.body.isOut then c.body else c.body.pulled pull := by
      unfold pulled Body.pulled
      cases c.body.isOut with
      | true => simp
      | false =>
        simp only [Bool.not_false, Bool.true_and, Bool.false_eq_true, if_false]
        split <;> rfl
    rwa [hbody]
  · by_cases hasks : (!c.body.isOut && pull && c.body.demand.outstanding = 0) = true
    · simp only [pulled, look, step, Body.pulls, if_pos hasks]
    · simp only [pulled, look, step, Body.pulls, if_neg hasks, Nat.add_zero]

/-- What a turn of the pump makes of a channel. -/
inductive Pumps (c : Channel) (now : Nat) (tokenCanceled : Bool) : Channel → Prop
  | rest (hstill : c.body.pump now tokenCanceled c.inbox = none) : Pumps c now tokenCanceled c
  | spend (hphase : c.body.phase = .awaitingCredit) (hcredit : 0 < c.body.demand.credits)
    (hlive : c.body.demand.isCanceled = false) :
    Pumps c now tokenCanceled
      { c with
        body := { c.body with
          demand := { c.body.demand with credits := c.body.demand.credits - 1 }
          phase := .reading (c.body.readTimeout.map (now + ·)) }
        taken := c.taken + 1 }
  | take {limit item left} (hphase : c.body.phase = .reading limit)
    (hread : c.inbox.read = (some item, left)) (hlive : c.body.demand.isCanceled = false) :
    Pumps c now tokenCanceled
      { c with
        body := { c.body with
          queue := c.body.queue ++ [Queued.ofItem c.body.url item]
          phase := if (Queued.ofItem c.body.url item).isTerminal then .stopped else .awaitingCredit
          lease := if (Queued.ofItem c.body.url item).isTerminal then none else c.body.lease }
        inbox := left
        items := c.items ++ [item]
        sent := c.sent ++ [Queued.ofItem c.body.url item] }
  | stop {left} (e : Error) (hopen : c.body.phase ≠ .stopped)
    (hwhy : (c.body.demand.isCanceled || tokenCanceled || c.body.timesOut now c.inbox) = true)
    (hleft : left = c.inbox ∨ c.body.phase.isReading = true) :
    Pumps c now tokenCanceled
      { c with
        body := (c.body.fail e).1
        inbox := left
        sent := c.sent ++
          if c.body.demand.isCanceled then [] else [.error (e.withUrl c.body.url)] }

/-- Where a pump has to wait it reads nothing. -/
theorem found?_of_still {b : Body} {now : Nat} {tokenCanceled : Bool} {inbox : Inbox}
    (hstill : b.pump now tokenCanceled inbox = none) : b.found? now tokenCanceled inbox = none := by
  unfold Body.found?
  split
  · rename_i limit hphase
    split
    · rfl
    · rename_i hlive
      rw [Bool.not_eq_true, Bool.or_eq_false_iff] at hlive
      rw [Body.pump, hphase] at hstill
      simp only [hlive.1, hlive.2, Bool.false_eq_true, if_false] at hstill
      rcases hread : inbox.read with ⟨_ | item, left⟩
      · rfl
      · simp only [hread] at hstill
        cases hstill
  · rfl

/-- A pump that is stopped from outside reads nothing. -/
theorem found?_of_stop {b : Body} {now : Nat} {tokenCanceled : Bool} {inbox : Inbox}
    (hwhy : (b.demand.isCanceled || tokenCanceled || b.timesOut now inbox) = true) :
    b.found? now tokenCanceled inbox = none := by
  unfold Body.found?
  split
  · rename_i limit hphase
    split
    · rfl
    · rename_i hlive
      rw [Bool.not_eq_true, Bool.or_eq_false_iff] at hlive
      simp only [hlive.1, Body.timesOut, hphase, hlive.2, Bool.false_or, Bool.and_eq_true,
        Option.isNone_iff_eq_none] at hwhy
      exact hwhy.1
  · rfl

/-- A turn of the pump is one of these. -/
theorem pumps_step (c : Channel) (now : Nat) (tokenCanceled : Bool) :
    c.Pumps now tokenCanceled (c.step (.pump now tokenCanceled)) := by
  have hpumped := c.body.pumped_after c.inbox now tokenCanceled
  simp only [step]
  generalize (c.body.after c.inbox (.pump now tokenCanceled)).1 = next at hpumped
  generalize (c.body.after c.inbox (.pump now tokenCanceled)).2 = left at hpumped
  cases hpumped with
  | rest hstill =>
    simp only [found?_of_still hstill, Nat.sub_self, Nat.add_zero, Option.toList_none,
      List.append_nil, List.drop_length]
    exact .rest hstill
  | spend hphase hcredit hlive =>
    have hnone : c.body.found? now tokenCanceled c.inbox = none := by
      simp only [Body.found?, hphase]
    have hone : c.body.demand.credits - (c.body.demand.credits - 1) = 1 := by omega
    simp only [hnone, hone, Option.toList_none, List.append_nil, List.drop_length]
    exact .spend hphase hcredit hlive
  | @take limit item _ hphase hread hfound =>
    have hitem : c.body.found? now tokenCanceled c.inbox = some item := by
      simp only [Body.found?, hphase, hfound, Bool.false_eq_true, if_false, hread]
    have hlive : c.body.demand.isCanceled = false := by
      rw [Bool.or_assoc, Bool.or_eq_false_iff] at hfound
      exact hfound.1
    rw [Body.take_eq hlive]
    simp only [hitem, Nat.sub_self, Nat.add_zero, Option.toList_some, List.drop_left]
    exact .take hphase hread hlive
  | stop e hopen hwhy hleft =>
    have hqueue : (c.body.fail e).1.queue.drop c.body.queue.length =
        if c.body.demand.isCanceled then [] else [.error (e.withUrl c.body.url)] := by
      simp only [Body.fail]
      split
      · exact List.drop_length
      · exact List.drop_left
    have hcredits : (c.body.fail e).1.demand = c.body.demand := rfl
    simp only [found?_of_stop hwhy, hqueue, hcredits, Nat.sub_self, Nat.add_zero,
      Option.toList_none, List.append_nil]
    exact .stop e hopen hwhy hleft

end Channel

end HttpClient
