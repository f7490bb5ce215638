import HttpClient.Proofs.Body.InOrder

/-!
# Bodies are delivered to their end

Where the end of a body has arrived, each round in which its reader asks for a part, the pump takes
two turns and the reader looks, brings the reader one item nearer to the end. So after as many
rounds as there are items the reader has found everything.
-/

namespace HttpClient

namespace Channel

/-- A reader asks for a part, the pump takes a credit and reads, and the reader looks. -/
def round (now : Nat) : List BodyEvent :=
  [.request 1, .pump now false, .pump now false, .read false]

/-- So many rounds. -/
def rounds (now n : Nat) : List BodyEvent := (List.replicate n (round now)).flatten

/-- How many of the items that have arrived the reader has not found. -/
def left (c : Channel) : Nat := c.arrived.items.length - c.items.length + c.body.queue.length

/-- A channel that nothing disturbed, whose end has arrived, and for which it is not too late. -/
structure Ripe (c : Channel) (url : Url) (now : Nat) : Prop where
  flow : c.Flow url
  honest : Inbox.isHonest c.arrived.frames = true
  known : c.arrived.outcome?.isSome = true
  early : isOver c.body.deadline now = false

variable {c d : Channel} {url : Url} {now : Nat}

namespace Ripe

/-- Some item ends the body. -/
theorem terminal (h : c.Ripe url now) : ∃ item ∈ c.arrived.items, item.isTerminal = true := by
  obtain ⟨parts, ends, hitems, -, hends, hsome⟩ := (Inbox.told_items _ h.honest).split
  obtain ⟨item, hitem⟩ := List.exists_mem_of_ne_nil _ (hsome h.known)
  refine ⟨item, ?_, hends item hitem⟩
  rw [hitems]
  exact List.mem_append_right _ hitem

/-- While the pump goes on there is something to read. -/
theorem next (h : c.Ripe url now) (hopen : c.body.phase ≠ .stopped) :
    ∃ item left, c.inbox.read = (some item, left) := by
  rcases hread : c.inbox.read with ⟨_ | item, left⟩
  · -- Otherwise all items were read, and none of them ends the body.
    obtain ⟨hbefore, hahead⟩ := h.flow.ahead hopen
    have hending : c.inbox.ending = c.arrived.ending := by rw [h.flow.inbox]
    have hnone : (Inbox.nextItem c.arrived.ending c.inbox.frames).1 = none := by
      rw [← hending]
      exact congrArg Prod.fst hread
    have hnext : Inbox.nextItem c.arrived.ending c.inbox.frames =
        (none, (Inbox.nextItem c.arrived.ending c.inbox.frames).2) := by
      rw [← hnone]
    have hall := hahead c.arrived.ending []
    rw [List.append_nil, List.append_nil, (Inbox.itemsOf_of_ended hnext nofun).2] at hall
    obtain ⟨item, hitem, hend⟩ := h.terminal
    rw [Inbox.items, hall] at hitem
    rw [hbefore item (by simpa using hitem)] at hend
    cases hend
  · exact ⟨item, left, rfl⟩

/-- A turn of the pump disturbs nothing. -/
theorem calm (h : c.Ripe url now) : c.isDisturbed (.pump now false) = false := by
  simp only [isDisturbed, Bool.false_or, Body.timesOut]
  cases hphase : c.body.phase with
  | stopped => rfl
  | awaitingCredit => simp only [h.early, Bool.and_false]
  | reading limit =>
    obtain ⟨item, left, hread⟩ := h.next (by rw [hphase]; rintro ⟨⟩)
    simp only [h.early, hread, Option.isNone_some, Bool.false_and, Bool.or_self]

/-- A reader is done when there is nothing left. -/
theorem done_iff (h : c.Ripe url now) : c.body.isDone = true ↔ c.left = 0 := by
  have hless := h.flow.items_prefix.length_le
  rw [h.flow.done]
  constructor
  · rintro ⟨hstopped, hqueue⟩
    simp only [left, (h.flow.closed hstopped).1, hqueue, List.length_nil]
    omega
  · intro hleft
    simp only [left] at hleft
    have hqueue : c.body.queue = [] := List.length_eq_zero_iff.mp (by omega)
    refine ⟨?_, hqueue⟩
    by_cases hopen : c.body.phase = .stopped
    · exact hopen
    · have hall : c.items = c.arrived.items := h.flow.items_prefix.eq_of_length (by omega)
      obtain ⟨item, hitem, hend⟩ := h.terminal
      rw [← hall] at hitem
      rw [(h.flow.ahead hopen).1 item hitem] at hend
      cases hend

/-- To ask for a part changes nothing of what is left. -/
theorem request (h : c.Ripe url now) (n : Nat) :
    (c.step (.request n)).Ripe url now ∧ (c.step (.request n)).left = c.left :=
  ⟨⟨h.flow.request n, h.honest, h.known, h.early⟩, rfl⟩

/-- A turn of the pump only moves what is left towards the reader. -/
theorem pump (h : c.Ripe url now) :
    (c.step (.pump now false)).Ripe url now ∧ (c.step (.pump now false)).left = c.left ∧
      c.body.queue.length ≤ (c.step (.pump now false)).body.queue.length := by
  have hpump := c.pumps_step now false
  have hflow := h.flow.pump h.calm hpump
  have hcalm := h.calm
  generalize c.step (.pump now false) = d at hpump hflow
  have hless := hflow.items_prefix.length_le
  cases hpump with
  | rest => exact ⟨h, rfl, Nat.le_refl _⟩
  | spend => exact ⟨⟨hflow, h.honest, h.known, h.early⟩, rfl, Nat.le_refl _⟩
  | take =>
    refine ⟨⟨hflow, h.honest, h.known, h.early⟩, ?_, ?_⟩
    · simp only [left, List.length_append, List.length_singleton] at hless ⊢
      omega
    · simp only [List.length_append]
      omega
  | stop e hopen hwhy =>
    rw [h.flow.undisturbed hcalm] at hwhy
    cases hwhy

/-- A reader that looks takes the first of the queue, if there is one. -/
theorem read (h : c.Ripe url now) :
    (c.step (.read false)).Ripe url now ∧
      (c.step (.read false)).left + min 1 c.body.queue.length = c.left := by
  obtain ⟨hlook, heq⟩ := c.step_read false
  have hsame : c.pulled false = c := if_neg (by simp)
  rw [hsame] at hlook heq
  have hflow := h.flow.look hlook
  rw [heq]
  generalize (c.body.read false).1 = reading at hlook hflow
  generalize (c.body.read false).2 = next at hlook hflow
  cases hlook with
  | finished hout =>
    have hdone : c.body.isDone = true := by
      have hor := Bool.or_eq_true_iff.mp hout
      rw [h.flow.live] at hor
      exact hor.resolve_right nofun
    have hqueue : c.body.queue = [] := (h.flow.done.mp hdone).2
    refine ⟨⟨hflow, h.honest, h.known, h.early⟩, ?_⟩
    simp only [left, look, hqueue, List.length_nil]
    omega
  | pending hin hqueue | short hin hqueue =>
    refine ⟨⟨hflow, h.honest, h.known, h.early⟩, ?_⟩
    simp only [left, look, hqueue, List.length_nil]
    omega
  | part hin hqueue | error hin hqueue =>
    refine ⟨⟨hflow, h.honest, h.known, h.early⟩, ?_⟩
    simp only [left, look, hqueue, List.length_cons]
    omega

/-- A pump with a credit queues what it reads. -/
theorem pump_reading (h : c.Ripe url now) (hreads : c.body.phase.isReading = true) :
    0 < (c.step (.pump now false)).body.queue.length := by
  have hpump := c.pumps_step now false
  have hcalm := h.calm
  generalize c.step (.pump now false) = d at hpump
  cases hpump with
  | rest hstill =>
    cases hphase : c.body.phase with
    | stopped | awaitingCredit =>
      rw [hphase] at hreads
      cases hreads
    | reading limit =>
      obtain ⟨item, left, hread⟩ := h.next (by rw [hphase]; nofun)
      have hgoes := Body.pump_of_item hphase hread now false
      rw [hstill] at hgoes
      cases hgoes
  | spend hphase =>
    rw [hphase] at hreads
    cases hreads
  | take =>
    simp only [List.length_append, List.length_singleton]
    omega
  | stop e hopen hwhy =>
    rw [h.flow.undisturbed hcalm] at hwhy
    cases hwhy

/-- A pump that waits for a credit takes one, if there is one. -/
theorem pump_awaiting (h : c.Ripe url now) (hphase : c.body.phase = .awaitingCredit)
    (hcredit : 0 < c.body.demand.credits) :
    (c.step (.pump now false)).body.phase.isReading = true := by
  have hpump := c.pumps_step now false
  have hcalm := h.calm
  generalize c.step (.pump now false) = d at hpump
  cases hpump with
  | rest hstill =>
    have hgoes := Body.pump_of_credit hphase hcredit now false c.inbox
    rw [hstill] at hgoes
    cases hgoes
  | spend => rfl
  | take hreads =>
    rw [hphase] at hreads
    cases hreads
  | stop e hopen hwhy =>
    rw [h.flow.undisturbed hcalm] at hwhy
    cases hwhy

/-- Two turns of a pump that has a credit or can take one put something into the queue, unless the
reader is done. -/
theorem pump_twice (h : c.Ripe url now) (hcredit : 0 < c.body.demand.credits)
    (hopen : c.body.isDone = false) :
    0 < ((c.step (.pump now false)).step (.pump now false)).body.queue.length := by
  obtain ⟨hfirst, -, hgrows⟩ := h.pump
  obtain ⟨-, -, hmore⟩ := hfirst.pump
  cases hphase : c.body.phase with
  | stopped =>
    have hqueue : c.body.queue ≠ [] := by
      intro hnil
      rw [h.flow.done.mpr ⟨hphase, hnil⟩] at hopen
      cases hopen
    have hsome := List.length_pos_iff.mpr hqueue
    omega
  | awaitingCredit => exact hfirst.pump_reading (h.pump_awaiting hphase hcredit)
  | reading limit =>
    have hsome := h.pump_reading (by rw [hphase]; rfl)
    omega

/-- Each round brings the reader one item nearer to the end. -/
theorem round (h : c.Ripe url now) :
    (c.run (round now)).Ripe url now ∧ (c.run (round now)).left ≤ c.left - 1 ∧
      (c.run (round now)).arrived = c.arrived := by
  obtain ⟨hasked, hask⟩ := h.request 1
  obtain ⟨hfirst, hkeep, -⟩ := hasked.pump
  obtain ⟨hsecond, hsame, -⟩ := hfirst.pump
  obtain ⟨hlast, hread⟩ := hsecond.read
  refine ⟨hlast, ?_, rfl⟩
  change (((((c.step (.request 1)).step (.pump now false)).step (.pump now false)).step
    (.read false)).left) ≤ c.left - 1
  cases hdone : c.body.isDone with
  | true =>
    have hnone := h.done_iff.mp hdone
    omega
  | false =>
    have hcredit : 0 < (c.step (.request 1)).body.demand.credits := by
      have hlimit : 0 < maxCredits := by decide
      change 0 < (c.body.demand.request 1).credits
      simp only [Demand.request, h.flow.live, Nat.one_ne_zero, decide_false, Bool.or_self,
        Bool.false_eq_true, if_false]
      omega
    have hqueue := hasked.pump_twice hcredit hdone
    omega

/-- So many rounds bring the reader so many items nearer to the end. -/
theorem rounds (h : c.Ripe url now) (n : Nat) :
    (c.run (rounds now n)).Ripe url now ∧ (c.run (rounds now n)).left ≤ c.left - n ∧
      (c.run (rounds now n)).arrived = c.arrived := by
  induction n generalizing c with
  | zero => exact ⟨h, Nat.le_refl _, rfl⟩
  | succ n ih =>
    obtain ⟨hone, hless, hsame⟩ := h.round
    obtain ⟨hall, hleft, hkept⟩ := ih hone
    have hsplit : Channel.rounds now (n + 1) = Channel.round now ++ Channel.rounds now n := by
      rw [Channel.rounds, List.replicate_succ, List.flatten_cons, ← Channel.rounds]
    rw [hsplit, run_append]
    exact ⟨hall, by omega, hkept.trans hsame⟩

/-- There is no more left than frames have arrived, and an ending. -/
theorem left_le (h : c.Ripe url now) : c.left ≤ c.arrived.frames.length + 1 := by
  have hitems := c.arrived.length_items
  have hless := h.flow.items_prefix.length_le
  obtain ⟨taken, n, hsent, -, -⟩ := h.flow.found
  have hqueued : c.body.queue.length ≤ c.items.length := by
    rw [← List.length_map (f := Queued.ofItem url), ← h.flow.sent, hsent, List.length_append]
    omega
  simp only [left]
  omega

/-- A reader that goes on asking finds everything. -/
theorem completes (h : c.Ripe url now) :
    Ended c.arrived url (c.run (Channel.rounds now (c.arrived.frames.length + 1))).heard := by
  obtain ⟨hripe, hleft, hsame⟩ := h.rounds (c.arrived.frames.length + 1)
  have hbound := h.left_le
  have hdone := hripe.done_iff.mpr (by omega)
  have hended := hripe.flow.ended hripe.honest hdone
  rwa [hsame] at hended

end Ripe

/-- Bodies are delivered exactly. Whatever arrives, however demand is signalled and in whatever
order the pump and the reader take their turns, as long as nothing cuts the body short and no bytes
follow a frame that is known to be the last: the reader has found the bytes of the first frames, in
order and each once, or it has found the whole body, or all bytes and one error, and from then on
nothing more. And once the end of the body has arrived, a reader that goes on asking finds it. -/
theorem delivers_exactly (b : Body) (inbox : Inbox) (events : List BodyEvent)
    (hcalm : (start b inbox).isCalm events = true)
    (hhonest : Inbox.isHonest ((start b inbox).run events).arrived.frames = true) :
    let c := (start b inbox).run events
    (Begun c.arrived c.heard ∨ Ended c.arrived b.url c.heard) ∧
      ∀ now, isOver c.body.deadline now = false → c.arrived.outcome?.isSome = true →
        Ended c.arrived b.url (c.run (rounds now (c.arrived.frames.length + 1))).heard := by
  intro c
  have hflow : c.Flow b.url := (Flow.start b inbox).run hcalm
  refine ⟨?_, fun now hearly hknown => ?_⟩
  · cases hdone : c.body.isDone with
    | true => exact Or.inr (hflow.ended hhonest hdone)
    | false => exact Or.inl (hflow.begun hhonest hdone)
  · have hripe : c.Ripe b.url now := ⟨hflow, hhonest, hknown, hearly⟩
    exact hripe.completes

/-- Two frames with bytes and trailers arrive one by one, while the reader has asked for one part
and pulls another. -/
theorem delivers_frames_and_trailers :
    let page : Body := { url := { scheme := "http", path := .segments [] }, lease := none }
    let silent : Inbox := { answer := some (.head { status := 200 }) }
    let events : List BodyEvent :=
      [.request 1, .arrive (.frame (.data [104, 105] false)), .pump 0 false, .pump 0 false,
        .read false, .arrive (.frame (.data [] false)), .read true, .pump 1 false,
        .arrive (.frame (.data [33] false)), .pump 2 false, .read true,
        .arrive (.frame .trailers), .arrive (.ending .complete)]
    let c := (start page silent).run events
    ((start page silent).isCalm events = true ∧ Inbox.isHonest c.arrived.frames = true) ∧
      (Begun c.arrived c.heard ∨ Ended c.arrived page.url c.heard) ∧
        ∀ now, isOver c.body.deadline now = false → c.arrived.outcome?.isSome = true →
          Ended c.arrived page.url (c.run (rounds now (c.arrived.frames.length + 1))).heard :=
  ⟨⟨by decide, by decide⟩, delivers_exactly _ _ _ (by decide) (by decide)⟩

end Channel

end HttpClient
