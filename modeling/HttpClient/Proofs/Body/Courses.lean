import HttpClient.Proofs.Body.Channel
import HttpClient.Proofs.Body.Transcript

/-!
# The course of a body

Bodies may be cut short at any time: the reader loses interest, a token is canceled, a time limit is
over. Whatever happens, the pump queues a part for each item that it reads, in order, and stops
after the last of them or after one error; the reader takes from the queue what stands in front. So
the last part and errors are the last that a reader finds, and one who is still interested finds one
of them once the pump has stopped.
-/

namespace HttpClient

/-- What a reader takes from the queue. -/
def Body.Reading.taken? : Body.Reading → Option Queued
  | part p => some (.part p)
  | error e => some (.error e)
  | pending | finished => none

namespace Body

/-- Why a turn of the pump cuts a body short. -/
inductive Cut (b : Body) (now : Nat) (tokenCanceled : Bool) : Error → Prop
  | canceled (h : (b.demand.isCanceled || tokenCanceled) = true) : Cut b now tokenCanceled .canceled
  | deadline (h : isOver b.deadline now = true) : Cut b now tokenCanceled .timeout
  /-- Nothing arrived in time. -/
  | slow {limit} (hphase : b.phase = .reading limit) (h : isOver limit now = true) :
    Cut b now tokenCanceled (.of .body .timedOut)

/-- What a pump has queued after it read items: a part for each of them that is none of the last,
and then the last part or an error. -/
inductive Sent (why : Error → Prop) (b : Body) (items : List BodyItem) : List Queued → Prop
  | going (hopen : b.phase ≠ .stopped) (hitems : ∀ item ∈ items, item.isTerminal = false) :
    Sent why b items (items.map (Queued.ofItem b.url))
  | ended {before last} (hstopped : b.phase = .stopped) (hitems : items = before ++ [last])
    (hbefore : ∀ item ∈ before, item.isTerminal = false) (hlast : last.isTerminal = true) :
    Sent why b items (items.map (Queued.ofItem b.url))
  | cut (e : Error) (hstopped : b.phase = .stopped) (hwhy : why e)
    (hitems : ∀ item ∈ items, item.isTerminal = false) :
    Sent why b items (items.map (Queued.ofItem b.url) ++ [.error (e.withUrl b.url)])
  /-- A reader that lost interest is not told why the pump stopped. -/
  | dropped (hstopped : b.phase = .stopped) (hcanceled : b.demand.isCanceled = true)
    (hitems : ∀ item ∈ items, item.isTerminal = false) :
    Sent why b items (items.map (Queued.ofItem b.url))

/-- How far a body has come, when its pump has read some items and its reader has taken what is
given. -/
structure Course (why : Error → Prop) (b : Body) (items : List BodyItem) (taken : List Queued) :
    Prop where
  sent : Sent why b items (taken ++ b.queue)
  done : b.isDone = true ↔ ∃ q ∈ taken, q.isTerminal = true

variable {why : Error → Prop} {b next : Body} {items : List BodyItem} {taken : List Queued}

/-- What does not end a body is queued as what does not end it. -/
theorem open_of_items (url : Url) (h : ∀ item ∈ items, item.isTerminal = false) :
    ∀ q ∈ items.map (Queued.ofItem url), q.isTerminal = false := by
  intro q hq
  obtain ⟨item, hitem, rfl⟩ := List.mem_map.mp hq
  rw [Queued.isTerminal_ofItem, h item hitem]

namespace Sent

/-- What is queued depends on the phase of the pump, and on interest that was lost. -/
theorem congr {sent : List Queued} (h : b.Sent why items sent) (hurl : next.url = b.url)
    (hphase : next.phase = b.phase)
    (hcanceled : b.demand.isCanceled = true → next.demand.isCanceled = true) :
    next.Sent why items sent := by
  cases h with
  | going hopen hitems =>
    rw [← hurl]
    exact .going (by rwa [hphase]) hitems
  | ended hstopped hitems hbefore hlast =>
    rw [← hurl]
    exact .ended (by rwa [hphase]) hitems hbefore hlast
  | cut e hstopped hwhy hitems =>
    rw [← hurl]
    exact .cut e (by rwa [hphase]) hwhy hitems
  | dropped hstopped hlost hitems =>
    rw [← hurl]
    exact .dropped (by rwa [hphase]) (hcanceled hlost) hitems

/-- All that was queued is what does not end the body, and then at most one that does; after this
one the pump has stopped. -/
theorem split {sent : List Queued} (h : b.Sent why items sent) :
    ∃ front ends, sent = front ++ ends ∧ (∀ q ∈ front, q.isTerminal = false) ∧
      (ends = [] ∧ (b.phase ≠ .stopped ∨ b.demand.isCanceled = true) ∨
        ∃ q, ends = [q] ∧ q.isTerminal = true ∧ b.phase = .stopped) := by
  cases h with
  | going hopen hitems =>
    exact ⟨_, [], (List.append_nil _).symm, open_of_items _ hitems, .inl ⟨rfl, .inl hopen⟩⟩
  | @ended before last hstopped hitems hbefore hlast =>
    refine ⟨before.map (Queued.ofItem b.url), [Queued.ofItem b.url last], ?_,
      open_of_items _ hbefore, .inr ⟨_, rfl, ?_, hstopped⟩⟩
    · rw [hitems, List.map_append, List.map_singleton]
    · rw [Queued.isTerminal_ofItem, hlast]
  | cut e hstopped hwhy hitems =>
    exact ⟨_, _, rfl, open_of_items _ hitems, .inr ⟨_, rfl, rfl, hstopped⟩⟩
  | dropped hstopped hcanceled hitems =>
    exact ⟨_, [], (List.append_nil _).symm, open_of_items _ hitems, .inl ⟨rfl, .inr hcanceled⟩⟩

/-- Nothing is queued after what ends a body, and nothing is read. -/
theorem terminal {front rest : List Queued} {q : Queued} (h : b.Sent why items (front ++ q :: rest))
    (hq : q.isTerminal = true) : rest = [] ∧ b.phase = .stopped := by
  obtain ⟨start, ends, hsplit, hstart, hends⟩ := h.split
  have hnot : ¬ (front ++ [q]) <+: start := by
    intro hprefix
    have hmem := hprefix.subset (List.mem_append_right front (List.mem_singleton_self q))
    rw [hstart q hmem] at hq
    cases hq
  rcases hends with ⟨rfl, -⟩ | ⟨last, rfl, -, hstopped⟩
  · rw [List.append_nil] at hsplit
    exact absurd ⟨rest, by rw [← hsplit, List.append_assoc, List.singleton_append]⟩ hnot
  · refine ⟨?_, hstopped⟩
    rcases List.eq_nil_or_concat rest with hnil | ⟨before, final, hrest⟩
    · exact hnil
    · -- Then what ends the body would stand among what does not end it.
      subst hrest
      rw [List.concat_eq_append, ← List.cons_append, ← List.append_assoc] at hsplit
      have hfront := (List.append_inj' hsplit rfl).1
      exact absurd ⟨before, by rw [← hfront, List.append_assoc, List.singleton_append]⟩ hnot

/-- Once the pump has stopped something ends what is queued, unless interest was lost. -/
theorem exists_terminal {sent : List Queued} (h : b.Sent why items sent)
    (hstopped : b.phase = .stopped) (hlive : b.demand.isCanceled = false) :
    ∃ q ∈ sent, q.isTerminal = true := by
  obtain ⟨front, ends, rfl, -, ⟨rfl, hopen | hcanceled⟩ | ⟨q, rfl, hq, -⟩⟩ := h.split
  · exact absurd hstopped hopen
  · rw [hlive] at hcanceled
    cases hcanceled
  · exact ⟨q, List.mem_append_right _ (List.mem_singleton_self q), hq⟩

end Sent

/-- A turn of the pump that is told to stop, or comes too late, ends the body with one of three
errors. -/
theorem cut_after {now : Nat} {tokenCanceled : Bool} {inbox : Inbox} (hopen : b.phase ≠ .stopped)
    (hwhy : (b.demand.isCanceled || tokenCanceled || b.timesOut now inbox) = true) :
    ∃ e, b.Cut now tokenCanceled e ∧
      (b.after inbox (.pump now tokenCanceled)).1 = (b.fail e).1 := by
  by_cases hcanceled : (b.demand.isCanceled || tokenCanceled) = true
  · refine ⟨.canceled, .canceled hcanceled, ?_⟩
    cases hphase : b.phase with
    | stopped => exact absurd hphase hopen
    | awaitingCredit | reading => simp only [after, pump, hphase, hcanceled, if_true]
  · have hlate : b.timesOut now inbox = true := by
      rw [Bool.not_eq_true] at hcanceled
      rwa [hcanceled, Bool.false_or] at hwhy
    cases hphase : b.phase with
    | stopped => exact absurd hphase hopen
    | awaitingCredit =>
      simp only [timesOut, hphase, Bool.and_eq_true, decide_eq_true_eq] at hlate
      refine ⟨.timeout, .deadline hlate.2, ?_⟩
      simp only [after, pump, hphase, hcanceled, hlate.1, hlate.2, Nat.lt_irrefl,
        Bool.false_eq_true, if_false, if_true]
    | reading limit =>
      by_cases hdeadline : isOver b.deadline now = true
      · refine ⟨.timeout, .deadline hdeadline, ?_⟩
        simp only [after, pump, hphase, hcanceled, hdeadline, Bool.false_eq_true, if_false, if_true]
      · simp only [timesOut, hphase, hdeadline, Bool.false_or, Bool.and_eq_true,
          Option.isNone_iff_eq_none] at hlate
        refine ⟨.of .body .timedOut, .slow hphase hlate.2, ?_⟩
        rcases hread : inbox.read with ⟨found, left⟩
        rw [hread] at hlate
        obtain rfl : found = none := hlate.1
        simp only [after, pump, hphase, hcanceled, hdeadline, hread, hlate.2, Bool.false_eq_true,
          if_false, if_true]

namespace Course

/-- A body begins its course. -/
theorem fresh (why : Error → Prop) (b : Body) : b.fresh.Course why [] [] where
  sent := .going nofun (fun _ hmem => absurd hmem List.not_mem_nil)
  done := ⟨nofun, fun ⟨_, hmem, _⟩ => absurd hmem List.not_mem_nil⟩

theorem request (h : b.Course why items taken) (n : Nat) :
    (b.request n).Course why items taken where
  sent := h.sent.congr rfl rfl fun hlost => by
    simp only [Body.request, Demand.request]
    split <;> exact hlost
  done := h.done

theorem cancel (h : b.Course why items taken) : b.cancel.Course why items taken where
  sent := h.sent.congr rfl rfl fun _ => rfl
  done := h.done

theorem pulled (h : b.Course why items taken) (pull : Bool) :
    (b.pulled pull).Course why items taken := by
  unfold Body.pulled
  split
  · exact h.request 1
  · exact h

/-- A reader that is served takes the first of the queue. -/
private theorem take {q : Queued} {rest : List Queued} (h : b.Course why items taken)
    (hin : b.isOut = false) (hqueue : b.queue = q :: rest) (hurl : next.url = b.url)
    (hphase : next.phase = b.phase) (hdemand : next.demand.isCanceled = b.demand.isCanceled)
    (hrest : next.queue = rest) (hdone : next.isDone = q.isTerminal) :
    next.Course why items (taken ++ [q]) where
  sent := by
    rw [hrest, List.append_assoc, List.singleton_append, ← hqueue]
    exact h.sent.congr hurl hphase fun hlost => hdemand.trans hlost
  done := by
    have hopen : ¬ ∃ q ∈ taken, q.isTerminal = true := by
      rw [← h.done, (Bool.or_eq_false_iff.mp hin).1]
      nofun
    rw [hdone]
    constructor
    · exact fun hq => ⟨q, List.mem_append_right _ (List.mem_singleton_self q), hq⟩
    · rintro ⟨found, hmem, hfound⟩
      rcases List.mem_append.mp hmem with hbefore | hnow
      · exact absurd ⟨found, hbefore, hfound⟩ hopen
      · rwa [← List.mem_singleton.mp hnow]

/-- A reader that is interested finds something once the pump has stopped. -/
theorem queue_ne_nil (h : b.Course why items taken) (hin : b.isOut = false)
    (hstopped : b.phase = .stopped) : b.queue ≠ [] := by
  intro hqueue
  obtain ⟨hopen, hlive⟩ := Bool.or_eq_false_iff.mp hin
  obtain ⟨q, hmem, hq⟩ := h.sent.exists_terminal hstopped hlive
  rw [hqueue, List.append_nil] at hmem
  rw [h.done.mpr ⟨q, hmem, hq⟩] at hopen
  cases hopen

/-- What a reader finds it has taken from the queue. -/
theorem look {reading : Reading} (h : b.Course why items taken) (hlook : b.Looked reading next) :
    next.Course why items (taken ++ reading.taken?.toList) := by
  cases hlook with
  | finished | pending =>
    simp only [Reading.taken?, Option.toList_none, List.append_nil]
    exact h
  | part hin hqueue => exact h.take hin hqueue rfl rfl rfl rfl rfl
  | error hin hqueue => exact h.take hin hqueue rfl rfl rfl rfl rfl
  | short hin hqueue hphase => exact absurd hqueue (h.queue_ne_nil hin hphase)

theorem read (h : b.Course why items taken) (pull : Bool) :
    (b.read pull).2.Course why items (taken ++ (b.read pull).1.taken?.toList) := by
  have hasked : (if b.isOut then b else b.pulled pull).Course why items taken := by
    split
    · exact h
    · exact h.pulled pull
  exact hasked.look (b.looked_read pull)

/-- While the pump goes on nothing ended the body. -/
theorem going (h : b.Course why items taken) (hopen : b.phase ≠ .stopped) :
    taken ++ b.queue = items.map (Queued.ofItem b.url) ∧
      (∀ item ∈ items, item.isTerminal = false) ∧ b.isDone = false := by
  have hsent := h.sent
  generalize hall : taken ++ b.queue = sent at hsent
  cases hsent with
  | going _ hitems =>
    refine ⟨rfl, hitems, ?_⟩
    rw [← Bool.not_eq_true, h.done]
    rintro ⟨q, hmem, hq⟩
    have hnot := open_of_items b.url hitems q (hall ▸ List.mem_append_left _ hmem)
    rw [hnot] at hq
    cases hq
  | ended hstopped | cut _ hstopped | dropped hstopped => exact absurd hstopped hopen

/-- The pump goes on, and may be cut short. -/
theorem pump (h : b.Course why items taken) (inbox : Inbox) (now : Nat) (tokenCanceled : Bool)
    (hwhy : b.demand.isCanceled = false → ∀ e, b.Cut now tokenCanceled e → why e) :
    (b.after inbox (.pump now tokenCanceled)).1.Course why
      (items ++ (b.found? now tokenCanceled inbox).toList) taken := by
  by_cases hstopped : b.phase = .stopped
  · have hnone : b.pump now tokenCanceled inbox = none := by simp only [Body.pump, hstopped]
    simp only [after, hnone, Channel.found?_of_still hnone, Option.toList_none, List.append_nil]
    exact h
  obtain ⟨hsent, hitems, -⟩ := h.going hstopped
  by_cases hcut : (b.demand.isCanceled || tokenCanceled || b.timesOut now inbox) = true
  · obtain ⟨e, he, hfail⟩ := cut_after hstopped hcut
    rw [hfail, Channel.found?_of_stop hcut, Option.toList_none, List.append_nil]
    refine ⟨?_, h.done⟩
    cases hlive : b.demand.isCanceled with
    | true =>
      simp only [fail, hlive, if_true, hsent]
      exact .dropped rfl hlive hitems
    | false =>
      simp only [fail, hlive, Bool.false_eq_true, if_false, ← List.append_assoc, hsent]
      exact .cut e rfl (hwhy hlive e he) hitems
  · have hpumped := b.pumped_after inbox now tokenCanceled
    generalize (b.after inbox (.pump now tokenCanceled)).1 = after at hpumped
    generalize (b.after inbox (.pump now tokenCanceled)).2 = left at hpumped
    cases hpumped with
    | rest hstill =>
      rw [Channel.found?_of_still hstill, Option.toList_none, List.append_nil]
      exact h
    | spend hphase =>
      have hnone : b.found? now tokenCanceled inbox = none := by simp only [found?, hphase]
      rw [hnone, Option.toList_none, List.append_nil]
      refine ⟨?_, h.done⟩
      dsimp only
      rw [hsent]
      exact .going PumpPhase.noConfusion hitems
    | @take limit item rest hphase hread hfound =>
      have hitem : b.found? now tokenCanceled inbox = some item := by
        simp only [found?, hphase, hfound, Bool.false_eq_true, if_false, hread]
      have hlive : b.demand.isCanceled = false := by
        rw [Bool.or_assoc, Bool.or_eq_false_iff] at hfound
        exact hfound.1
      rw [hitem, Option.toList_some, take_eq hlive]
      refine ⟨?_, h.done⟩
      have hall : taken ++ (b.queue ++ [Queued.ofItem b.url item]) =
          (items ++ [item]).map (Queued.ofItem b.url) := by
        rw [← List.append_assoc, hsent, List.map_append, List.map_singleton]
      dsimp only
      rw [hall]
      by_cases hlast : item.isTerminal = true
      · refine .ended ?_ rfl hitems hlast
        simp only [Queued.isTerminal_ofItem, hlast, if_true]
      · refine .going ?_ fun found hfound => ?_
        · rw [← Queued.isTerminal_ofItem b.url] at hlast
          exact fun hends => hlast ((Queued.stops_iff _).mp hends)
        · rcases List.mem_append.mp hfound with hbefore | hnow
          · exact hitems found hbefore
          · rwa [List.mem_singleton.mp hnow, ← Bool.not_eq_true]
    | stop e hopen hwhy => exact absurd hwhy hcut

end Course

end Body

namespace Channel

/-- What is left to read: with the items read so far it makes up all items, whatever arrives. -/
structure Ahead (c : Channel) : Prop where
  inbox : c.inbox = { c.arrived with frames := c.inbox.frames }
  items : ∀ ending more, Inbox.itemsOf ending (c.arrived.frames ++ more) =
    c.items ++ Inbox.itemsOf ending (c.inbox.frames ++ more)

/-- What arrives is added at the end of what was not read. -/
theorem inbox_arrive {c : Channel} (h : c.inbox = { c.arrived with frames := c.inbox.frames })
    (arrival : Arrival) : ∃ more, (c.arrived.receive arrival).frames = c.arrived.frames ++ more ∧
      c.inbox.receive arrival =
        { c.arrived.receive arrival with frames := c.inbox.frames ++ more } := by
  obtain ⟨more, hmore⟩ := c.arrived.receive_frames arrival
  refine ⟨more, congrArg Inbox.frames (hmore c.arrived.frames), ?_⟩
  rw [← hmore c.inbox.frames, ← h]

namespace Ahead

variable {c : Channel}

/-- What arrives is left to read. -/
theorem arrive (h : c.Ahead) (arrival : Arrival) : (c.step (.arrive arrival)).Ahead := by
  obtain ⟨more, harrived, hinbox⟩ := inbox_arrive h.inbox arrival
  constructor
  · change c.inbox.receive arrival =
      { c.arrived.receive arrival with frames := (c.inbox.receive arrival).frames }
    rw [hinbox]
  · intro ending later
    change Inbox.itemsOf ending ((c.arrived.receive arrival).frames ++ later) =
      c.items ++ Inbox.itemsOf ending ((c.inbox.receive arrival).frames ++ later)
    rw [harrived, hinbox, List.append_assoc, List.append_assoc]
    exact h.items ending (more ++ later)

/-- What was read so far is all that there is, once it ends the body. -/
theorem take {item : BodyItem} {left : Inbox} (h : c.Ahead)
    (hread : c.inbox.read = (some item, left)) :
    left = { c.arrived with frames := left.frames } ∧
      (item.isTerminal = true → c.arrived.items = c.items ++ [item]) ∧
      (item.isTerminal = false → ∀ ending more,
        Inbox.itemsOf ending (c.arrived.frames ++ more) =
          c.items ++ [item] ++ Inbox.itemsOf ending (left.frames ++ more)) := by
  have hnow : c.arrived.items = c.items ++ Inbox.itemsOf c.arrived.ending c.inbox.frames := by
    have hall := h.items c.arrived.ending []
    rwa [List.append_nil, List.append_nil] at hall
  have hending : c.inbox.ending = c.arrived.ending := by rw [h.inbox]
  simp only [Inbox.read, Prod.mk.injEq] at hread
  obtain ⟨hitem, rfl⟩ := hread
  rw [hending] at hitem ⊢
  rcases hnext : Inbox.nextItem c.arrived.ending c.inbox.frames with ⟨found, rest⟩
  rw [hnext] at hitem
  obtain rfl : found = some item := hitem
  refine ⟨?_, ?_⟩
  · rw [h.inbox]
  cases item with
  | data bytes isLast =>
    refine ⟨fun hlast => ?_, fun hmore ending more => ?_⟩
    · have hdata := Inbox.itemsOf_of_data hnext c.arrived.ending []
      rw [List.append_nil] at hdata
      have hends : isLast = true := hlast
      rw [hnow, hdata, if_pos hends]
    · have hdata := Inbox.itemsOf_of_data hnext ending more
      have hgoes : isLast = false := hmore
      rw [h.items ending more, hdata, hgoes, List.append_assoc]
      rfl
  | ended ending =>
    refine ⟨fun _ => ?_, nofun⟩
    rw [hnow, (Inbox.itemsOf_of_ended hnext nofun).2]
    rfl

end Ahead

end Channel

end HttpClient
