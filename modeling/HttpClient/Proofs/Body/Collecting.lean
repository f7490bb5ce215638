import HttpClient.Proofs.Body.Courses

/-!
# Collecting a whole body

A reader that collects a body asks for all of it and takes part after part until the last one. What
it gets is the rest of the body, up to the last part, or an error, whatever was asked for and found
before, and whatever happens meanwhile. This is so unless an error was found before: then there is
nothing left to find, and the collection ends as if the body did.

The laws are about the story of a channel. To collect from a channel is to collect from its body, so
they hold of what a body is collected to.
-/

namespace HttpClient

/-- True when a reader looks for a part. -/
def BodyEvent.isRead : BodyEvent → Bool
  | read _ => true
  | _ => false

/-- Collects what is queued, and then lets one thing after the other happen to a body and to what
has arrived for it, as long as there is more to wait for. -/
def Body.gather (b : Body) (inbox : Inbox) (soFar : Bytes) : List BodyEvent → Collected × Body
  | [] => b.collectQueued soFar
  | event :: events =>
    match b.collectQueued soFar with
    | (.pending soFar, next) =>
      (next.after inbox event).1.gather (next.after inbox event).2 soFar events
    | ended => ended

namespace Channel

/-- Takes all parts that are queued onto what was collected so far, at most so many. -/
def collect (c : Channel) (soFar : Bytes) : Nat → Body.Collected × Channel
  | 0 => (.pending soFar, c)
  | fuel + 1 =>
    let d := c.step (.read true)
    match (c.body.read true).1 with
    | .pending => (.pending soFar, d)
    | .error e => (.failed e, d)
    | .part part =>
      if part.isLast then
        (if d.body.demand.isCanceled then .failed .canceled else .whole (soFar ++ part.bytes), d)
      else d.collect (soFar ++ part.bytes) fuel
    | .finished => (if d.body.demand.isCanceled then .failed .canceled else .whole soFar, d)

/-- A channel is collected as its body is, and nothing is read for it meanwhile. -/
theorem collect_body (c : Channel) (soFar : Bytes) (fuel : Nat) :
    ((c.collect soFar fuel).1, (c.collect soFar fuel).2.body) = c.body.collect soFar fuel ∧
      (c.collect soFar fuel).2.inbox = c.inbox := by
  induction fuel generalizing c soFar with
  | zero => exact ⟨rfl, rfl⟩
  | succ fuel ih =>
    rw [collect, Body.collect]
    rcases hread : c.body.read true with ⟨reading, next⟩
    have hbody : (c.step (.read true)).body = next := congrArg Prod.snd hread
    cases reading with
    | pending | error | finished => exact ⟨by simp only [hbody], rfl⟩
    | part part =>
      dsimp only
      split
      · exact ⟨by simp only [hbody], rfl⟩
      · rw [← hbody]
        exact ih ..

/-- Collects what is queued, and then lets one thing after the other happen, as long as there is
more to wait for. -/
def gather (c : Channel) (soFar : Bytes) : List BodyEvent → Body.Collected × Channel
  | [] => c.collect soFar (c.body.queue.length + 1)
  | event :: events =>
    match c.collect soFar (c.body.queue.length + 1) with
    | (.pending soFar, d) => (d.step event).gather soFar events
    | ended => ended

/-- Whatever happens meanwhile, a channel is collected as its body is. -/
theorem gather_body (c : Channel) (soFar : Bytes) (events : List BodyEvent) :
    ((c.gather soFar events).1, (c.gather soFar events).2.body) =
      c.body.gather c.inbox soFar events := by
  induction events generalizing c soFar with
  | nil => exact (c.collect_body soFar _).1
  | cons event events ih =>
    obtain ⟨hcollect, hinbox⟩ := c.collect_body soFar (c.body.queue.length + 1)
    rw [gather, Body.gather, Body.collectQueued, ← hcollect, ← hinbox]
    generalize c.collect soFar (c.body.queue.length + 1) = collected
    obtain ⟨result, d⟩ := collected
    cases result with
    | whole | failed => rfl
    | pending soFar =>
      refine (ih (d.step event) soFar).trans ?_
      simp only [← d.after_step event]

/-- Collects all that is left of a body while these things happen. -/
def bytes (c : Channel) (meanwhile : List BodyEvent) : Body.Collected × Channel :=
  (c.step (.request maxOutstanding)).gather [] meanwhile

/-- The bytes of the parts that the reader has found. -/
def receivedBytes (c : Channel) : Bytes := c.received.flatMap Part.bytes

/-- How far the body of a channel has come, and what was read of what has arrived. -/
structure Tracked (c : Channel) (url : Url) : Prop where
  about : c.body.url = url
  course : c.body.Course (fun _ => True) c.items (c.found.filterMap Body.Reading.taken?)
  ahead : c.body.phase ≠ .stopped → c.Ahead
  closed : (∃ item ∈ c.items, item.isTerminal = true) → c.arrived.items = c.items

variable {c d : Channel} {url : Url}

namespace Tracked

theorem start (b : Body) (inbox : Inbox) : (Channel.start b inbox).Tracked b.url where
  about := rfl
  course := .fresh _ b
  ahead _ := ⟨rfl, fun _ _ => rfl⟩
  closed := fun ⟨_, hmem, _⟩ => absurd hmem List.not_mem_nil

theorem arrive (h : c.Tracked url) (arrival : Arrival) :
    (c.step (.arrive arrival)).Tracked url where
  about := h.about
  course := h.course
  ahead hopen := (h.ahead hopen).arrive arrival
  closed := by
    rintro ⟨item, hitem, hlast⟩
    have hall : c.arrived.items = c.items := h.closed ⟨item, hitem, hlast⟩
    exact (Inbox.items_receive (hall ▸ hitem) hlast arrival).trans hall

theorem request (h : c.Tracked url) (n : Nat) : (c.step (.request n)).Tracked url :=
  ⟨h.about, h.course.request n, fun hopen => ⟨(h.ahead hopen).1, (h.ahead hopen).2⟩, h.closed⟩

theorem read (h : c.Tracked url) (pull : Bool) : (c.step (.read pull)).Tracked url := by
  have hphase : (c.body.read pull).2.phase = c.body.phase ∧
      (c.body.read pull).2.url = c.body.url := by
    obtain ⟨hlook, -⟩ := c.step_read pull
    have hpulled : (c.pulled pull).body.phase = c.body.phase ∧
        (c.pulled pull).body.url = c.body.url := by
      unfold Channel.pulled
      split <;> exact ⟨rfl, rfl⟩
    rw [← hpulled.1, ← hpulled.2]
    generalize (c.body.read pull).1 = reading at hlook
    generalize (c.body.read pull).2 = next at hlook
    cases hlook <;> exact ⟨rfl, rfl⟩
  refine ⟨hphase.2.trans h.about, ?_, fun hopen => ?_, h.closed⟩
  · simp only [step, List.filterMap_append]
    have hread := h.course.read pull
    generalize (c.body.read pull).1 = reading at hread ⊢
    cases reading <;> exact hread
  · have hahead := h.ahead (by rw [← hphase.1]; exact hopen)
    exact ⟨hahead.1, hahead.2⟩

theorem pump (h : c.Tracked url) (now : Nat) (tokenCanceled : Bool) :
    (c.step (.pump now tokenCanceled)).Tracked url := by
  have hcourse : (c.step (.pump now tokenCanceled)).body.Course (fun _ => True)
      (c.step (.pump now tokenCanceled)).items
      ((c.step (.pump now tokenCanceled)).found.filterMap Body.Reading.taken?) :=
    h.course.pump c.inbox now tokenCanceled fun _ _ _ => trivial
  have hpump := c.pumps_step now tokenCanceled
  generalize c.step (.pump now tokenCanceled) = d at hcourse hpump ⊢
  cases hpump with
  | rest => exact h
  | spend hphase =>
    have hahead := h.ahead (by rw [hphase]; nofun)
    exact ⟨h.about, hcourse, fun _ => ⟨hahead.1, hahead.2⟩, h.closed⟩
  | @take limit item left hphase hread hlive =>
    have hopen : c.body.phase ≠ .stopped := by
      rw [hphase]
      nofun
    obtain ⟨hleft, hlast, hmore⟩ := (h.ahead hopen).take hread
    have hbefore := (h.course.going hopen).2.1
    refine ⟨h.about, hcourse, fun hgoes => ⟨hleft, hmore ?_⟩, fun ⟨found, hfound, hend⟩ => ?_⟩
    · rw [← Bool.not_eq_true, ← Queued.isTerminal_ofItem c.body.url]
      exact fun hend => hgoes ((Queued.stops_iff _).mpr hend)
    · rcases List.mem_append.mp hfound with hold | hnew
      · rw [hbefore found hold] at hend
        cases hend
      · rw [List.mem_singleton.mp hnew] at hend
        exact hlast hend
  | stop => exact ⟨h.about, hcourse, fun hgoes => absurd rfl hgoes, h.closed⟩

/-- A channel is tracked after every event. -/
theorem step (h : c.Tracked url) (event : BodyEvent) : (c.step event).Tracked url := by
  cases event with
  | arrive arrival => exact h.arrive arrival
  | request n => exact h.request n
  | cancel =>
    exact ⟨h.about, h.course.cancel, fun hopen => ⟨(h.ahead hopen).1, (h.ahead hopen).2⟩, h.closed⟩
  | read pull => exact h.read pull
  | pump now tokenCanceled => exact h.pump now tokenCanceled

theorem run (h : c.Tracked url) (events : List BodyEvent) : (c.run events).Tracked url := by
  induction events generalizing c with
  | nil => exact h
  | cons event events ih => exact ih (h.step event)

end Tracked

/-- A collection that has come to some bytes, after a reader that had found others before, and no
error. -/
structure Collecting (c : Channel) (url : Url) (before soFar : Bytes) : Prop where
  tracked : c.Tracked url
  bytes : c.receivedBytes = before ++ soFar
  clean : ∀ e, .error e ∉ c.found

/-- How a collection may stand: it has found the end of the body, or waits for more, or fails. -/
inductive Stands (d : Channel) (url : Url) (before : Bytes) : Body.Collected → Prop
  | pending {soFar} (h : d.Collecting url before soFar)
    (hin : d.body.isOut = false) (hopen : d.body.phase ≠ .stopped) :
    Stands d url before (.pending soFar)
  | whole {bytes} (h : d.Collecting url before bytes) (hdone : d.body.isDone = true) :
    Stands d url before (.whole bytes)
  | failed (e : Error) : Stands d url before (.failed e)

namespace Collecting

variable {before soFar : Bytes}

/-- A collection goes on whatever happens, but for a look of somebody else. -/
theorem step (h : c.Collecting url before soFar) {event : BodyEvent}
    (hother : event.isRead = false) : (c.step event).Collecting url before soFar := by
  have hfound : (c.step event).found = c.found := by
    cases event with
    | read => cases hother
    | arrive | request | cancel | pump => rfl
  refine ⟨h.tracked.step event, ?_, by rw [hfound]; exact h.clean⟩
  rw [receivedBytes, received, hfound]
  exact h.bytes

/-- Another part is found. -/
theorem part (h : c.Collecting url before soFar) {part : Part}
    (hread : (c.body.read true).1 = .part part) :
    (c.step (.read true)).Collecting url before (soFar ++ part.bytes) := by
  have hfound : (c.step (.read true)).found = c.found ++ [.part part] := by
    rw [← hread]
    rfl
  refine ⟨h.tracked.step _, ?_, fun e he => ?_⟩
  · have hbytes := h.bytes
    rw [receivedBytes, received] at hbytes ⊢
    rw [hfound, List.filterMap_append, List.flatMap_append, hbytes, List.append_assoc]
    simp [Body.Reading.part?]
  · rw [hfound] at he
    rcases List.mem_append.mp he with he | he
    · exact h.clean e he
    · exact nomatch List.mem_singleton.mp he

/-- There is nothing to be found. -/
theorem silent (h : c.Collecting url before soFar) {reading : Body.Reading}
    (hread : (c.body.read true).1 = reading) (hpart : reading.part? = none)
    (herror : ∀ e, reading ≠ .error e) : (c.step (.read true)).Collecting url before soFar := by
  have hfound : (c.step (.read true)).found = c.found ++ [reading] := by
    rw [← hread]
    rfl
  refine ⟨h.tracked.step _, ?_, fun e he => ?_⟩
  · have hbytes := h.bytes
    rw [receivedBytes, received] at hbytes ⊢
    rw [hfound, List.filterMap_append, List.filterMap_cons_none hpart]
    simpa using hbytes
  · rw [hfound] at he
    rcases List.mem_append.mp he with he | he
    · exact h.clean e he
    · exact herror e (List.mem_singleton.mp he).symm

/-- All that is queued is collected, and then there is the end, or more to wait for. -/
theorem collect (h : c.Collecting url before soFar) {fuel : Nat}
    (hfuel : c.body.queue.length < fuel) :
    (c.collect soFar fuel).2.Stands url before (c.collect soFar fuel).1 := by
  induction fuel generalizing c soFar with
  | zero => cases hfuel
  | succ fuel ih =>
    obtain ⟨hlook, heq⟩ := c.step_read true
    have hbody : (c.step (.read true)).body = (c.body.read true).2 := rfl
    have hqueue : (c.pulled true).body.queue = c.body.queue := by
      unfold Channel.pulled
      split <;> rfl
    rw [Channel.collect]
    rcases hread : c.body.read true with ⟨reading, next⟩
    have hfound : (c.body.read true).1 = reading := congrArg Prod.fst hread
    rw [hread] at hlook hbody
    cases reading with
    | error e => exact .failed e
    | pending =>
      have hsilent := h.silent hfound rfl fun _ h => nomatch h
      dsimp only
      cases hlook with
      | pending hin hempty hopen =>
        exact .pending hsilent (by rw [hbody]; exact hin) (by rw [hbody]; exact hopen)
    | finished =>
      have hsilent := h.silent hfound rfl fun _ h => nomatch h
      dsimp only
      split
      · exact .failed _
      · rename_i hlive
        refine .whole hsilent ?_
        rw [hbody] at hlive ⊢
        cases hlook with
        | finished hout =>
          rw [Body.isOut, Bool.or_eq_true] at hout
          exact hout.resolve_right hlive
    | part part =>
      have hpart := h.part hfound
      dsimp only
      split
      · rename_i hlast
        split
        · exact .failed _
        · refine .whole hpart ?_
          rw [hbody]
          cases hlook with
          | part => exact hlast
      · refine ih hpart ?_
        rw [hbody]
        cases hlook with
        | @part _ rest hin hfirst =>
          rw [← hqueue, hfirst, List.length_cons] at hfuel
          exact Nat.lt_of_succ_lt_succ hfuel

/-- A collection stands like this after any events, as long as nobody else looks. -/
theorem gather (h : c.Collecting url before soFar) {meanwhile : List BodyEvent}
    (hother : ∀ event ∈ meanwhile, event.isRead = false) :
    (c.gather soFar meanwhile).2.Stands url before (c.gather soFar meanwhile).1 := by
  induction meanwhile generalizing c soFar with
  | nil => exact h.collect (Nat.lt_succ_self _)
  | cons event events ih =>
    have hnow := h.collect (Nat.lt_succ_self _)
    rw [Channel.gather]
    rcases hcollect : c.collect soFar (c.body.queue.length + 1) with ⟨result, d⟩
    rw [hcollect] at hnow
    cases hnow with
    | whole hwhole hdone => exact .whole hwhole hdone
    | failed e => exact .failed e
    | pending hpending =>
      exact ih (hpending.step (hother event List.mem_cons_self))
        fun later hlater => hother later (List.mem_cons_of_mem _ hlater)

/-- Where no error was found, all that was taken from the queue are parts. -/
theorem taken_eq (h : c.Collecting url before soFar) :
    c.found.filterMap Body.Reading.taken? = c.received.map .part := by
  have hclean := h.clean
  rw [received]
  generalize c.found = found at hclean
  induction found with
  | nil => rfl
  | cons reading found ih =>
    have hrest := ih fun e he => hclean e (List.mem_cons_of_mem _ he)
    cases reading with
    | error e => exact absurd List.mem_cons_self (hclean e)
    | pending | finished => exact hrest
    | part part => exact congrArg _ hrest

/-- A reader that is done and has found no error has found the last part, and with it all parts of
the body. -/
theorem complete (h : c.Collecting url before soFar) (hdone : c.body.isDone = true) :
    (∃ front last, c.received = front ++ [last] ∧ last.isLast = true) ∧
      c.arrived.items.map (Queued.ofItem url) = c.received.map .part := by
  obtain ⟨q, hmem, hq⟩ := h.tracked.course.done.mp hdone
  rw [h.taken_eq] at hmem
  obtain ⟨last, hlast, rfl⟩ := List.mem_map.mp hmem
  obtain ⟨front, rest, hsplit⟩ := List.append_of_mem hlast
  have hsent := h.tracked.course.sent
  rw [h.taken_eq, hsplit, List.map_append, List.map_cons, List.append_assoc,
    List.cons_append] at hsent
  obtain ⟨hrest, hstopped⟩ := hsent.terminal hq
  obtain ⟨hrest, hqueue⟩ := List.append_eq_nil_iff.mp hrest
  obtain rfl := List.map_eq_nil_iff.mp hrest
  refine ⟨⟨front, last, hsplit, hq⟩, ?_⟩
  rw [hsplit, List.map_append, List.map_singleton]
  rw [List.map_nil, hqueue, List.append_nil] at hsent
  have hopen : (∀ item ∈ c.items, item.isTerminal = false) →
      ¬ front.map Queued.part ++ [.part last] = c.items.map (Queued.ofItem c.body.url) := by
    intro hitems heq
    have hnot := Body.open_of_items c.body.url hitems (.part last)
      (heq ▸ List.mem_append_right _ (List.mem_singleton_self _))
    rw [hnot] at hq
    cases hq
  generalize hall : front.map Queued.part ++ [.part last] = sent at hsent hopen ⊢
  cases hsent with
  | going _ hitems | dropped _ _ hitems => exact absurd rfl (hopen hitems)
  | cut e _ _ hitems =>
    have herror := (List.append_inj' hall rfl).2
    exact nomatch List.singleton_inj.mp herror
  | @ended start final _ hitems _ hfinal =>
    have hmem : final ∈ c.items := hitems ▸ List.mem_append_right _ (List.mem_singleton_self _)
    rw [h.tracked.closed ⟨final, hmem, hfinal⟩, h.tracked.about]

end Collecting

end Channel

/-- Parts that are made of all items of a body, without an error, have the bytes of all its frames,
and the body has come to its end. -/
theorem Inbox.content_of_parts {i : Inbox} {url : Url} {parts : List Part}
    (hhonest : isHonest i.frames = true)
    (hparts : i.items.map (Queued.ofItem url) = parts.map .part)
    (hlast : ∃ last ∈ parts, last.isLast = true) :
    i.outcome? = some .complete ∧ parts.flatMap Part.bytes = i.content := by
  have hends : ∃ item ∈ i.items, item.isTerminal = true := by
    obtain ⟨last, hmem, hend⟩ := hlast
    have hqueued : .part last ∈ i.items.map (Queued.ofItem url) :=
      hparts ▸ List.mem_map_of_mem hmem
    obtain ⟨item, hitem, heq⟩ := List.mem_map.mp hqueued
    exact ⟨item, hitem, by rw [← Queued.isTerminal_ofItem url, heq]; exact hend⟩
  have hbytes : ∀ payloads : List Bytes, ∀ item : BodyItem, ∀ part : Part,
      Queued.ofItem url item = .part part →
      (payloads.map (BodyItem.data · false) ++ [item]).map (Queued.ofItem url) =
        parts.map .part → parts.flatMap Part.bytes = payloads.flatten ++ part.bytes := by
    intro payloads item part hitem heq
    have hall : parts = payloads.map (⟨·, false⟩) ++ [part] := by
      refine (List.map_inj_right fun _ _ h => Queued.part.inj h).mp (heq.symm.trans ?_)
      rw [List.map_append, List.map_append, List.map_map, List.map_map, List.map_singleton,
        List.map_singleton, hitem]
      rfl
    rw [hall, List.flatMap_append, List.flatMap_map, List.flatMap_singleton]
    exact congrArg (· ++ part.bytes) List.flatMap_id
  have htold := told_items i hhonest
  rw [← flatten_payloads]
  generalize i.items = items at htold hends hparts
  cases htold with
  | begun =>
    obtain ⟨item, hmem, hitem⟩ := hends
    obtain ⟨bytes, -, rfl⟩ := List.mem_map.mp hmem
    cases hitem
  | @last front bytes houtcome hpayloads =>
    refine ⟨houtcome, (hbytes front _ _ rfl hparts).trans ?_⟩
    rw [hpayloads, List.flatten_append]
    cases bytes <;> simp
  | @ended ending houtcome =>
    cases ending with
    | complete =>
      exact ⟨houtcome, (hbytes _ _ _ rfl hparts).trans (List.append_nil _)⟩
    | broken =>
      have hmem : Queued.error ((Error.of .body (.wire .brokenBody)).withUrl url) ∈
          parts.map Queued.part := by
        rw [← hparts]
        exact List.mem_map_of_mem (List.mem_append_right _ (List.mem_singleton_self _))
      obtain ⟨part, -, heq⟩ := List.mem_map.mp hmem
      cases heq

namespace Channel

/-- Collecting never takes a part of a body for the whole. Whatever was asked for, found and
canceled before, as long as no error was found, and whatever happens meanwhile: bytes are returned
only with or after the last part, and together with the parts found before they are all that the
body is made of. A body that has ended, or in which interest was lost, before its last part was
found is returned as an error. All this is what the body is collected to without its story. -/
theorem bytes_whole_or_error (b : Body) (inbox : Inbox) (earlier meanwhile : List BodyEvent)
    (hother : ∀ event ∈ meanwhile, event.isRead = false)
    (hclean : ∀ e, .error e ∉ ((start b inbox).run earlier).found) :
    let c := (start b inbox).run earlier
    let d := (c.bytes meanwhile).2
    (∀ bytes, (c.bytes meanwhile).1 = .whole bytes →
      (∃ front last, d.received = front ++ [last] ∧ last.isLast = true) ∧
        d.receivedBytes = c.receivedBytes ++ bytes ∧
        d.arrived.items.map (Queued.ofItem b.url) = d.received.map .part ∧
        (Inbox.isHonest d.arrived.frames = true →
          d.arrived.outcome? = some .complete ∧ c.receivedBytes ++ bytes = d.arrived.content)) ∧
      (d.body.phase = .stopped ∨ d.body.demand.isCanceled = true →
        (∀ part ∈ d.received, part.isLast = false) → ∃ e, (c.bytes meanwhile).1 = .failed e) ∧
      ((c.bytes meanwhile).1, d.body) =
        (c.body.request maxOutstanding).gather c.inbox [] meanwhile := by
  intro c d
  have htracked : c.Tracked b.url := (Tracked.start b inbox).run earlier
  have hbegun : c.Collecting b.url c.receivedBytes [] :=
    ⟨htracked, (List.append_nil _).symm, hclean⟩
  have hasked : (c.step (.request maxOutstanding)).Collecting b.url c.receivedBytes [] :=
    hbegun.step rfl
  have hstands := hasked.gather hother
  change d.Stands b.url c.receivedBytes (c.bytes meanwhile).1 at hstands
  refine ⟨fun bytes hbytes => ?_, fun hends hshort => ?_,
    (c.step (.request maxOutstanding)).gather_body [] meanwhile⟩
  · rw [hbytes] at hstands
    cases hstands with
    | whole h hdone =>
      obtain ⟨⟨front, last, hsplit, hlast⟩, hall⟩ := h.complete hdone
      refine ⟨⟨front, last, hsplit, hlast⟩, h.bytes, hall, fun hhonest => ?_⟩
      have hmem : last ∈ d.received := hsplit ▸ List.mem_append_right _ (List.mem_singleton_self _)
      obtain ⟨houtcome, hcontent⟩ := Inbox.content_of_parts hhonest hall ⟨last, hmem, hlast⟩
      exact ⟨houtcome, h.bytes ▸ hcontent⟩
  · generalize (c.bytes meanwhile).1 = result at hstands ⊢
    cases hstands with
    | failed e => exact ⟨e, rfl⟩
    | pending h hin hopen =>
      rcases hends with hstopped | hcanceled
      · exact absurd hstopped hopen
      · rw [Body.isOut, hcanceled, Bool.or_true] at hin
        cases hin
    | whole h hdone =>
      obtain ⟨⟨front, last, hsplit, hlast⟩, -⟩ := h.complete hdone
      rw [hshort last (hsplit ▸ List.mem_append_right _ (List.mem_singleton_self _))] at hlast
      cases hlast

/-- A page for examples. -/
def samplePage : Body := { url := { scheme := "http", path := .segments [] }, lease := none }

/-- What has arrived for it when nothing but the head has. -/
def sampleHead : Inbox := { answer := some (.head { status := 200 }) }

/-- One part is asked for, arrives, and is found. -/
def sampleStart : List BodyEvent :=
  [.request 1, .arrive (.frame (.data [104, 105] false)), .pump 0 false, .pump 0 false,
    .read true]

/-- Another part arrives, trailers, and the end. -/
def sampleRest : List BodyEvent :=
  [.pump 1 false, .arrive (.frame (.data [33] false)), .pump 2 false, .arrive (.frame .trailers),
    .pump 3 false, .arrive (.ending .complete), .pump 4 false]

/-- What comes after the first part is collected, and with it there is the whole page. -/
theorem bytes_after_part :
    let c := (start samplePage sampleHead).run sampleStart
    ((∀ event ∈ sampleRest, event.isRead = false) ∧ ∀ e, .error e ∉ c.found) ∧
      (c.bytes sampleRest).1 = .whole [33] ∧
        (∃ front last, (c.bytes sampleRest).2.received = front ++ [last] ∧ last.isLast = true) ∧
        c.receivedBytes ++ [33] = (c.bytes sampleRest).2.arrived.content := by
  have hother : ∀ event ∈ sampleRest, event.isRead = false := by decide
  have hclean : ∀ e, .error e ∉ ((start samplePage sampleHead).run sampleStart).found := by
    have hfound : ((start samplePage sampleHead).run sampleStart).found =
        [.part ⟨[104, 105], false⟩] := by decide +kernel
    rw [hfound]
    exact fun e he => nomatch List.mem_singleton.mp he
  have hbytes : (((start samplePage sampleHead).run sampleStart).bytes sampleRest).1 =
      .whole [33] := by decide +kernel
  have hhonest : Inbox.isHonest
      (((start samplePage sampleHead).run sampleStart).bytes sampleRest).2.arrived.frames =
        true := by decide +kernel
  obtain ⟨hlast, -, -, hcontent⟩ :=
    (bytes_whole_or_error samplePage sampleHead sampleStart sampleRest hother hclean).1 _ hbytes
  exact ⟨⟨hother, hclean⟩, hbytes, hlast, (hcontent hhonest).2⟩

/-- The page breaks off after one part, and the reader finds the part and the error. Then the
collection of the rest returns no bytes and no error. -/
theorem bytes_after_error :
    let broken : Inbox :=
      { sampleHead with frames := [.data [104, 105] false], ending := some .broken }
    let c := (start samplePage broken).run
      [.request 2, .pump 0 false, .pump 0 false, .pump 0 false, .pump 0 false, .read true,
        .read true]
    c.found = [.part ⟨[104, 105], false⟩,
        .error ((Error.of .body (.wire .brokenBody)).withUrl samplePage.url)] ∧
      (c.bytes []).1 = .whole [] ∧
      c.body.phase = .stopped ∧ ∀ part ∈ (c.bytes []).2.received, part.isLast = false := by
  decide +kernel

end Channel

end HttpClient
