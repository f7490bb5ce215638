import HttpClient.Proofs.Body.Courses

/-!
# Bodies are delivered in order

What a reader finds is what the frames of the body say: the pump reads the items one by one, queues
each of them once, and the reader takes them from the front. This holds for every order in which
frames arrive, parts are asked for and looked for, and the pump takes its turns, as long as nobody
loses interest and no time limit is over.
-/

namespace HttpClient

/-- What a reader finds that takes this from the queue. -/
def Queued.reading : Queued → Body.Reading
  | part p => .part p
  | error e => .error e

namespace Channel

/-- What the reader has found, without the times when there was nothing yet. -/
def heard (c : Channel) : List Body.Reading := c.found.filter (· ≠ .pending)

/-- True when an event would cut a body short: its reader loses interest, or the pump takes its turn
after it was told to stop or too late. -/
def isDisturbed (c : Channel) : BodyEvent → Bool
  | .cancel => true
  | .pump now tokenCanceled => tokenCanceled || c.body.timesOut now c.inbox
  | _ => false

/-- True when none of the events cuts the body short. -/
def isCalm (c : Channel) : List BodyEvent → Bool
  | [] => true
  | event :: events => !c.isDisturbed event && (c.step event).isCalm events

/-- A reader has found the bytes of the first frames, each with more to come. -/
def Begun (i : Inbox) (readings : List Body.Reading) : Prop :=
  ∃ parts, parts <+: i.payloads ∧ readings = parts.map fun bytes => .part ⟨bytes, false⟩

/-- A reader has found the bytes of all frames and the end, and then nothing more. -/
inductive Ended (i : Inbox) (url : Url) : List Body.Reading → Prop
  /-- One part, at the end, is marked as the last; it is empty where the end is known only after the
  last bytes. Together the parts are the whole body. -/
  | whole (parts : List Bytes) (last : Bytes) (n : Nat) (houtcome : i.outcome? = some .complete)
    (hparts : i.payloads = parts ++ if last.isEmpty then [] else [last])
    (hbytes : (parts ++ [last]).flatten = i.content) :
    Ended i url ((parts.map fun bytes => .part ⟨bytes, false⟩) ++
      .part ⟨last, true⟩ :: List.replicate n .finished)
  | broken (n : Nat) (houtcome : i.outcome? = some .broken) :
    Ended i url ((i.payloads.map fun bytes => .part ⟨bytes, false⟩) ++
      .error ((Error.of .body (.wire .brokenBody)).withUrl url) :: List.replicate n .finished)

/-- The story of a channel that nothing disturbed. -/
structure Flow (c : Channel) (url : Url) : Prop where
  about : c.body.url = url
  live : c.body.demand.isCanceled = false
  inbox : c.inbox = { c.arrived with frames := c.inbox.frames }
  sent : c.sent = c.items.map (Queued.ofItem url)
  /-- While the pump goes on, the items read and those to come are all items, whatever arrives. -/
  ahead : c.body.phase ≠ .stopped → (∀ item ∈ c.items, item.isTerminal = false) ∧
    ∀ ending more, Inbox.itemsOf ending (c.arrived.frames ++ more) =
      c.items ++ Inbox.itemsOf ending (c.inbox.frames ++ more)
  /-- The pump has stopped after the item that ends the body. -/
  closed : c.body.phase = .stopped → c.arrived.items = c.items ∧
    ∃ before last, c.items = before ++ [last] ∧ (∀ item ∈ before, item.isTerminal = false) ∧
      last.isTerminal = true
  found : ∃ taken n, c.sent = taken ++ c.body.queue ∧
    c.heard = taken.map Queued.reading ++ List.replicate n .finished ∧
      (n ≠ 0 → c.body.isDone = true)
  done : c.body.isDone = true ↔ c.body.phase = .stopped ∧ c.body.queue = []

variable {c : Channel} {url : Url}

theorem Flow.start (b : Body) (inbox : Inbox) : (Channel.start b inbox).Flow b.url where
  about := rfl
  live := rfl
  inbox := rfl
  sent := rfl
  ahead _ := ⟨fun _ hmem => absurd hmem List.not_mem_nil, fun _ _ => rfl⟩
  closed := nofun
  found := ⟨[], 0, rfl, rfl, fun h => absurd rfl h⟩
  done := ⟨nofun, fun h => nomatch h.1⟩

/-- While the pump goes on, what was not read is left to read. -/
theorem Flow.going (h : c.Flow url) (hopen : c.body.phase ≠ .stopped) : c.Ahead :=
  ⟨h.inbox, (h.ahead hopen).2⟩

/-- What arrives is for the pump to read, or too late to matter. -/
theorem Flow.arrive (h : c.Flow url) (arrival : Arrival) : (c.step (.arrive arrival)).Flow url := by
  obtain ⟨more, -, hinbox⟩ := inbox_arrive h.inbox arrival
  refine ⟨h.about, h.live, ?_, h.sent, fun hopen => ?_, fun hstopped => ?_, h.found, h.done⟩
  · change c.inbox.receive arrival =
      { c.arrived.receive arrival with frames := (c.inbox.receive arrival).frames }
    rw [hinbox]
  · exact ⟨(h.ahead hopen).1, ((h.going hopen).arrive arrival).items⟩
  · obtain ⟨hitems, before, last, hsplit, hbefore, hlast⟩ := h.closed hstopped
    refine ⟨?_, before, last, hsplit, hbefore, hlast⟩
    have hmem : last ∈ c.arrived.items := by
      rw [hitems, hsplit]
      exact List.mem_append_right _ (List.mem_singleton_self _)
    exact (Inbox.items_receive hmem hlast arrival).trans hitems

theorem Flow.request (h : c.Flow url) (n : Nat) : (c.step (.request n)).Flow url := by
  have hlive : (c.body.demand.request n).isCanceled = false := by
    unfold Demand.request
    split <;> exact h.live
  exact ⟨h.about, hlive, h.inbox, h.sent, h.ahead, h.closed, h.found, h.done⟩

theorem Flow.pulled (h : c.Flow url) (pull : Bool) : (c.pulled pull).Flow url := by
  unfold Channel.pulled
  split
  · exact h.request 1
  · exact h

/-- What ends the queue of a channel that nothing disturbed ends what was sent. -/
theorem Flow.terminal {taken rest : List Queued} {q : Queued} (h : c.Flow url)
    (hsent : c.sent = taken ++ q :: rest) (hend : q.isTerminal = true) :
    c.body.phase = .stopped ∧ rest = [] := by
  have hmem : q ∈ c.items.map (Queued.ofItem url) := by
    rw [← h.sent, hsent]
    exact List.mem_append_right _ List.mem_cons_self
  obtain ⟨item, hitem, rfl⟩ := List.mem_map.mp hmem
  rw [Queued.isTerminal_ofItem] at hend
  have hstopped : c.body.phase = .stopped := by
    by_cases hopen : c.body.phase = .stopped
    · exact hopen
    · rw [(h.ahead hopen).1 item hitem] at hend
      cases hend
  refine ⟨hstopped, ?_⟩
  obtain ⟨-, before, last, hsplit, hbefore, hlast⟩ := h.closed hstopped
  rcases List.eq_nil_or_concat rest with hnil | ⟨front, final, hfront⟩
  · exact hnil
  · -- Then what ends the body would stand before the last item.
    subst hfront
    have hall : taken ++ Queued.ofItem url item :: front = before.map (Queued.ofItem url) := by
      have heq := h.sent
      rw [hsent, hsplit, List.map_append, List.concat_eq_append, ← List.cons_append,
        ← List.append_assoc] at heq
      exact (List.append_inj' heq rfl).1
    have hfound : Queued.ofItem url item ∈ before.map (Queued.ofItem url) := by
      rw [← hall]
      exact List.mem_append_right _ List.mem_cons_self
    obtain ⟨other, hother, heq⟩ := List.mem_map.mp hfound
    have hnot := hbefore other hother
    rw [← Queued.isTerminal_ofItem url, heq, Queued.isTerminal_ofItem, hend] at hnot
    cases hnot

/-- What is found is heard, unless it is that there is nothing yet. -/
theorem heard_look (c : Channel) (reading : Body.Reading) (next : Body) :
    (c.look reading next).heard = c.heard ++ [reading].filter (· ≠ .pending) :=
  List.filter_append ..

/-- A reader that is served takes the first of the queue. -/
theorem Flow.take {q : Queued} {rest : List Queued} {next : Body} (h : c.Flow url)
    (hin : c.body.isOut = false) (hqueue : c.body.queue = q :: rest)
    (habout : next.url = c.body.url) (hphase : next.phase = c.body.phase)
    (hrest : next.queue = rest) (hlive : next.demand.isCanceled = false)
    (hdone : next.isDone = q.isTerminal) :
    (c.look q.reading next).Flow url := by
  obtain ⟨taken, n, hsent, hheard, hout⟩ := h.found
  rw [hqueue] at hsent
  have hzero : n = 0 := by
    by_cases hn : n = 0
    · exact hn
    · have hisOut := hout hn
      rw [(Bool.or_eq_false_iff.mp hin).1] at hisOut
      cases hisOut
  subst hzero
  have hreading : q.reading ≠ .pending := by cases q <;> nofun
  refine ⟨habout.trans h.about, hlive, h.inbox, h.sent, ?_, ?_, ?_, ?_⟩
  · exact fun hopen => h.ahead (by rwa [← hphase])
  · exact fun hstopped => h.closed (by rwa [← hphase])
  · refine ⟨taken ++ [q], 0, ?_, ?_, fun hne => absurd rfl hne⟩
    · change c.sent = taken ++ [q] ++ next.queue
      rw [hsent, hrest, List.append_assoc, List.singleton_append]
    · rw [heard_look, hheard, List.filter_cons_of_pos (by simpa using hreading), List.map_append]
      simp only [List.filter_nil, List.replicate_zero, List.append_nil, List.map_cons,
        List.map_nil]
  · change next.isDone = true ↔ next.phase = .stopped ∧ next.queue = []
    rw [hdone, hphase, hrest]
    refine ⟨fun hend => h.terminal hsent hend, fun ⟨hstopped, hnil⟩ => ?_⟩
    -- The last of what was sent is what ends the body.
    subst hnil
    obtain ⟨-, before, last, hsplit, -, hlast⟩ := h.closed hstopped
    have heq := h.sent
    rw [hsent, hsplit, List.map_append] at heq
    have hq := List.singleton_inj.mp (List.append_inj' heq rfl).2
    rw [hq, Queued.isTerminal_ofItem]
    exact hlast

/-- A reader finds what is next in the story. -/
theorem Flow.look {reading : Body.Reading} {next : Body} (h : c.Flow url)
    (hlook : c.body.Looked reading next) : (c.look reading next).Flow url := by
  obtain ⟨taken, n, hsent, hheard, hout⟩ := h.found
  cases hlook with
  | finished hisOut =>
    have hdone : c.body.isDone = true := by
      have hor := Bool.or_eq_true_iff.mp hisOut
      rw [h.live] at hor
      exact hor.resolve_right nofun
    refine ⟨h.about, h.live, h.inbox, h.sent, h.ahead, h.closed, ?_, h.done⟩
    refine ⟨taken, n + 1, hsent, ?_, fun _ => hdone⟩
    rw [heard_look, hheard, List.append_assoc, List.replicate_succ']
    rfl
  | pending =>
    refine ⟨h.about, h.live, h.inbox, h.sent, h.ahead, h.closed, ?_, h.done⟩
    refine ⟨taken, n, hsent, ?_, hout⟩
    rw [heard_look, hheard]
    exact List.append_nil _
  | @part p rest hin hqueue => exact h.take (q := .part p) hin hqueue rfl rfl rfl h.live rfl
  | @error e rest hin hqueue => exact h.take (q := .error e) hin hqueue rfl rfl rfl h.live rfl
  | short hin hqueue hphase =>
    have hdone := h.done.mpr ⟨hphase, hqueue⟩
    rw [(Bool.or_eq_false_iff.mp hin).1] at hdone
    cases hdone

/-- Where nothing disturbs a body its pump has no reason to stop. -/
theorem Flow.undisturbed {now : Nat} {tokenCanceled : Bool} (h : c.Flow url)
    (hcalm : c.isDisturbed (.pump now tokenCanceled) = false) :
    (c.body.demand.isCanceled || tokenCanceled || c.body.timesOut now c.inbox) = false := by
  rw [h.live, Bool.false_or]
  exact hcalm

/-- The pump goes through the items. -/
theorem Flow.pump {d : Channel} {now : Nat} {tokenCanceled : Bool} (h : c.Flow url)
    (hcalm : c.isDisturbed (.pump now tokenCanceled) = false)
    (hpump : c.Pumps now tokenCanceled d) : d.Flow url := by
  obtain ⟨taken, n, hsent, hheard, hout⟩ := h.found
  cases hpump with
  | rest => exact h
  | spend hphase hcredit hlive =>
    have hopen : c.body.phase ≠ .stopped := by
      rw [hphase]
      nofun
    have hnot : ¬c.body.isDone = true := fun hdone => hopen (h.done.mp hdone).1
    refine ⟨h.about, h.live, h.inbox, h.sent, fun _ => h.ahead hopen, nofun, ?_, ?_⟩
    · exact ⟨taken, n, hsent, hheard, hout⟩
    · exact ⟨fun hdone => absurd hdone hnot, fun hstopped => nomatch hstopped.1⟩
  | @take limit item left hphase hread hlive =>
    have hopen : c.body.phase ≠ .stopped := by
      rw [hphase]
      nofun
    have hnot : ¬c.body.isDone = true := fun hdone => hopen (h.done.mp hdone).1
    obtain ⟨hbefore, -⟩ := h.ahead hopen
    obtain ⟨hleft, hlast, hmore⟩ := (h.going hopen).take hread
    rw [h.about]
    refine ⟨h.about, h.live, hleft, ?_, fun hgoes => ?_, fun hends => ?_, ?_, ?_⟩
    · change c.sent ++ [Queued.ofItem url item] = (c.items ++ [item]).map (Queued.ofItem url)
      rw [h.sent, List.map_append]
      rfl
    · have hnext : item.isTerminal = false := by
        rw [← Bool.not_eq_true, ← Queued.isTerminal_ofItem url]
        exact fun hend => hgoes ((Queued.stops_iff _).mpr hend)
      refine ⟨fun other hother => ?_, hmore hnext⟩
      rcases List.mem_append.mp hother with hother | hother
      · exact hbefore other hother
      · rw [List.mem_singleton.mp hother]
        exact hnext
    · have hend : item.isTerminal = true := by
        rw [← Queued.isTerminal_ofItem url]
        exact (Queued.stops_iff _).mp hends
      exact ⟨hlast hend, c.items, item, rfl, hbefore, hend⟩
    · refine ⟨taken, n, ?_, hheard, hout⟩
      change c.sent ++ [Queued.ofItem url item] =
        taken ++ (c.body.queue ++ [Queued.ofItem url item])
      rw [hsent, List.append_assoc]
    · refine ⟨fun hdone => absurd hdone hnot, fun hempty => ?_⟩
      exact absurd hempty.2 (List.append_ne_nil_of_right_ne_nil _ nofun)
  | stop e hopen hwhy hleft =>
    rw [h.undisturbed hcalm] at hwhy
    cases hwhy

/-- The story goes on with every event that does not cut it short. -/
theorem Flow.step (h : c.Flow url) {event : BodyEvent} (hcalm : c.isDisturbed event = false) :
    (c.step event).Flow url := by
  cases event with
  | arrive arrival => exact h.arrive arrival
  | request n => exact h.request n
  | cancel => cases hcalm
  | read pull =>
    obtain ⟨hlook, heq⟩ := c.step_read pull
    rw [heq]
    exact (h.pulled pull).look hlook
  | pump now tokenCanceled => exact h.pump hcalm (c.pumps_step now tokenCanceled)

theorem Flow.run (h : c.Flow url) {events : List BodyEvent} (hcalm : c.isCalm events = true) :
    (c.run events).Flow url := by
  induction events generalizing c with
  | nil => exact h
  | cons event events ih =>
    rw [isCalm, Bool.and_eq_true, Bool.not_eq_true'] at hcalm
    exact ih (h.step hcalm.1) hcalm.2

/-- The items read are the first of all that have arrived, and all once the pump has stopped. -/
theorem Flow.items_prefix (h : c.Flow url) : c.items <+: c.arrived.items := by
  by_cases hstopped : c.body.phase = .stopped
  · exact ⟨[], by rw [List.append_nil, (h.closed hstopped).1]⟩
  · have hall := (h.ahead hstopped).2 c.arrived.ending []
    rw [List.append_nil, List.append_nil] at hall
    exact ⟨_, hall.symm⟩

/-- A reader that is done has found everything. -/
theorem Flow.ended (h : c.Flow url) (hhonest : Inbox.isHonest c.arrived.frames = true)
    (hdone : c.body.isDone = true) : Ended c.arrived url c.heard := by
  obtain ⟨taken, n, hsent, hheard, -⟩ := h.found
  obtain ⟨hstopped, hqueue⟩ := h.done.mp hdone
  obtain ⟨hitems, before, last, hsplit, -, hlast⟩ := h.closed hstopped
  rw [hqueue, List.append_nil, h.sent, ← hitems] at hsent
  rw [← hitems] at hsplit
  rw [hheard, ← hsent]
  have htold := Inbox.told_items c.arrived hhonest
  generalize c.arrived.items = items at htold hsplit
  have hmap : ∀ parts : List Bytes, ((parts.map (BodyItem.data · false)).map
      (Queued.ofItem url)).map Queued.reading = parts.map fun bytes => .part ⟨bytes, false⟩ := by
    intro parts
    rw [List.map_map, List.map_map]
    rfl
  cases htold with
  | begun =>
    have hmem : last ∈ c.arrived.payloads.map (BodyItem.data · false) := by
      rw [hsplit]
      exact List.mem_append_right _ (List.mem_singleton_self _)
    obtain ⟨bytes, -, rfl⟩ := List.mem_map.mp hmem
    cases hlast
  | @last parts bytes houtcome hparts =>
    rw [List.map_append, List.map_append, hmap, List.append_assoc]
    refine .whole parts bytes n houtcome hparts ?_
    rw [← Inbox.flatten_payloads, hparts]
    cases bytes <;> simp
  | @ended ending houtcome =>
    rw [List.map_append, List.map_append, hmap, List.append_assoc]
    cases ending with
    | complete =>
      refine .whole c.arrived.payloads [] n houtcome (List.append_nil _).symm ?_
      rw [List.flatten_append, Inbox.flatten_payloads]
      exact List.append_nil _
    | broken => exact .broken n houtcome

/-- What a reader has taken that is not done does not end the body. -/
theorem Flow.open_of_taken {taken : List Queued} (h : c.Flow url) (hdone : c.body.isDone = false)
    (hsent : c.sent = taken ++ c.body.queue) : ∀ q ∈ taken, q.isTerminal = false := by
  intro q hq
  rw [← Bool.not_eq_true]
  intro hend
  obtain ⟨front, rest, rfl⟩ := List.append_of_mem hq
  rw [List.append_assoc, List.cons_append] at hsent
  obtain ⟨hstopped, hnil⟩ := h.terminal hsent hend
  have hqueue := (List.append_eq_nil_iff.mp hnil).2
  rw [h.done.mpr ⟨hstopped, hqueue⟩] at hdone
  cases hdone

/-- What does not end the body stops short of what ends it. -/
theorem prefix_of_open {taken front : List Queued} {ends : List BodyItem}
    (hfirst : taken <+: front ++ ends.map (Queued.ofItem url))
    (hends : ∀ item ∈ ends, item.isTerminal = true) (hopen : ∀ q ∈ taken, q.isTerminal = false) :
    taken <+: front := by
  rcases List.prefix_or_prefix_of_prefix hfirst (List.prefix_append _ _) with hless | ⟨more, rfl⟩
  · exact hless
  · have hmore : more = [] := by
      rw [List.eq_nil_iff_forall_not_mem]
      intro q hq
      obtain ⟨item, hitem, rfl⟩ := List.mem_map.mp
        (((List.prefix_append_right_inj _).mp hfirst).subset hq)
      have hnot := hopen _ (List.mem_append_right _ hq)
      rw [Queued.isTerminal_ofItem, hends item hitem] at hnot
      cases hnot
    exact ⟨[], by rw [hmore, List.append_nil, List.append_nil]⟩

/-- A reader that is not done has found the bytes of the first frames. -/
theorem Flow.begun (h : c.Flow url) (hhonest : Inbox.isHonest c.arrived.frames = true)
    (hdone : c.body.isDone = false) : Begun c.arrived c.heard := by
  obtain ⟨taken, n, hsent, hheard, hout⟩ := h.found
  have hzero : n = 0 := by
    by_cases hn : n = 0
    · exact hn
    · rw [hout hn] at hdone
      cases hdone
  subst hzero
  rw [List.replicate_zero, List.append_nil] at hheard
  have hopen := h.open_of_taken hdone hsent
  obtain ⟨parts, ends, hitems, hparts, hends, -⟩ := (Inbox.told_items c.arrived hhonest).split
  have hfirst : taken <+: parts.map (fun bytes => Queued.part ⟨bytes, false⟩) ++
      ends.map (Queued.ofItem url) := by
    have hall : taken <+: c.arrived.items.map (Queued.ofItem url) :=
      (List.prefix_append taken c.body.queue).trans
        (by rw [← hsent, h.sent]; exact h.items_prefix.map _)
    rwa [hitems, List.map_append, List.map_map] at hall
  have hshort := prefix_of_open hfirst hends hopen
  refine ⟨parts.take taken.length, (List.take_prefix _ _).trans hparts, ?_⟩
  have htaken : taken = (parts.take taken.length).map fun bytes => Queued.part ⟨bytes, false⟩ := by
    rw [List.map_take]
    exact List.prefix_iff_eq_take.mp hshort
  generalize taken.length = count at htaken
  rw [hheard, htaken, List.map_map]
  rfl

end Channel

end HttpClient
