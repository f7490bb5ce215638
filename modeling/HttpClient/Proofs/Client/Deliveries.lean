import HttpClient.Proofs.Client.Fates
import HttpClient.Proofs.Client.Trail
import HttpClient.Proofs.Exchange.Attendance

/-!
# Deliveries

A request that is submitted with a consumer is followed through everything that happens to the
client: what was read of its body, and what passed between it and the consumer. Every event keeps
what the exchange owes its consumer, and the turns that are left lead the delivery to its end.
-/

namespace HttpClient

/-- What was read of the body of an exchange for its reader. -/
def Journal.streamed (j : Journal) (id : ExchangeId) : List BodyItem :=
  j.filterMap fun entry => if entry.1 = id then entry.2.streamed? else none

/-- What a consumer signals outside its calls. -/
def Event.demand? (id : ExchangeId) : Event → Option DemandCall
  | .request other n => if other = id then some (.request n) else none
  | .cancelBody other => if other = id then some .cancel else none
  | _ => none

namespace Client

open Exchange

/-- What passes between an exchange and its consumer in an event. -/
def cue (c : Client) (id : ExchangeId) (event : Event) : List Cue :=
  let signal? := (event.demand? id).bind fun call => (c.body? id).map fun _ => Cue.signal call
  signal?.toList ++
    match c.exchange? id, (c.step event).exchange? id with
    | some x, some y => x.cuesTo y
    | _, _ => []

/-- What passes between an exchange and its consumer in events, one after the other. -/
def cues (c : Client) (id : ExchangeId) : List Event → List Cue
  | [] => []
  | event :: events => c.cue id event ++ (c.step event).cues id events

/-- A client on which a request with a consumer has come so far. -/
def Serves (c : Client) (id : ExchangeId) (token : Option TokenId) (deadline : Option Nat)
    (consumer : Consumer) (items : List BodyItem) (cues : List Cue) : Prop :=
  ∃ x, c.exchange? id = some x ∧ x.Attends c.shared token deadline consumer items cues

variable {c : Client} {id : ExchangeId} {x y : Exchange} {event : Event} {token : Option TokenId}
  {deadline : Option Nat} {consumer : Consumer} {items : List BodyItem} {cues : List Cue}

/-- A client after an event is a later one. -/
theorem later_step (c : Client) (event : Event) : c.shared.Later (c.step event).shared := by
  have hbody : ∀ (other : ExchangeId) (f : Body → Body),
      (c.updateBody other f).shared.given = c.shared.given := by
    intro other f
    unfold updateBody
    split <;> rfl
  cases event with
  | tick millis => exact ⟨rfl, Nat.le_add_right _ _, List.Subset.refl _⟩
  | cancelToken other => exact ⟨rfl, Nat.le_refl _, List.subset_cons_self _ _⟩
  | submit | dialed | arrive => exact .of_given rfl
  | request other n => exact .of_given (hbody other _)
  | cancelBody other => exact .of_given (hbody other _)
  | read other =>
    refine .of_given ?_
    rw [Client.step, Client.read]
    split
    · exact hbody other _
    · rfl
  | drop other =>
    refine .of_given ?_
    rw [Client.step]
    split
    · rename_i w _
      exact given_moves (w.drop_moves c.shared)
    · rfl
  | run task =>
    rcases c.step_run_cases task with ⟨heq, -⟩ | ⟨w, z, t, -, hturn, heq⟩
    · rw [heq]
      exact .of_given rfl
    · rw [heq]
      refine .of_given ?_
      cases task with
      | exchange other =>
        obtain ⟨said, -, hmoves⟩ := step_moves hturn
        exact given_moves hmoves
      | pump other => exact given_moves (pumpStep_moves hturn)
      | delivery other =>
        obtain ⟨next, -, heq⟩ := Option.map_eq_some_iff.mp hturn
        obtain ⟨-, rfl⟩ := Prod.mk.inj heq
        rfl

/-- What is read of the body of an exchange in the turn of some exchange is what that one reads. -/
theorem streamed_noted (hx : c.exchange? id = some x) (hy : (c.step event).exchange? id = some y)
    (other : ExchangeId) (hears : Exchange → List Note) :
    (c.noted event other hears).streamed id =
      if other = id then (hears x).filterMap Note.streamed? else [] := by
  by_cases hother : other = id
  · subst hother
    have hown := Journal.filterMap_own Note.streamed? [] other other
      (hears x ++ (c.newActions event).filterMap (Action.note? y))
    have hsaid :
        ((c.newActions event).filterMap (Action.note? y)).filterMap Note.streamed? = [] := by
      rw [List.filterMap_filterMap, List.filterMap_eq_nil_iff]
      rintro (_ | _ | _) - <;> rfl
    rw [if_pos rfl, List.filterMap_append (f := Note.streamed?), hsaid, List.append_nil] at hown
    rw [if_pos rfl]
    simp only [noted, hx, hy]
    exact hown
  · rw [if_neg hother]
    unfold noted
    split
    · exact (Journal.filterMap_own Note.streamed? [] id other _).trans (if_neg hother)
    · rfl

/-- In its own turn an exchange reads nothing for a reader. -/
theorem streamed_exchange {other : ExchangeId} (hx : c.exchange? id = some x)
    (hy : (c.step (.run (.exchange other))).exchange? id = some y) :
    (c.notes (.run (.exchange other))).streamed id = [] := by
  refine (streamed_noted hx hy other _).trans ?_
  rw [streamed_hears, ite_self]

/-- Where the consumer signals nothing, what passes is what passes in its calls. -/
theorem cue_of_silent (hx : c.exchange? id = some x) (hy : (c.step event).exchange? id = some y)
    (hdemand : event.demand? id = none) : c.cue id event = x.cuesTo y := by
  simp only [cue, hdemand, hx, hy]
  rfl

namespace Serves

/-- An event that leaves the exchange alone. -/
private theorem quiet (hx : c.exchange? id = some x)
    (h : x.Attends c.shared token deadline consumer items cues)
    (hsame : (c.step event).exchange? id = some x) (hdemand : event.demand? id = none)
    (hnotes : (c.notes event).streamed id = []) :
    (c.step event).Serves id token deadline consumer (items ++ (c.notes event).streamed id)
      (cues ++ c.cue id event) := by
  rw [cue_of_silent hx hsame hdemand, cuesTo_of_delivery rfl, hnotes, List.append_nil,
    List.append_nil]
  exact ⟨x, hsame, h.later (c.later_step event)⟩

/-- A task takes its turn. -/
private theorem task (h : c.Serves id token deadline consumer items cues) (task : Task) :
    (c.step (.run task)).Serves id token deadline consumer
      (items ++ (c.notes (.run task)).streamed id) (cues ++ c.cue id (.run task)) := by
  obtain ⟨x, hx, hattends⟩ := h
  rcases c.step_run_cases task with ⟨heq, hidle⟩ | ⟨w, z, t, hw, hturn, hput⟩
  · have hsame : (c.step (.run task)).exchange? id = some x := by rw [heq, hx]
    refine quiet hx hattends hsame rfl ?_
    cases task with
    | exchange other => exact streamed_exchange hx hsame
    | pump other =>
      refine (streamed_noted hx hsame other _).trans ?_
      split
      · rename_i hother
        subst hother
        rw [pumpHears_of_idle (hidle x hx)]
        rfl
      · rfl
    | delivery other => rfl
  · rcases exchange?_put (z := z) (t := t) hx hw with ⟨hz, hother, rfl⟩ | ⟨hz, hother⟩
    · rw [← hput] at hz
      rw [cue_of_silent hx hz rfl]
      have hlater := c.later_step (.run task)
      cases task with
      | exchange other =>
        rw [streamed_exchange hx hz, List.append_nil]
        exact ⟨z, hz, (hattends.step hturn).later hlater⟩
      | pump other =>
        have hread : (c.notes (.run (.pump other))).streamed id =
            (w.pumpHears c.shared).filterMap Note.streamed? :=
          (streamed_noted hx hz other _).trans (if_pos hother)
        rw [hread]
        exact ⟨z, hz, (hattends.pump hturn).later hlater⟩
      | delivery other =>
        obtain ⟨next, hnext, heq⟩ := Option.map_eq_some_iff.mp hturn
        obtain ⟨rfl, -⟩ := Prod.mk.inj heq
        have hread : (c.notes (.run (.delivery other))).streamed id = [] := rfl
        rw [hread, List.append_nil]
        exact ⟨_, hz, (hattends.deliver hnext).later hlater⟩
    · rw [← hput] at hz
      refine quiet hx hattends hz rfl ?_
      cases task with
      | exchange other => exact streamed_exchange hx hz
      | pump other => exact (streamed_noted hx hz other _).trans (if_neg hother)
      | delivery other => rfl

/-- The consumer signals something. -/
private theorem signal (h : c.Serves id token deadline consumer items cues) {call : DemandCall}
    (hdemand : event.demand? id = some call)
    (hstep : c.step event = c.updateBody id (Delivery.apply · [call])) :
    (c.step event).Serves id token deadline consumer items (cues ++ c.cue id event) := by
  obtain ⟨x, hx, hattends⟩ := h
  have hy : (c.step event).exchange? id = some (x.updateBody (Delivery.apply · [call])) := by
    rw [hstep, updateBody, hx]
    exact exchange?_put_self hx
  have hdelivery : (x.updateBody (Delivery.apply · [call])).delivery = x.delivery := by
    unfold Exchange.updateBody
    split <;> rfl
  have hcue : c.cue id event = (x.body?.map fun _ => Cue.signal call).toList := by
    have hbody : c.body? id = x.body? := by rw [body?, hx, Option.bind_some]
    simp only [cue, hdemand, hx, hy, cuesTo_of_delivery hdelivery, hbody, Option.bind_some,
      List.append_nil]
  rw [hcue]
  exact ⟨_, hy, (hattends.signal call).later (c.later_step event)⟩

/-- Whatever happens, unless somebody else reads or drops the body. -/
theorem next (h : c.Serves id token deadline consumer items cues) (event : Event)
    (hread : event ≠ .read id) (hdrop : event ≠ .drop id) :
    (c.step event).Serves id token deadline consumer (items ++ (c.notes event).streamed id)
      (cues ++ c.cue id event) := by
  have hstreamed : ∀ {event : Event}, c.notes event = [] →
      items ++ (c.notes event).streamed id = items := by
    intro event hnone
    rw [hnone]
    exact List.append_nil items
  obtain ⟨x, hx, hattends⟩ := h
  have hserves : c.Serves id token deadline consumer items cues := ⟨x, hx, hattends⟩
  have hother : ∀ {other : ExchangeId} {f : Body → Body}, other ≠ id →
      (c.updateBody other f).exchange? id = some x := by
    intro other f hne
    unfold updateBody
    split
    · rw [exchange?_put_of_ne (Ne.symm hne), hx]
    · exact hx
  cases event with
  | tick | dialed | arrive | cancelToken => exact quiet hx hattends hx rfl rfl
  | submit request later =>
    refine quiet hx hattends ?_ rfl rfl
    obtain ⟨hid, -⟩ := List.getElem?_eq_some_iff.mp hx
    rw [exchange?, Client.step, List.getElem?_append_left hid]
    exact hx
  | run task => exact hserves.task task
  | request other n =>
    by_cases hown : other = id
    · subst hown
      rw [hstreamed rfl]
      exact hserves.signal (if_pos rfl) rfl
    · exact quiet hx hattends (hother hown) (if_neg hown) rfl
  | cancelBody other =>
    by_cases hown : other = id
    · subst hown
      rw [hstreamed rfl]
      exact hserves.signal (if_pos rfl) rfl
    · exact quiet hx hattends (hother hown) (if_neg hown) rfl
  | read other =>
    have hne : other ≠ id := fun heq => hread (congrArg Event.read heq)
    refine quiet hx hattends ?_ rfl rfl
    rw [Client.step, Client.read]
    split
    · exact hother hne
    · exact hx
  | drop other =>
    have hne : other ≠ id := fun heq => hdrop (congrArg Event.drop heq)
    have hsame : (c.step (.drop other)).exchange? id = some x := by
      rw [Client.step]
      split
      · dsimp only
        rw [exchange?_put_of_ne (Ne.symm hne), hx]
      · exact hx
    exact quiet hx hattends hsame rfl ((streamed_noted hx hsame other _).trans (if_neg hne))

/-- However it goes on. -/
theorem run (h : c.Serves id token deadline consumer items cues) (events : List Event)
    (hread : .read id ∉ events) (hdrop : .drop id ∉ events) :
    (c.run events).Serves id token deadline consumer (items ++ (c.journal events).streamed id)
      (cues ++ c.cues id events) := by
  induction events generalizing c items cues with
  | nil =>
    rw [journal, Client.cues, Journal.streamed, List.filterMap_nil, List.append_nil,
      List.append_nil]
    exact h
  | cons event events ih =>
    have hnext := h.next event (fun heq => hread (heq ▸ List.mem_cons_self))
      fun heq => hdrop (heq ▸ List.mem_cons_self)
    have hrest := ih hnext (fun hmem => hread (List.mem_cons_of_mem _ hmem))
      fun hmem => hdrop (List.mem_cons_of_mem _ hmem)
    rw [List.append_assoc, List.append_assoc] at hrest
    rw [journal, Journal.streamed, List.filterMap_append]
    exact hrest

end Serves

/-- A request that is submitted with a consumer. -/
theorem serves_submit (c : Client) (r : Request) (consumer : Consumer) :
    (c.step (.submit r (some consumer))).Serves c.exchanges.length r.cancel
      ((r.timeout.or c.shared.settings.requestTimeout).map (c.shared.now + ·)) consumer [] [] :=
  ⟨_, List.getElem?_concat_length .., .waiting rfl rfl⟩

section Endings

variable {head : ResponseHead} {b : Body} {d : Delivery} {why : Error → Prop}

/-- The pump of an exchange takes its turn. -/
theorem exchange?_pumped (hx : c.exchange? id = some x) (hphase : x.phase = .answered head b) :
    (c.step (.run (.pump id))).exchange? id =
      some { x with phase := .answered head (c.shared.pumped b) } := by
  rcases pumpStep_cases c.shared hphase with ⟨hnone, hsame⟩ | ⟨t, hsome⟩
  · rw [step_run_of_wait (.pump id) hx hnone, hx, hsame, ← hphase]
  · exact exchange?_run_of_turn (.pump id) hx hsome

/-- Once the pump has stopped a delivery comes to its end in its next turns. -/
theorem finished_of_stopped (hx : c.exchange? id = some x) (hphase : x.phase = .answered head b)
    (hdelivery : x.delivery = some d) (hattended : Attended why d b items cues)
    (hstopped : b.phase = .stopped) :
    ∃ turns y e next later,
      (c.run (List.replicate turns (.run (.delivery id)))).exchange? id = some y ∧
        y.delivery = some e ∧ e.phase = .finished ∧ Attended why e next items later := by
  induction hleft : d.left b using Nat.strong_induction_on generalizing c x d b cues with
  | _ left ih =>
    by_cases hdone : d.phase = .finished
    · exact ⟨0, x, d, b, cues, hx, hdelivery, hdone, hattended⟩
    · obtain ⟨e, next, hstep, hstill, hless⟩ := d.step_of_stopped hdone hstopped
      have hturn : (c.turn? (.delivery id)).2 x =
          some ({ x with phase := .answered head next, delivery := some e }, c.shared) := by
        simp only [turn?, deliverStep, hphase, hdelivery, hstep, Option.map_some]
      obtain ⟨turns, hrest⟩ := ih _ (hleft ▸ hless) (exchange?_run_of_turn (.delivery id) hx hturn)
        rfl rfl (hattended.step hstep) hstill rfl
      exact ⟨turns + 1, hrest⟩

/-- Where the pump is at its end a delivery comes to its end in the next turns; it is not completed
then if the pump went on so far. -/
theorem finished_of_cut (hx : c.exchange? id = some x) (hphase : x.phase = .answered head b)
    (hdelivery : x.delivery = some d) (hattended : Attended why d b items cues)
    (hcut : c.shared.IsEnding b) :
    ∃ turns y e,
      (c.run (.run (.pump id) :: .run (.pump id) ::
        List.replicate turns (.run (.delivery id)))).exchange? id = some y ∧
        y.delivery = some e ∧ e.phase = .finished ∧
          (b.phase ≠ .stopped → .complete ∉ e.calls) := by
  have hfirst := exchange?_pumped hx hphase
  have hsecond := exchange?_pumped hfirst rfl
  have hnow := (c.later_step (.run (.pump id))).now
  obtain ⟨hnone, hstopped⟩ := hcut.pumped hnow
  have hany : Attended (fun _ => True) d b items cues := hattended.mono fun _ _ => trivial
  have hpumped := hany.pumped c.shared fun _ _ _ => trivial
  rw [hcut.found?, Option.toList_none, List.append_nil] at hpumped
  have hagain := hpumped.pumped (c.step (.run (.pump id))).shared fun _ _ _ => trivial
  rw [hnone, Option.toList_none, List.append_nil] at hagain
  obtain ⟨turns, y, e, next, later, hy, he, hdone, hend⟩ :=
    finished_of_stopped hsecond rfl hdelivery hagain hstopped
  exact ⟨turns, y, e, hy, he, hdone, fun hopen =>
    hend.incomplete (hattended.course.going hopen).2.1⟩

end Endings

/-- What a consumer is told of a request. It is submitted to any client, and after that anything
happens, but for somebody else who reads or drops the body. Until the exchange ends nothing is told.
If it fails there is one error and nothing else. If there is a final response the calls follow the
protocol, and tell what became of the body: the parts are those that were read, in order; all of
them were given where there is a completion, and an error is the last that was read, or tells of the
token, the deadline or the time limit that cut the body short. At any time every part was asked for
before it was given. Once the pump has stopped, the consumer loses interest, the token is canceled
or the deadline is over, the delivery ends in the next turns, without completion if the pump went on
so far. The consumer is there all the time, and so for the next request. -/
theorem callbacks_follow_protocol (c : Client) (r : Request) (consumer : Consumer)
    (events : List Event) (hread : .read c.exchanges.length ∉ events)
    (hdrop : .drop c.exchanges.length ∉ events) :
    let id := c.exchanges.length
    let begun := c.step (.submit r (some consumer))
    let last := begun.run events
    let cues := begun.cues id events
    let items := (begun.journal events).streamed id
    let deadline := (r.timeout.or c.shared.settings.requestTimeout).map (c.shared.now + ·)
    ∃ x d, last.exchange? id = some x ∧ x.delivery = some d ∧ d.consumer = consumer ∧
      cues.filterMap Cue.told? = d.calls ∧ Cue.IsMeasured cues ∧
      ((x.isRunning = true ∧ d.phase = .starting ∧ d.calls = []) ∨
        (∃ e, x.phase = .failed e ∧ d.phase = .finished ∧ d.calls = [.error e]) ∨
        ∃ head b, x.phase = .answered head b ∧ Protocol cues d.phase d.calls ∧
          Faithful (last.shared.Cuts r.cancel deadline) b.url items d.calls ∧
          (b.phase = .stopped ∨ b.demand.isCanceled = true ∨
              last.shared.isCanceled r.cancel = true ∨ isOver deadline last.shared.now = true →
            ∃ turns y e,
              (last.run (.run (.pump id) :: .run (.pump id) ::
                List.replicate turns (.run (.delivery id)))).exchange? id = some y ∧
              y.delivery = some e ∧ e.phase = .finished ∧
                (b.phase ≠ .stopped → .complete ∉ e.calls))) := by
  intro id begun last cues items deadline
  obtain ⟨x, hx, hattends⟩ := (serves_submit c r consumer).run events hread hdrop
  rw [List.nil_append, List.nil_append] at hattends
  change x.Attends last.shared r.cancel deadline consumer items cues at hattends
  clear_value items cues
  cases hattends with
  | waiting hrunning hcharge =>
    exact ⟨x, _, hx, congrArg Charge.delivery hcharge, rfl, rfl, Cue.isMeasured_nil,
      Or.inl ⟨hrunning, rfl, rfl⟩⟩
  | failed hphase hdelivery =>
    refine ⟨x, _, hx, hdelivery, rfl, rfl, ?_, Or.inr (Or.inl ⟨_, hphase, rfl, rfl⟩)⟩
    exact Cue.isMeasured_nil.told rfl
  | @answered head first b d _ _ hphase hdelivery hconsumer hfresh hterms hevolves hattended =>
    refine ⟨x, d, hx, hdelivery, hconsumer, hattended.told, hattended.measured, Or.inr (Or.inr
      ⟨head, b, hphase, hattended.protocol, hattended.faithful, fun hends => ?_⟩)⟩
    refine finished_of_cut hx hphase hdelivery hattended ?_
    obtain ⟨htoken, hrest⟩ := Prod.mk.inj ((congrArg Prod.snd hevolves.terms).trans hterms)
    obtain ⟨hdeadline, -⟩ := Prod.mk.inj hrest
    rw [Shared.IsEnding, Body.isCut, htoken, hdeadline, Bool.or_eq_true, Bool.or_eq_true, or_assoc]
    exact hends

/-- A consumer that asks for one part after the other. -/
def oneByOne : Consumer := { onSubscribe := [.request 1], onPart := fun _ _ => [.request 1] }

/-- A request for something in two parts. -/
def page : Request :=
  { method := "GET"
    url := { scheme := "http", host := some (.domain "h.example"), path := .segments ["1"] } }

/-- The page arrives, and both its parts are delivered. -/
def fetched : List Event :=
  [.run (.exchange 0), .dialed 0 none, .run (.exchange 0), .arrive 0 (.head { status := 200 }),
    .run (.exchange 0), .run (.delivery 0), .arrive 0 (.frame (.data [1, 2] false)),
    .arrive 0 (.ending .complete), .run (.pump 0), .run (.pump 0), .run (.delivery 0),
    .run (.pump 0), .run (.pump 0), .run (.delivery 0)]

/-- Each part was asked for before it was given, and the last is followed by the completion. -/
theorem fetched_completes :
    .read 0 ∉ fetched ∧ .drop 0 ∉ fetched ∧
      ∃ x d, (((Client.make {} {}).step (.submit page (some oneByOne))).run fetched).exchange? 0 =
          some x ∧ x.delivery = some d ∧
        d.calls = [.subscribe, .part ⟨[1, 2], false⟩, .part ⟨[], true⟩, .complete] ∧
        Cue.IsMeasured (((Client.make {} {}).step (.submit page (some oneByOne))).cues 0 fetched) ∧
        Protocol (((Client.make {} {}).step (.submit page (some oneByOne))).cues 0 fetched)
          d.phase d.calls := by
  have hread : .read 0 ∉ fetched := by simp [fetched]
  have hdrop : .drop 0 ∉ fetched := by simp [fetched]
  refine ⟨hread, hdrop, ?_⟩
  obtain ⟨x, d, hx, hdelivery, -, htold, hmeasured, hends⟩ :=
    callbacks_follow_protocol (Client.make {} {}) page oneByOne fetched hread hdrop
  have hcalls : (((Client.make {} {}).step (.submit page (some oneByOne))).cues 0
      fetched).filterMap Cue.told? =
        [.subscribe, .part ⟨[1, 2], false⟩, .part ⟨[], true⟩, .complete] := by decide +kernel
  have hsame := htold.symm.trans hcalls
  refine ⟨x, d, hx, hdelivery, hsame, hmeasured, ?_⟩
  rcases hends with ⟨-, -, hnone⟩ | ⟨e, -, -, hone⟩ | ⟨head, b, -, hprotocol, -⟩
  · cases hsame.symm.trans hnone
  · cases hsame.symm.trans hone
  · exact hprotocol

end Client

end HttpClient
