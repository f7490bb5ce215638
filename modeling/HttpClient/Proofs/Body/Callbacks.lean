import HttpClient.Proofs.Body.Courses
import HttpClient.Proofs.Body.Cues

/-!
# Callbacks

A delivery to a consumer takes from the queue of a body what the pump put there, and makes a call
for it. One step of the delivery, one turn of the pump and one signal of the consumer keep the
protocol of the calls, whatever stops the pump and however they follow each other; so the calls tell
what became of the body, and once the pump has stopped the delivery comes to its end.
-/

namespace HttpClient

/-- A body and its delivery to a consumer, after the pump has read some items and these cues have
passed. -/
structure Attended (why : Error → Prop) (d : Delivery) (b : Body) (items : List BodyItem)
    (cues : List Cue) : Prop where
  course : b.Course why items (d.calls.filterMap Callback.taken?)
  told : cues.filterMap Cue.told? = d.calls
  protocol : Protocol cues d.phase d.calls
  measured : Cue.IsMeasured cues
  /-- A delivery that is over has dropped the body. -/
  account : d.phase ≠ .finished → Account b cues

namespace Body.Course

variable {why : Error → Prop} {b : Body} {items : List BodyItem} {taken : List Queued}

theorem apply (h : b.Course why items taken) (calls : List DemandCall) :
    (Delivery.apply b calls).Course why items taken := by
  induction calls generalizing b with
  | nil => exact h
  | cons call calls ih =>
    rw [Delivery.apply, List.foldl_cons, ← Delivery.apply]
    cases call with
    | request n => exact ih (h.request n)
    | cancel => exact ih h.cancel

theorem drop (h : b.Course why items taken) : b.drop.Course why items taken := by
  unfold Body.drop
  split
  · exact h
  · exact h.cancel

end Body.Course

namespace Delivery

variable {d e : Delivery} {b : Body}

/-- What a step of a delivery makes of it and of the body. -/
inductive Steps (d : Delivery) (b : Body) : Delivery → Body → Prop
  | subscribe (hphase : d.phase = .starting) :
    Steps d b { d.call .subscribe with phase := .running } (apply b d.consumer.onSubscribe)
  | part {part rest} (hphase : d.phase = .running) (hin : b.isOut = false)
    (hqueue : b.queue = .part part :: rest) (hmore : part.isLast = false) :
    Steps d b (d.call (.part part))
      (apply { b with demand := b.demand.received, queue := rest, isDone := part.isLast }
        (d.consumer.onPart d.parts part))
  | last {part rest} (hphase : d.phase = .running) (hin : b.isOut = false)
    (hqueue : b.queue = .part part :: rest) (hlast : part.isLast = true) :
    Steps d b ((d.call (.part part)).call .complete).finish
      (apply { b with demand := b.demand.received, queue := rest, isDone := part.isLast }
        (d.consumer.onPart d.parts part)).drop
  | error {e rest} (hphase : d.phase = .running) (hin : b.isOut = false)
    (hqueue : b.queue = .error e :: rest) :
    Steps d b (d.call (.error e)).finish { b with queue := rest, isDone := true }.drop
  /-- The pump has stopped without a last part. -/
  | short (hphase : d.phase = .running) (hin : b.isOut = false) (hqueue : b.queue = [])
    (hstopped : b.phase = .stopped) :
    Steps d b (d.call (.error (.of .body (.text "body ended before its last part")))).finish
      { b with isDone := true }.drop
  | quit (hphase : d.phase = .running) (hout : b.isOut = true) : Steps d b d.finish b.drop

/-- A step of a delivery is one of these; without one the delivery is over, or the queue is empty
and the pump goes on. -/
theorem steps_step (d : Delivery) (b : Body) :
    (∃ e next, d.step b = some (e, next) ∧ d.Steps b e next) ∨
      d.step b = none ∧
        (d.phase = .finished ∨ b.isOut = false ∧ b.queue = [] ∧ b.phase ≠ .stopped) := by
  cases hphase : d.phase with
  | finished => exact Or.inr ⟨by simp only [step, hphase], Or.inl rfl⟩
  | starting => exact Or.inl ⟨_, _, by simp only [step, hphase], .subscribe hphase⟩
  | running =>
    have hlook := b.looked_read false
    have hbody : (if b.isOut then b else b.pulled false) = b := by
      simp [Body.pulled]
    rw [hbody] at hlook
    rcases hread : b.read false with ⟨reading, found⟩
    rw [hread] at hlook
    cases hlook with
    | pending hin hqueue hopen =>
      exact Or.inr ⟨by simp only [step, hphase, hread], Or.inr ⟨hin, hqueue, hopen⟩⟩
    | finished hout => exact Or.inl ⟨_, _, by simp only [step, hphase, hread], .quit hphase hout⟩
    | error hin hqueue =>
      exact Or.inl ⟨_, _, by simp only [step, hphase, hread], .error hphase hin hqueue⟩
    | short hin hqueue hstopped =>
      exact Or.inl ⟨_, _, by simp only [step, hphase, hread], .short hphase hin hqueue hstopped⟩
    | @part part rest hin hqueue =>
      cases hlast : part.isLast with
      | true =>
        refine Or.inl ⟨_, _, ?_, .last hphase hin hqueue hlast⟩
        simp only [step, hphase, hread, hlast, if_true]
      | false =>
        refine Or.inl ⟨_, _, ?_, .part hphase hin hqueue hlast⟩
        simp only [step, hphase, hread, hlast, Bool.false_eq_true, if_false]

theorem steps_of_step {next : Body} (h : d.step b = some (e, next)) : d.Steps b e next := by
  rcases d.steps_step b with ⟨later, body, hstep, hsteps⟩ | ⟨hnone, -⟩
  · obtain ⟨rfl, rfl⟩ := Prod.mk.inj (Option.some.inj (hstep.symm.trans h))
    exact hsteps
  · cases hnone.symm.trans h

/-- A delivery keeps its consumer. -/
theorem consumer_step {next : Body} (h : d.step b = some (e, next)) : e.consumer = d.consumer := by
  cases steps_of_step h <;> rfl

/-- What passes for new calls. -/
theorem cuesTo_of_calls {new : List Callback} (h : e.calls = d.calls ++ new) :
    d.cuesTo e = new.flatMap fun callback =>
      .told callback :: (d.reaction callback).map .signal := by
  rw [cuesTo, h, List.drop_left]

/-- What a consumer does is no call. -/
theorem told_signals (calls : List DemandCall) :
    (calls.map Cue.signal).filterMap Cue.told? = [] := by
  rw [List.filterMap_map, List.filterMap_eq_nil_iff]
  exact fun _ _ => rfl

/-- The calls among the cues are the new calls. -/
theorem told_cuesTo {new : List Callback} (h : e.calls = d.calls ++ new) :
    (d.cuesTo e).filterMap Cue.told? = new := by
  rw [cuesTo_of_calls h]
  clear h
  induction new with
  | nil => rfl
  | cons callback new ih =>
    rw [List.flatMap_cons, List.filterMap_append, ih]
    exact congrArg (fun calls => callback :: calls ++ new) (told_signals _)

end Delivery

namespace Attended

variable {why : Error → Prop} {d e : Delivery} {b next : Body} {items : List BodyItem}
  {cues : List Cue}

/-- A delivery that nothing was done about. -/
theorem fresh (why : Error → Prop) (consumer : Consumer) (b : Body) :
    Attended why { consumer := consumer } b.fresh [] [] where
  course := .fresh why b
  told := rfl
  protocol := .starting
  measured := Cue.isMeasured_nil
  account _ := .fresh b

/-- The pump takes its turn. -/
theorem pump (h : Attended why d b items cues) (inbox : Inbox) (now : Nat) (tokenCanceled : Bool)
    (hwhy : b.demand.isCanceled = false → ∀ e, b.Cut now tokenCanceled e → why e) :
    Attended why d (b.after inbox (.pump now tokenCanceled)).1
      (items ++ (b.found? now tokenCanceled inbox).toList) cues where
  course := h.course.pump inbox now tokenCanceled hwhy
  told := h.told
  protocol := h.protocol
  measured := h.measured
  account hphase := (h.account hphase).pump inbox now tokenCanceled

/-- The consumer signals something outside its calls. -/
theorem signal (h : Attended why d b items cues) (call : DemandCall) :
    Attended why d (Delivery.apply b [call]) items (cues ++ [.signal call]) where
  course := h.course.apply [call]
  told := by
    rw [List.filterMap_append, h.told]
    exact List.append_nil _
  protocol := h.protocol.append _
  measured := h.measured.signals [call]
  account hphase := (h.account hphase).apply [call]

/-- Another reason to cut a body short. -/
theorem mono {because : Error → Prop} (h : Attended why d b items cues)
    (hwhy : ∀ e, why e → because e) : Attended because d b items cues := by
  refine ⟨⟨?_, h.course.done⟩, h.told, h.protocol, h.measured, h.account⟩
  have hsent := h.course.sent
  generalize d.calls.filterMap Callback.taken? ++ b.queue = sent at hsent ⊢
  cases hsent with
  | going hopen hitems => exact .going hopen hitems
  | ended hstopped hitems hbefore hlast => exact .ended hstopped hitems hbefore hlast
  | cut e hstopped he hitems => exact .cut e hstopped (hwhy e he) hitems
  | dropped hstopped hcanceled hitems => exact .dropped hstopped hcanceled hitems

private theorem account_of_phase {phase : DeliveryPhase} (h : Attended why d b items cues)
    (hphase : d.phase = phase) (hopen : phase ≠ .finished) : Account b cues :=
  h.account (hphase ▸ hopen)

/-- A delivery that has begun and is not over has given parts that are not the last. -/
theorem running (h : Attended why d b items cues) (hphase : d.phase = .running) :
    ∃ parts : List Part, d.calls = .subscribe :: parts.map .part ∧
      ∀ part ∈ parts, part.isLast = false := by
  have hprotocol := h.protocol
  rw [hphase] at hprotocol
  generalize d.calls = calls at hprotocol
  cases hprotocol with
  | running parts hmore => exact ⟨parts, rfl, hmore⟩

/-- What is taken for new calls comes after what was taken. -/
private theorem taken_append {new : List Callback} (hcalls : e.calls = d.calls ++ new) :
    e.calls.filterMap Callback.taken? =
      d.calls.filterMap Callback.taken? ++ new.filterMap Callback.taken? := by
  rw [hcalls, List.filterMap_append]

/-- The calls are told as they are made. -/
private theorem told_append (h : Attended why d b items cues) {new : List Callback}
    (hcalls : e.calls = d.calls ++ new) :
    (cues ++ d.cuesTo e).filterMap Cue.told? = e.calls := by
  rw [List.filterMap_append, h.told, Delivery.told_cuesTo hcalls, hcalls]

/-- A consumer is subscribed. -/
private theorem subscribe (h : Attended why d b items cues) (hphase : d.phase = .starting) :
    let e : Delivery := { d.call .subscribe with phase := .running }
    Attended why e (Delivery.apply b d.consumer.onSubscribe) items (cues ++ d.cuesTo e) := by
  intro e
  have hcalls : e.calls = d.calls ++ [.subscribe] := rfl
  have hcues : d.cuesTo e = [.told .subscribe] ++ d.consumer.onSubscribe.map .signal := by
    rw [Delivery.cuesTo_of_calls hcalls]
    exact List.append_nil _
  have hnone : d.calls = [] := by
    have hprotocol := h.protocol
    rw [hphase] at hprotocol
    generalize d.calls = calls at hprotocol
    cases hprotocol with
    | starting => rfl
  refine ⟨?_, h.told_append hcalls, ?_, ?_, fun _ => ?_⟩
  · rw [taken_append hcalls]
    change Body.Course why _ items (d.calls.filterMap Callback.taken? ++ [])
    rw [List.append_nil]
    exact h.course.apply d.consumer.onSubscribe
  · rw [hcalls, hnone]
    exact .running [] fun _ hmem => absurd hmem List.not_mem_nil
  · rw [hcues, ← List.append_assoc]
    exact (h.measured.told rfl).signals _
  · rw [hcues, ← List.append_assoc]
    exact ((h.account_of_phase hphase DeliveryPhase.noConfusion).told rfl).apply _

/-- A consumer is given a part. -/
private theorem part {part : Part} {rest : List Queued} (h : Attended why d b items cues)
    (hphase : d.phase = .running) (hin : b.isOut = false) (hqueue : b.queue = .part part :: rest) :
    let signals := d.consumer.onPart d.parts part
    let next :=
      Delivery.apply { b with demand := b.demand.received, queue := rest, isDone := part.isLast }
        signals
    next.Course why items ((d.calls ++ [Callback.part part]).filterMap Callback.taken?) ∧
      Cue.IsMeasured (cues ++ ([Cue.told (.part part)] ++ signals.map .signal)) ∧
      Account next (cues ++ ([Cue.told (.part part)] ++ signals.map .signal)) := by
  intro signals next
  have haccount := h.account_of_phase hphase DeliveryPhase.noConfusion
  refine ⟨?_, ?_, ?_⟩
  · rw [List.filterMap_append]
    exact (h.course.look (.part hin hqueue)).apply signals
  · rw [← List.append_assoc]
    exact (h.measured.part (haccount.asked hqueue) part).signals _
  · rw [← List.append_assoc]
    exact (haccount.part hqueue).apply _

/-- A step of the delivery. -/
theorem step (h : Attended why d b items cues) (hstep : d.step b = some (e, next)) :
    Attended why e next items (cues ++ d.cuesTo e) := by
  cases Delivery.steps_of_step hstep with
  | subscribe hphase => exact h.subscribe hphase
  | @part part rest hphase hin hqueue hmore =>
    obtain ⟨hcourse, hmeasured, haccount⟩ := h.part hphase hin hqueue
    obtain ⟨parts, hbefore, hparts⟩ := h.running hphase
    have hcalls : (d.call (.part part)).calls = d.calls ++ [.part part] := rfl
    have hcues : d.cuesTo (d.call (.part part)) =
        [.told (.part part)] ++ (d.consumer.onPart d.parts part).map .signal := by
      rw [Delivery.cuesTo_of_calls hcalls]
      exact List.append_nil _
    refine ⟨hcourse, h.told_append hcalls, ?_, hcues ▸ hmeasured, fun _ => hcues ▸ haccount⟩
    have hnext : (d.call (.part part)).calls = .subscribe :: (parts ++ [part]).map .part := by
      rw [hcalls, hbefore, List.map_append]
      rfl
    have hall : ∀ found ∈ parts ++ [part], found.isLast = false := by
      intro found hfound
      rcases List.mem_append.mp hfound with hold | hnew
      · exact hparts found hold
      · rwa [List.mem_singleton.mp hnew]
    have hgoes : (d.call (.part part)).phase = .running := hphase
    rw [hnext, hgoes]
    exact .running _ hall
  | @last part rest hphase hin hqueue hlast =>
    obtain ⟨hcourse, hmeasured, -⟩ := h.part hphase hin hqueue
    obtain ⟨parts, hbefore, hparts⟩ := h.running hphase
    have hcalls : ((d.call (.part part)).call .complete).finish.calls =
        d.calls ++ [.part part, .complete] := List.append_assoc ..
    have hcues : d.cuesTo ((d.call (.part part)).call .complete).finish =
        [.told (.part part)] ++ (d.consumer.onPart d.parts part).map .signal ++
          [.told .complete] := by
      rw [Delivery.cuesTo_of_calls hcalls]
      rfl
    refine ⟨?_, h.told_append hcalls, ?_, ?_, fun hopen => absurd rfl hopen⟩
    · rw [hcalls, List.append_cons, List.filterMap_append]
      change Body.Course why _ items ((d.calls ++ [Callback.part part]).filterMap _ ++ [])
      rw [List.append_nil]
      exact hcourse.drop
    · rw [hcalls, hbefore]
      exact .complete parts part hparts hlast
    · rw [hcues, ← List.append_assoc]
      exact hmeasured.told rfl
  | @error failure rest hphase hin hqueue =>
    obtain ⟨parts, hbefore, hparts⟩ := h.running hphase
    have hcalls : (d.call (.error failure)).finish.calls = d.calls ++ [.error failure] := rfl
    have hcues : d.cuesTo (d.call (.error failure)).finish = [.told (.error failure)] := by
      rw [Delivery.cuesTo_of_calls hcalls]
      rfl
    refine ⟨?_, h.told_append hcalls, ?_, ?_, fun hopen => absurd rfl hopen⟩
    · rw [taken_append hcalls]
      exact (h.course.look (.error hin hqueue)).drop
    · rw [hcalls, hbefore]
      exact .failed parts failure hparts
    · rw [hcues]
      exact h.measured.told rfl
  | short hphase hin hqueue hstopped => exact absurd hqueue (h.course.queue_ne_nil hin hstopped)
  | quit hphase hout =>
    obtain ⟨parts, hbefore, hparts⟩ := h.running hphase
    have hcalls : d.finish.calls = d.calls ++ [] := (List.append_nil _).symm
    have hcues : d.cuesTo d.finish = [] := by
      rw [Delivery.cuesTo_of_calls hcalls]
      rfl
    rw [hcues, List.append_nil]
    refine ⟨h.course.drop, h.told, ?_, h.measured, fun hopen => absurd rfl hopen⟩
    -- Nothing that was given ends the body, so its reader lost interest.
    have hdone : ¬ b.isDone = true := by
      rw [h.course.done, hbefore]
      rintro ⟨q, hmem, hq⟩
      obtain ⟨call, hcall, htaken⟩ := List.mem_filterMap.mp hmem
      rcases List.mem_cons.mp hcall with rfl | hcall
      · cases htaken
      · obtain ⟨part, hpart, rfl⟩ := List.mem_map.mp hcall
        rw [← Option.some.inj htaken, Queued.isTerminal, hparts part hpart] at hq
        cases hq
    have hcanceled := (Bool.or_eq_true_iff.mp hout).resolve_left hdone
    have hlost := (h.account_of_phase hphase DeliveryPhase.noConfusion).canceled.mp hcanceled
    change Protocol cues .finished d.calls
    rw [hbefore]
    exact .canceled parts hparts hlost

end Attended

section Tellings

variable {why : Error → Prop} {b : Body} {items : List BodyItem}

/-- What a pump has queued is what it made of the items that it read, and at most an error about why
it was cut short. -/
theorem Body.Sent.made {sent : List Queued} (h : b.Sent why items sent) :
    items.map (Queued.ofItem b.url) = sent ∨
      ∃ e, why e ∧ items.map (Queued.ofItem b.url) ++ [.error (e.withUrl b.url)] = sent := by
  cases h with
  | going | ended | dropped => exact Or.inl rfl
  | cut e hstopped hwhy => exact Or.inr ⟨e, hwhy, rfl⟩

/-- Parts are no error. -/
private theorem error_not_mem (parts : List Part) (e : Error) : .error e ∉ parts.map Queued.part :=
  fun hmem => by
    obtain ⟨part, -, heq⟩ := List.mem_map.mp hmem
    cases heq

/-- The parts that were queued first are those that were read first. -/
theorem Body.Sent.parts {parts : List Part} {rest : List Queued}
    (h : b.Sent why items (parts.map .part ++ rest)) :
    parts.map .part <+: items.map (Queued.ofItem b.url) := by
  rcases h.made with hall | ⟨e, -, hall⟩
  · exact ⟨rest, hall.symm⟩
  · have hprefix : parts.map .part <+:
        items.map (Queued.ofItem b.url) ++ [.error (e.withUrl b.url)] := ⟨rest, hall.symm⟩
    refine (List.prefix_concat_iff.mp hprefix).resolve_left fun heq => ?_
    refine error_not_mem parts (e.withUrl b.url) ?_
    rw [heq]
    exact List.mem_append_right _ (List.mem_singleton_self _)

/-- What the calls of a delivery tell of a body, of which the pump has read some items: its parts in
order, and all of them where it is complete; else an error that it ended with, or why it was cut
short. -/
structure Faithful (why : Error → Prop) (url : Url) (items : List BodyItem)
    (calls : List Callback) : Prop where
  parts : (calls.filterMap Callback.part?).map .part <+: items.map (Queued.ofItem url)
  complete : .complete ∈ calls →
    items.map (Queued.ofItem url) = (calls.filterMap Callback.part?).map .part
  error : ∀ e, .error e ∈ calls →
    items.map (Queued.ofItem url) = (calls.filterMap Callback.part?).map .part ++ [.error e] ∨
      items.map (Queued.ofItem url) = (calls.filterMap Callback.part?).map .part ∧
        ∃ f, why f ∧ e = f.withUrl url

/-- The calls for parts give these parts. -/
theorem Callback.filterMap_part? (parts : List Part) :
    (parts.map Callback.part).filterMap Callback.part? = parts := by
  rw [List.filterMap_map]
  exact List.filterMap_some

/-- The calls for parts take these parts from the queue. -/
theorem Callback.filterMap_taken? (parts : List Part) :
    (parts.map Callback.part).filterMap Callback.taken? = parts.map .part := by
  rw [List.filterMap_map]
  exact congrFun (List.filterMap_eq_map (f := Queued.part)) parts

namespace Faithful

variable {parts : List Part} {rest : List Queued}

/-- What a subscription, parts and what comes after them give. -/
private theorem given_parts (parts : List Part) (ends : List Callback) :
    (Callback.subscribe :: (parts.map .part ++ ends)).filterMap Callback.part? =
      parts ++ ends.filterMap Callback.part? := by
  rw [List.filterMap_cons_none rfl, List.filterMap_append, Callback.filterMap_part?]

/-- Parts were given, and the last is not among them. -/
private theorem of_open (h : b.Sent why items (parts.map .part ++ rest)) :
    Faithful why b.url items (.subscribe :: parts.map .part) := by
  have hparts := given_parts parts []
  rw [List.append_nil, List.filterMap_nil, List.append_nil] at hparts
  refine ⟨?_, fun hmem => ?_, fun e hmem => ?_⟩
  · rw [hparts]
    exact h.parts
  · simp at hmem
  · simp at hmem

/-- The last part was given. -/
private theorem of_last {last : Part} (hlast : last.isLast = true)
    (h : b.Sent why items (parts.map .part ++ .part last :: rest)) :
    Faithful why b.url items (.subscribe :: (parts.map .part ++ [.part last, .complete])) := by
  have hparts : (Callback.subscribe :: (parts.map .part ++ [.part last, .complete])).filterMap
      Callback.part? = parts ++ [last] := given_parts parts [.part last, .complete]
  obtain ⟨rfl, -⟩ := h.terminal (q := .part last) hlast
  have hall : (parts ++ [last]).map Queued.part = parts.map .part ++ [.part last] :=
    List.map_append
  rw [← hall] at h
  have hmade : items.map (Queued.ofItem b.url) = (parts ++ [last]).map .part := by
    refine h.made.resolve_right ?_
    rintro ⟨e, -, heq⟩
    refine error_not_mem (parts ++ [last]) (e.withUrl b.url) ?_
    rw [← heq]
    exact List.mem_append_right _ (List.mem_singleton_self _)
  refine ⟨?_, fun _ => ?_, fun e hmem => ?_⟩
  · rw [hparts]
    exact hmade ▸ List.prefix_rfl
  · rw [hparts, hmade]
  · simp at hmem

/-- An error was given, of the body or because it was cut short. -/
private theorem of_error {e : Error} (h : b.Sent why items (parts.map .part ++ .error e :: rest)) :
    Faithful why b.url items (.subscribe :: (parts.map .part ++ [.error e])) := by
  have hparts : (Callback.subscribe :: (parts.map .part ++ [.error e])).filterMap
      Callback.part? = parts := by
    rw [given_parts]
    exact List.append_nil parts
  obtain ⟨rfl, -⟩ := h.terminal (q := .error e) rfl
  refine ⟨?_, fun hmem => ?_, fun found hmem => ?_⟩
  · rw [hparts]
    exact h.parts
  · simp at hmem
  · obtain rfl : found = e := by simpa using hmem
    rw [hparts]
    rcases h.made with hmade | ⟨f, hwhy, hmade⟩
    · exact Or.inl hmade
    · obtain ⟨hitems, hlast⟩ := List.append_inj' hmade rfl
      exact Or.inr ⟨hitems, f, hwhy, (Queued.error.inj (List.singleton_inj.mp hlast)).symm⟩

end Faithful

/-- The calls tell what became of the body. -/
theorem Attended.faithful {d : Delivery} {cues : List Cue} (h : Attended why d b items cues) :
    Faithful why b.url items d.calls := by
  have hsent := h.course.sent
  have hprotocol := h.protocol
  generalize d.calls = calls at hsent hprotocol
  generalize d.phase = phase at hprotocol
  have htaken : ∀ (parts : List Part) (ends : List Callback),
      (Callback.subscribe :: (parts.map .part ++ ends)).filterMap Callback.taken? =
        parts.map .part ++ ends.filterMap Callback.taken? := by
    intro parts ends
    rw [List.filterMap_cons_none rfl, List.filterMap_append, Callback.filterMap_taken?]
  cases hprotocol with
  | starting =>
    exact ⟨List.nil_prefix, fun hmem => absurd hmem List.not_mem_nil,
      fun _ hmem => absurd hmem List.not_mem_nil⟩
  | running parts | canceled parts =>
    have hfront := htaken parts []
    rw [List.append_nil, List.filterMap_nil, List.append_nil] at hfront
    rw [hfront] at hsent
    exact .of_open hsent
  | complete parts last hmore hlast =>
    rw [htaken, List.append_assoc] at hsent
    change b.Sent why items (parts.map .part ++ .part last :: b.queue) at hsent
    exact .of_last hlast hsent
  | failed parts e =>
    rw [htaken, List.append_assoc] at hsent
    change b.Sent why items (parts.map .part ++ .error e :: b.queue) at hsent
    exact .of_error hsent

end Tellings

section Endings

variable {d : Delivery} {b : Body}

/-- What a consumer does leaves the queue and the pump alone. -/
theorem Delivery.apply_keeps (b : Body) (calls : List DemandCall) :
    (apply b calls).queue = b.queue ∧ (apply b calls).phase = b.phase := by
  induction calls generalizing b with
  | nil => exact ⟨rfl, rfl⟩
  | cons call calls ih =>
    rw [apply, List.foldl_cons, ← apply]
    cases call with
    | request n => exact ih (b.request n)
    | cancel => exact ih b.cancel

/-- How many steps a delivery has before it at most, once the pump has stopped. -/
def Delivery.left (d : Delivery) (b : Body) : Nat :=
  match d.phase with
  | .starting => b.queue.length + 2
  | .running => b.queue.length + 1
  | .finished => 0

/-- Once the pump has stopped a delivery goes on until it is over. -/
theorem Delivery.step_of_stopped (hopen : d.phase ≠ .finished) (hstopped : b.phase = .stopped) :
    ∃ e next, d.step b = some (e, next) ∧ next.phase = .stopped ∧ e.left next < d.left b := by
  have hdrop : ∀ next : Body, next.phase = .stopped → next.drop.phase = .stopped := by
    intro next hnext
    unfold Body.drop
    split <;> exact hnext
  rcases d.steps_step b with ⟨e, next, hstep, hsteps⟩ | ⟨-, hdone | ⟨-, -, hgoes⟩⟩
  · refine ⟨e, next, hstep, ?_⟩
    cases hsteps with
    | subscribe hphase =>
      obtain ⟨hqueue, hkept⟩ := apply_keeps b d.consumer.onSubscribe
      refine ⟨hkept.trans hstopped, ?_⟩
      simp only [left, hphase, hqueue]
      omega
    | @part part rest hphase hin hqueue =>
      obtain ⟨hrest, hkept⟩ := apply_keeps
        { b with demand := b.demand.received, queue := rest, isDone := part.isLast }
        (d.consumer.onPart d.parts part)
      refine ⟨hkept.trans hstopped, ?_⟩
      simp only [left, call, hphase, hrest, hqueue, List.length_cons]
      omega
    | @last part rest hphase =>
      refine ⟨hdrop _ ?_, ?_⟩
      · exact (apply_keeps _ _).2.trans hstopped
      · simp only [left, finish, hphase]
        omega
    | error hphase | short hphase | quit hphase =>
      refine ⟨hdrop _ hstopped, ?_⟩
      simp only [left, finish, hphase]
      omega
  · exact absurd hdone hopen
  · exact absurd hstopped hgoes

/-- What was read leaves a body open as long as none of it ends it; then no delivery is complete. -/
theorem Attended.incomplete {why : Error → Prop} {items : List BodyItem} {cues : List Cue}
    (h : Attended why d b items cues) (hitems : ∀ item ∈ items, item.isTerminal = false) :
    .complete ∉ d.calls := by
  intro hmem
  have hmade := h.faithful.complete hmem
  have hprotocol := h.protocol
  generalize d.calls = calls at hmem hmade hprotocol
  generalize d.phase = phase at hprotocol
  cases hprotocol with
  | starting => cases hmem
  | running | canceled | failed => simp at hmem
  | complete parts last hmore hlast =>
    have hgiven : last ∈ (Callback.subscribe ::
        (parts.map .part ++ [.part last, .complete])).filterMap Callback.part? :=
      List.mem_filterMap.mpr ⟨.part last, by simp, rfl⟩
    have hopen := Body.open_of_items b.url hitems (.part last)
      (hmade ▸ List.mem_map_of_mem hgiven)
    rw [Queued.isTerminal, hlast] at hopen
    cases hopen

/-- True when a turn of the pump is told to stop, or comes after the deadline. -/
def Body.isCut (b : Body) (now : Nat) (tokenCanceled : Bool) : Bool :=
  b.demand.isCanceled || tokenCanceled || isOver b.deadline now

section Cuts

variable {now later : Nat} {tokenCanceled laterCanceled : Bool}

/-- A pump that has stopped does nothing any more. -/
theorem Body.after_of_stopped (hstopped : b.phase = .stopped) (inbox : Inbox) (now : Nat)
    (tokenCanceled : Bool) : b.after inbox (.pump now tokenCanceled) = (b, inbox) := by
  simp only [after, pump, hstopped]

/-- A pump that has stopped, is told to stop or comes too late reads nothing. -/
theorem Body.found?_of_cut (inbox : Inbox)
    (hends : b.phase = .stopped ∨ b.isCut now tokenCanceled = true) :
    b.found? now tokenCanceled inbox = none := by
  unfold found?
  split
  · rename_i limit hphase
    rw [hphase] at hends
    exact if_pos (hends.resolve_left PumpPhase.noConfusion)
  · rfl

/-- A pump that has stopped, is told to stop or comes too late has stopped after its next turn,
unless it takes a credit although it is late. -/
theorem Body.stops_or_spends (inbox : Inbox)
    (hends : b.phase = .stopped ∨ b.isCut now tokenCanceled = true) :
    (b.after inbox (.pump now tokenCanceled)).1.phase = .stopped ∨
      b.phase = .awaitingCredit ∧ isOver b.deadline now = true ∧
        (b.after inbox (.pump now tokenCanceled)).1.phase.isReading = true := by
  by_cases hstopped : b.phase = .stopped
  · rw [after_of_stopped hstopped]
    exact Or.inl hstopped
  have hcut := hends.resolve_left hstopped
  by_cases hwhy : (b.demand.isCanceled || tokenCanceled || b.timesOut now inbox) = true
  · obtain ⟨e, -, heq⟩ := cut_after hstopped hwhy
    rw [heq]
    exact Or.inl rfl
  · rw [Bool.not_eq_true, Bool.or_eq_false_iff] at hwhy
    have hlate : isOver b.deadline now = true := by rwa [isCut, hwhy.1, Bool.false_or] at hcut
    cases hphase : b.phase with
    | stopped => exact absurd hphase hstopped
    | reading limit => simp [timesOut, hphase, hlate] at hwhy
    | awaitingCredit =>
      simp only [timesOut, hphase, hlate, Bool.and_true, decide_eq_false_iff_not] at hwhy
      have hcredit : 0 < b.demand.credits := Nat.pos_of_ne_zero hwhy.2
      simp only [after, pump, hphase, hwhy.1, hcredit, Bool.false_eq_true, if_false, if_true]
      exact Or.inr ⟨trivial, hlate, rfl⟩

/-- Nor does it go on after one more turn; it reads nothing meanwhile. -/
theorem Body.stopped_of_pumps (inbox left : Inbox) (hle : now ≤ later)
    (hends : b.phase = .stopped ∨ b.isCut now tokenCanceled = true) :
    let next := (b.after inbox (.pump now tokenCanceled)).1
    next.found? later laterCanceled left = none ∧
      (next.after left (.pump later laterCanceled)).1.phase = .stopped := by
  intro next
  rcases b.stops_or_spends inbox hends with hstopped | ⟨-, hlate, hreads⟩
  · refine ⟨found?_of_cut left (.inl hstopped), ?_⟩
    rw [after_of_stopped hstopped]
    exact hstopped
  · have hdeadline : next.deadline = b.deadline :=
      congrArg (fun terms => terms.2.2.1) (b.terms_after inbox _).1
    have hcut : next.isCut later laterCanceled = true := by
      obtain ⟨due, hdue, hpast⟩ := (Option.any_eq_true ..).mp hlate
      rw [decide_eq_true_eq] at hpast
      simp only [isCut, hdeadline, hdue, isOver, Option.any_some, Nat.le_trans hpast hle,
        decide_true, Bool.or_true]
    refine ⟨found?_of_cut left (.inr hcut), (stops_or_spends left (.inr hcut)).resolve_right ?_⟩
    rintro ⟨hphase, -⟩
    rw [hphase] at hreads
    cases hreads

end Cuts

end Endings

end HttpClient
