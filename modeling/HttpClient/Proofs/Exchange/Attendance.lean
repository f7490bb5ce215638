import HttpClient.Proofs.Body.Callbacks
import HttpClient.Proofs.Exchange.Charges

/-!
# Attendance

An exchange whose response goes to a consumer attends to it: until it has ended the consumer hears
nothing, then it is told one error, or the body is delivered to it. The steps of the exchange, of
the pump and of the delivery keep this, and what the consumer signals, while time passes and tokens
are canceled.
-/

namespace HttpClient

/-- The item that is read for a reader. -/
def Note.streamed? : Note → Option BodyItem
  | streamed _ item => some item
  | _ => none

namespace Shared

/-- Why the body of a request is cut short, at a time when this is shared. -/
inductive Cuts (s : Shared) (token : Option TokenId) (deadline : Option Nat) : Error → Prop
  | canceled (h : s.isCanceled token = true) : Cuts s token deadline .canceled
  | deadline (h : isOver deadline s.now = true) : Cuts s token deadline .timeout
  /-- Nothing arrived in the time that is given for it. -/
  | slow (h : s.settings.readTimeout.isSome = true) : Cuts s token deadline (.of .body .timedOut)

/-- The second state is a later one of the same client. -/
structure Later (s t : Shared) : Prop where
  settings : t.settings = s.settings
  now : s.now ≤ t.now
  canceled : s.canceled ⊆ t.canceled

/-- What has arrived on the connection of a body. -/
def arrived (s : Shared) (b : Body) : Inbox := (b.lease.map s.inbox).getD {}

/-- A body after a turn of its pump. -/
def pumped (s : Shared) (b : Body) : Body :=
  (b.after (s.arrived b) (.pump s.now (s.isCanceled b.token))).1

/-- What the pump of a body reads in its turn. -/
def found? (s : Shared) (b : Body) : Option BodyItem :=
  b.found? s.now (s.isCanceled b.token) (s.arrived b)

/-- True for a body whose pump has stopped, or is told to stop or late at its next turn. -/
def IsEnding (s : Shared) (b : Body) : Prop :=
  b.phase = .stopped ∨ b.isCut s.now (s.isCanceled b.token) = true

variable {s t : Shared} {token : Option TokenId} {deadline : Option Nat}

theorem Later.of_given (h : t.given = s.given) : s.Later t := by
  obtain ⟨hsettings, hrest⟩ := Prod.mk.inj h
  obtain ⟨hnow, hcanceled⟩ := Prod.mk.inj hrest
  exact ⟨hsettings, Nat.le_of_eq hnow.symm, hcanceled ▸ List.Subset.refl _⟩

theorem Later.isCanceled (h : s.Later t) (hcanceled : s.isCanceled token = true) :
    t.isCanceled token = true := by
  obtain ⟨id, hid, hmem⟩ := (Option.any_eq_true ..).mp hcanceled
  refine (Option.any_eq_true ..).mpr ⟨id, hid, ?_⟩
  rw [List.contains_iff_mem] at hmem ⊢
  exact h.canceled hmem

theorem Later.isOver (h : s.Later t) (hdue : isOver deadline s.now = true) :
    HttpClient.isOver deadline t.now = true := by
  obtain ⟨due, hdeadline, hle⟩ := (Option.any_eq_true ..).mp hdue
  refine (Option.any_eq_true ..).mpr ⟨due, hdeadline, ?_⟩
  rw [decide_eq_true_eq] at hle ⊢
  exact Nat.le_trans hle h.now

/-- Where the pump is at its end it reads nothing. -/
theorem IsEnding.found? {b : Body} (h : s.IsEnding b) : s.found? b = none := Body.found?_of_cut _ h

/-- Where the pump is at its end it has stopped after two turns, and reads nothing in them. -/
theorem IsEnding.pumped {b : Body} (h : s.IsEnding b) (hle : s.now ≤ t.now) :
    t.found? (s.pumped b) = none ∧ (t.pumped (s.pumped b)).phase = .stopped :=
  Body.stopped_of_pumps _ _ hle h

/-- What once was a reason remains one. -/
theorem Cuts.later (hlater : s.Later t) {e : Error} (h : s.Cuts token deadline e) :
    t.Cuts token deadline e := by
  cases h with
  | canceled hcanceled => exact .canceled (hlater.isCanceled hcanceled)
  | deadline hdue => exact .deadline (hlater.isOver hdue)
  | slow hset => exact .slow (by rw [hlater.settings]; exact hset)

end Shared

/-- The pump of a body takes its turn. -/
theorem Attended.pumped {why : Error → Prop} {d : Delivery} {b : Body} {items : List BodyItem}
    {cues : List Cue} (h : Attended why d b items cues) (s : Shared)
    (hwhy : b.demand.isCanceled = false → ∀ e, b.Cut s.now (s.isCanceled b.token) e → why e) :
    Attended why d (s.pumped b) (items ++ (s.found? b).toList) cues :=
  h.pump (s.arrived b) s.now (s.isCanceled b.token) hwhy

namespace Exchange

/-- What passes between an exchange and its consumer while it becomes another. -/
def cuesTo (x y : Exchange) : List Cue :=
  match x.delivery, y.delivery with
  | some d, some e => d.cuesTo e
  | _, _ => []

/-- How far a request with a consumer has come, after the pump has read some items of the body and
these cues have passed. -/
inductive Attends (s : Shared) (token : Option TokenId) (deadline : Option Nat)
    (consumer : Consumer) (x : Exchange) : List BodyItem → List Cue → Prop
  | waiting (hrunning : x.isRunning = true)
    (hcharge : x.charge = ⟨token, deadline, some { consumer := consumer }⟩) :
    Attends s token deadline consumer x [] []
  | failed {e} (hphase : x.phase = .failed e)
    (hdelivery : x.delivery = some (Delivery.failed { consumer := consumer } e)) :
    Attends s token deadline consumer x [] [.told (.error e)]
  | answered {head} {first b : Body} {d items cues} (hphase : x.phase = .answered head b)
    (hdelivery : x.delivery = some d) (hconsumer : d.consumer = consumer)
    (hfresh : first.fresh = first)
    (hterms : first.terms.2 = (token, deadline, s.settings.readTimeout))
    (hevolves : first.Evolves b) (hattended : Attended (s.Cuts token deadline) d b items cues) :
    Attends s token deadline consumer x items cues

variable {x y : Exchange} {s t : Shared} {token : Option TokenId} {deadline : Option Nat}
  {consumer : Consumer} {items : List BodyItem} {cues : List Cue}

/-- Nothing passes where the delivery stays. -/
theorem cuesTo_of_delivery (h : y.delivery = x.delivery) : x.cuesTo y = [] := by
  unfold cuesTo
  rw [h]
  cases x.delivery with
  | none => rfl
  | some d =>
    have hcalls : d.calls = d.calls ++ [] := (List.append_nil _).symm
    exact Delivery.cuesTo_of_calls hcalls

/-- Before its end an exchange has no body. -/
theorem body?_of_running (hrunning : x.isRunning = true) : x.body? = none := by
  cases hphase : x.phase with
  | answered =>
    rw [isRunning, hphase] at hrunning
    cases hrunning
  | _ => rw [body?, hphase]

theorem updateBody_of_none {f : Body → Body} (hnone : x.body? = none) : x.updateBody f = x := by
  cases hphase : x.phase with
  | answered =>
    rw [body?, hphase] at hnone
    cases hnone
  | _ => rw [updateBody, hphase]

/-- Only a final response has a pump. -/
theorem answered_of_pumpStep (hstep : x.pumpStep s = some (y, t)) :
    ∃ head b, x.phase = .answered head b := by
  unfold pumpStep at hstep
  split at hstep
  · rename_i head b hphase
    exact ⟨head, b, hphase⟩
  · cases hstep

section Pumps

variable {head : ResponseHead} {b : Body}

/-- What the pump of an exchange makes of the body. -/
theorem pumpStep_cases (s : Shared) (hphase : x.phase = .answered head b) :
    x.pumpStep s = none ∧ s.pumped b = b ∨
      ∃ t, x.pumpStep s = some ({ x with phase := .answered head (s.pumped b) }, t) := by
  unfold Shared.pumped Shared.arrived
  cases hpump : b.pump s.now (s.isCanceled b.token) ((b.lease.map s.inbox).getD {}) with
  | none =>
    refine Or.inl ⟨?_, ?_⟩
    · simp only [pumpStep, hphase, hpump]
    · simp only [Body.after, hpump]
  | some found =>
    obtain ⟨⟨later, effect⟩, left⟩ := found
    right
    simp only [pumpStep, hphase, Body.after, hpump]
    exact ⟨_, rfl⟩

/-- What the pump of an exchange reads. -/
theorem streamed_pumpHears (hphase : x.phase = .answered head b) :
    (x.pumpHears s).filterMap Note.streamed? = (s.found? b).toList := by
  unfold pumpHears Shared.found? Shared.arrived
  simp only [hphase]
  cases hlease : b.lease with
  | none =>
    -- Without a connection nothing has arrived.
    have hnone : b.found? s.now (s.isCanceled b.token) {} = none := by
      unfold Body.found?
      split
      · split <;> rfl
      · rfl
    rw [Option.map_none, Option.getD_none, hnone]
    rfl
  | some l =>
    rw [Option.map_some, Option.getD_some]
    dsimp only
    cases hpump : b.pump s.now (s.isCanceled b.token) (s.inbox l) with
    | none =>
      rw [Channel.found?_of_still hpump]
      rfl
    | some found =>
      dsimp only
      cases b.found? s.now (s.isCanceled b.token) (s.inbox l) with
      | none =>
        dsimp only
        split <;> rfl
      | some item => rfl

end Pumps

namespace Attends

/-- Time passes. -/
theorem later (hlater : s.Later t) (h : x.Attends s token deadline consumer items cues) :
    x.Attends t token deadline consumer items cues := by
  cases h with
  | waiting hrunning hcharge => exact .waiting hrunning hcharge
  | failed hphase hdelivery => exact .failed hphase hdelivery
  | answered hphase hdelivery hconsumer hfresh hterms hevolves hattended =>
    rw [← hlater.settings] at hterms
    exact .answered hphase hdelivery hconsumer hfresh hterms hevolves
      (hattended.mono fun _ => Shared.Cuts.later hlater)

/-- The exchange takes a step. -/
theorem step (h : x.Attends s token deadline consumer items cues)
    (hstep : x.step s = some (y, t)) :
    y.Attends s token deadline consumer items (cues ++ x.cuesTo y) := by
  have hrunning := running_of_step hstep
  cases h with
  | waiting _ hcharge =>
    have hcarried := carried_step hstep
    rw [hcharge] at hcarried
    have hdelivery : x.delivery = some { consumer := consumer } := congrArg Charge.delivery hcharge
    cases hcarried with
    | goes hsame hgoes =>
      rw [cuesTo_of_delivery ((congrArg Charge.delivery hsame).trans hdelivery.symm)]
      exact .waiting hgoes hsame
    | @failed e hphase htold =>
      have hcues : x.cuesTo y = [.told (.error e)] := by
        simp only [cuesTo, hdelivery, htold, Option.map_some]
        rfl
      rw [hcues]
      exact .failed hphase htold
    | answered hphase hsame hterms hfresh =>
      rw [cuesTo_of_delivery (hsame.trans hdelivery.symm)]
      refine .answered hphase hsame rfl hfresh hterms (Body.evolves_self _) ?_
      rw [← hfresh]
      exact .fresh _ consumer _
  | failed hphase =>
    rw [isRunning, hphase] at hrunning
    cases hrunning
  | answered hphase =>
    rw [isRunning, hphase] at hrunning
    cases hrunning

/-- The pump of the body takes its turn. -/
theorem pump (h : x.Attends s token deadline consumer items cues)
    (hstep : x.pumpStep s = some (y, t)) :
    y.Attends s token deadline consumer (items ++ (x.pumpHears s).filterMap Note.streamed?)
      (cues ++ x.cuesTo y) := by
  cases h with
  | waiting hrunning =>
    obtain ⟨head, b, hphase⟩ := answered_of_pumpStep hstep
    rw [isRunning, hphase] at hrunning
    cases hrunning
  | failed hphase =>
    obtain ⟨head, b, hanswered⟩ := answered_of_pumpStep hstep
    cases hphase.symm.trans hanswered
  | @answered head first b d _ _ hphase hdelivery hconsumer hfresh hterms hevolves hattended =>
    rw [streamed_pumpHears hphase]
    rcases pumpStep_cases s hphase with ⟨hnone, -⟩ | ⟨u, hsome⟩
    · cases hnone.symm.trans hstep
    · obtain ⟨hy, -⟩ := Prod.mk.inj (Option.some.inj (hsome.symm.trans hstep))
      have hquiet : y.delivery = x.delivery := by rw [← hy]
      rw [cuesTo_of_delivery hquiet, List.append_nil, ← hy]
      refine .answered rfl hdelivery hconsumer hfresh hterms (hevolves.event _ _)
        (hattended.pumped s fun hlive e hcut => ?_)
      have hset : b.terms.2 = (token, deadline, s.settings.readTimeout) :=
        (congrArg Prod.snd hevolves.terms).trans hterms
      obtain ⟨htoken, hrest⟩ := Prod.mk.inj hset
      obtain ⟨hdeadline, hlimit⟩ := Prod.mk.inj hrest
      cases hcut with
      | canceled hcanceled =>
        rw [hlive, Bool.false_or, htoken] at hcanceled
        exact .canceled hcanceled
      | deadline hdue =>
        rw [hdeadline] at hdue
        exact .deadline hdue
      | @slow limit hreads hdue =>
        obtain ⟨due, rfl, -⟩ := (Option.any_eq_true ..).mp hdue
        exact .slow (hlimit ▸ hevolves.limited hfresh hreads)

/-- The delivery takes a step. -/
theorem deliver (h : x.Attends s token deadline consumer items cues)
    (hstep : x.deliverStep = some y) :
    y.Attends s token deadline consumer items (cues ++ x.cuesTo y) := by
  cases h with
  | waiting hrunning =>
    unfold deliverStep at hstep
    split at hstep
    · rename_i hphase _
      rw [isRunning, hphase] at hrunning
      cases hrunning
    · cases hstep
  | failed hphase =>
    simp only [deliverStep, hphase] at hstep
    cases hstep
  | @answered head first b d _ _ hphase hdelivery hconsumer hfresh hterms hevolves hattended =>
    simp only [deliverStep, hphase, hdelivery] at hstep
    obtain ⟨⟨e, next⟩, hnext, rfl⟩ := Option.map_eq_some_iff.mp hstep
    have hcues : x.cuesTo { x with phase := .answered head next, delivery := some e } =
        d.cuesTo e := by
      simp only [cuesTo, hdelivery]
    rw [hcues]
    exact .answered rfl rfl ((Delivery.consumer_step hnext).trans hconsumer) hfresh hterms
      (hevolves.trans (Body.evolves_deliver hnext)) (hattended.step hnext)

/-- The consumer signals something outside its calls. -/
theorem signal (h : x.Attends s token deadline consumer items cues) (call : DemandCall) :
    (x.updateBody (Delivery.apply · [call])).Attends s token deadline consumer items
      (cues ++ (x.body?.map fun _ => Cue.signal call).toList) := by
  cases h with
  | waiting hrunning hcharge =>
    have hnone := body?_of_running hrunning
    rw [updateBody_of_none hnone, hnone]
    exact .waiting hrunning hcharge
  | failed hphase hdelivery =>
    have hnone : x.body? = none := by rw [body?, hphase]
    rw [updateBody_of_none hnone, hnone]
    exact .failed hphase hdelivery
  | @answered head first b d _ _ hphase hdelivery hconsumer hfresh hterms hevolves hattended =>
    simp only [updateBody, body?, hphase, Option.map_some, Option.toList_some]
    exact .answered rfl hdelivery hconsumer hfresh hterms (hevolves.apply _)
      (hattended.signal call)

end Attends

/-- Only the pump reads for a reader. -/
theorem streamed_hears (x : Exchange) (s : Shared) :
    (x.hears s).filterMap Note.streamed? = [] := by
  unfold hears
  split
  · rfl
  · split
    · split
      · rfl
      · split <;> rfl
    · split
      · rfl
      · split <;> rfl
    · rfl

end Exchange

end HttpClient
