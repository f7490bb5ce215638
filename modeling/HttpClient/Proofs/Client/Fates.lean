import HttpClient.Proofs.Client.Journal
import HttpClient.Proofs.Exchange.Outcomes

/-!
# What an event makes of an exchange

An event is the step of an exchange itself, or it leaves the exchange on its course: at most
something happens to the body of its response, or nobody is interested in it any more. No exchange
is lost, and only a request that is submitted adds one.
-/

namespace HttpClient

namespace Exchange

/-- What becomes of an exchange without a step of its own. -/
inductive Rests (x y : Exchange) : Prop
  | quiet (hcourse : y.course = x.course) (hphase : y.phase = x.phase)
  /-- Something happens to the body of the response. -/
  | body {head b next} (hcourse : y.course = x.course) (hphase : x.phase = .answered head b)
    (hevolves : b.Evolves next) (hnext : y.phase = .answered head next)
  /-- Nobody is interested any more. -/
  | drop (hcourse : y.course = x.course) (hrunning : x.isRunning = true)
    (hnext : y.phase = .dropped)

variable {x y : Exchange} {s t : Shared}

theorem rests_updateBody (x : Exchange) (f : Body → Body)
    (hevolves : ∀ b, x.body? = some b → b.Evolves (f b)) : x.Rests (x.updateBody f) := by
  cases hphase : x.phase with
  | answered head b =>
    have hbody : x.body? = some b := by rw [body?, hphase]
    refine .body ?_ hphase (hevolves b hbody) ?_ <;> rw [updateBody, hphase]
    rfl
  | _ =>
    have hsame : x.updateBody f = x := by rw [updateBody, hphase]
    rw [hsame]
    exact .quiet rfl rfl

theorem rests_pumpStep (hstep : x.pumpStep s = some (y, t)) : x.Rests y := by
  unfold pumpStep at hstep
  split at hstep
  · rename_i head b hphase
    dsimp only at hstep
    split at hstep
    · cases hstep
    · rename_i next effect left hpump
      obtain ⟨rfl, -⟩ := Prod.mk.inj (Option.some.inj hstep)
      have hafter := b.evolves_self.event ((b.lease.map s.inbox).getD {})
        (.pump s.now (s.isCanceled b.token))
      simp only [Body.after, hpump] at hafter
      exact .body rfl hphase hafter rfl
  · cases hstep

theorem rests_deliverStep (hstep : x.deliverStep = some y) : x.Rests y := by
  unfold deliverStep at hstep
  split at hstep
  · rename_i head b delivery hphase hdelivery
    obtain ⟨⟨later, next⟩, hnext, rfl⟩ := Option.map_eq_some_iff.mp hstep
    exact .body rfl hphase (Body.evolves_deliver hnext) rfl
  · cases hstep

theorem rests_drop (x : Exchange) (s : Shared) : x.Rests (x.drop s).1 := by
  unfold drop
  by_cases hrunning : x.isRunning = true
  · rw [if_pos hrunning]
    exact .drop rfl hrunning rfl
  · rw [if_neg hrunning]
    have hrests := x.rests_updateBody Body.drop fun b _ => b.evolves_self.drop
    cases hrests with
    | quiet hcourse hphase => exact .quiet hcourse hphase
    | body hcourse hphase hevolves hnext => exact .body hcourse hphase hevolves hnext
    | drop hcourse hgoes => exact absurd hgoes hrunning

end Exchange

namespace Client

open Exchange

/-- What an event makes of an exchange: its own step, or at most something without one. -/
inductive Fares (c : Client) (id : ExchangeId) (x : Exchange) (event : Event) (y : Exchange) : Prop
  | step {t} (hevent : event = .run (.exchange id)) (hstep : x.step c.shared = some (y, t))
  | rest (hidle : event = .run (.exchange id) → x.step c.shared = none) (hrests : x.Rests y)

variable {c : Client} {id : ExchangeId} {x y : Exchange}

/-- Where an exchange is put back, it is there, and all others are as they were. -/
theorem exchange?_put {other : ExchangeId} {w z : Exchange} {t : Shared}
    (hx : c.exchange? id = some x) (hw : c.exchange? other = some w) :
    (c.put other z t).exchange? id = some z ∧ other = id ∧ w = x ∨
      (c.put other z t).exchange? id = some x ∧ other ≠ id := by
  by_cases hsame : other = id
  · subst hsame
    exact Or.inl ⟨exchange?_put_self hw, rfl, Option.some.inj (hw.symm.trans hx)⟩
  · refine Or.inr ⟨?_, hsame⟩
    rw [exchange?_put_of_ne (Ne.symm hsame), hx]

/-- What is put back of some exchange leaves every exchange on its course, if it leaves that one. -/
theorem fares_put {other : ExchangeId} {w z : Exchange} {t : Shared} {event : Event}
    (hx : c.exchange? id = some x) (hw : c.exchange? other = some w) (hrests : w.Rests z)
    (hevent : event ≠ .run (.exchange id)) :
    ∃ y, (c.put other z t).exchange? id = some y ∧ c.Fares id x event y := by
  rcases exchange?_put (z := z) (t := t) hx hw with ⟨hput, -, rfl⟩ | ⟨hput, -⟩
  · exact ⟨z, hput, .rest (fun h => absurd h hevent) hrests⟩
  · exact ⟨x, hput, .rest (fun h => absurd h hevent) (.quiet rfl rfl)⟩

/-- Something that happens to the body of some exchange. -/
theorem fares_updateBody (hx : c.exchange? id = some x) (other : ExchangeId) {f : Body → Body}
    {event : Event} (hevolves : ∀ b, c.body? other = some b → b.Evolves (f b))
    (hevent : event ≠ .run (.exchange id)) :
    ∃ y, (c.updateBody other f).exchange? id = some y ∧ c.Fares id x event y := by
  unfold updateBody
  cases hw : c.exchange? other with
  | none => exact ⟨x, hx, .rest (fun h => absurd h hevent) (.quiet rfl rfl)⟩
  | some w =>
    have hbody : c.body? other = w.body? := by rw [body?, hw, Option.bind_some]
    refine fares_put hx hw (w.rests_updateBody f fun b hb => ?_) hevent
    exact hevolves b (hbody.trans hb)

/-- The exchange whose task it is, and what its turn makes of it. -/
def turn? (c : Client) : Task → ExchangeId × (Exchange → Option (Exchange × Shared))
  | .exchange id => (id, (·.step c.shared))
  | .pump id => (id, (·.pumpStep c.shared))
  | .delivery id => (id, fun x => x.deliverStep.map fun y => (y, c.shared))

/-- A task that has to wait changes nothing, and any other only its exchange. -/
theorem step_run_cases (c : Client) (task : Task) :
    (c.step (.run task) = c ∧
      ∀ w, c.exchange? (c.turn? task).1 = some w → (c.turn? task).2 w = none) ∨
    ∃ w z t, c.exchange? (c.turn? task).1 = some w ∧ (c.turn? task).2 w = some (z, t) ∧
      c.step (.run task) = c.put (c.turn? task).1 z t := by
  have hadvance : c.advance task = (c.exchange? (c.turn? task).1).bind fun w =>
      ((c.turn? task).2 w).map fun next => c.put (c.turn? task).1 next.1 next.2 := by
    cases task with
    | exchange id =>
      refine Option.bind_congr fun w _ => ?_
      simp only [turn?]
      cases w.step c.shared <;> rfl
    | pump id =>
      refine Option.bind_congr fun w _ => ?_
      simp only [turn?]
      cases w.pumpStep c.shared <;> rfl
    | delivery id =>
      refine Option.bind_congr fun w _ => ?_
      simp only [turn?]
      cases w.deliverStep <;> rfl
  rw [Client.step, hadvance]
  cases hw : c.exchange? (c.turn? task).1 with
  | none =>
    rw [Option.bind_none, Option.getD_none]
    refine Or.inl ⟨rfl, ?_⟩
    rintro w ⟨⟩
  | some w =>
    rw [Option.bind_some]
    cases hturn : (c.turn? task).2 w with
    | none =>
      rw [Option.map_none, Option.getD_none]
      refine Or.inl ⟨rfl, fun v hv => ?_⟩
      rw [← Option.some.inj hv, hturn]
    | some next =>
      rw [Option.map_some, Option.getD_some]
      exact Or.inr ⟨w, next.1, next.2, rfl, hturn, rfl⟩

/-- A task that can take a step takes it. -/
theorem step_run_of_turn (task : Task) {w z : Exchange} {t : Shared}
    (hw : c.exchange? (c.turn? task).1 = some w) (hturn : (c.turn? task).2 w = some (z, t)) :
    c.step (.run task) = c.put (c.turn? task).1 z t := by
  rcases c.step_run_cases task with ⟨-, hidle⟩ | ⟨v, next, s, hv, hown, hput⟩
  · rw [hidle w hw] at hturn
    cases hturn
  · obtain rfl := Option.some.inj (hv.symm.trans hw)
    obtain ⟨rfl, rfl⟩ := Prod.mk.inj (Option.some.inj (hown.symm.trans hturn))
    exact hput

/-- After the step of a task its exchange is what the step makes of it. -/
theorem exchange?_run_of_turn (task : Task) {w z : Exchange} {t : Shared}
    (hw : c.exchange? (c.turn? task).1 = some w) (hturn : (c.turn? task).2 w = some (z, t)) :
    (c.step (.run task)).exchange? (c.turn? task).1 = some z := by
  rw [step_run_of_turn task hw hturn]
  exact exchange?_put_self hw

/-- A task that has to wait changes nothing. -/
theorem step_run_of_wait (task : Task) {w : Exchange}
    (hw : c.exchange? (c.turn? task).1 = some w) (hwait : (c.turn? task).2 w = none) :
    c.step (.run task) = c := by
  rcases c.step_run_cases task with ⟨hsame, -⟩ | ⟨v, next, s, hv, hown, -⟩
  · exact hsame
  · obtain rfl := Option.some.inj (hv.symm.trans hw)
    rw [hwait] at hown
    cases hown

/-- The step of a task leaves every exchange on its course, but for the one whose step it is. -/
theorem fares_run (hx : c.exchange? id = some x) (task : Task) :
    ∃ y, (c.step (.run task)).exchange? id = some y ∧ c.Fares id x (.run task) y := by
  rcases c.step_run_cases task with ⟨hsame, hidle⟩ | ⟨w, z, t, hw, hturn, hput⟩
  · rw [hsame]
    refine ⟨x, hx, .rest (fun hevent => ?_) (.quiet rfl rfl)⟩
    cases hevent
    exact hidle x hx
  · rw [hput]
    cases task with
    | exchange other =>
      rcases exchange?_put (z := z) (t := t) hx hw with ⟨hz, hother, rfl⟩ | ⟨hz, hother⟩
      · exact ⟨z, hz, .step (congrArg (fun i => Event.run (.exchange i)) hother) hturn⟩
      · refine ⟨x, hz, .rest (fun hevent => ?_) (.quiet rfl rfl)⟩
        cases hevent
        exact absurd rfl hother
    | pump other => exact fares_put hx hw (rests_pumpStep hturn) (by rintro ⟨⟩)
    | delivery other =>
      obtain ⟨next, hnext, heq⟩ := Option.map_eq_some_iff.mp hturn
      obtain ⟨rfl, -⟩ := Prod.mk.inj heq
      exact fares_put hx hw (rests_deliverStep hnext) (by rintro ⟨⟩)

/-- No event loses an exchange, and each leaves it on its course, but for its own step. -/
theorem fares_step (hx : c.exchange? id = some x) (event : Event) :
    ∃ y, (c.step event).exchange? id = some y ∧ c.Fares id x event y := by
  have hsame : event ≠ .run (.exchange id) → (c.step event).exchange? id = some x →
      ∃ y, (c.step event).exchange? id = some y ∧ c.Fares id x event y := fun hevent hstays =>
    ⟨x, hstays, .rest (fun h => absurd h hevent) (.quiet rfl rfl)⟩
  cases event with
  | tick | dialed | arrive | cancelToken => exact hsame (by rintro ⟨⟩) hx
  | submit request consumer =>
    refine hsame (by rintro ⟨⟩) ?_
    obtain ⟨hid, -⟩ := List.getElem?_eq_some_iff.mp hx
    rw [exchange?, Client.step, List.getElem?_append_left hid]
    exact hx
  | run task => exact fares_run hx task
  | request other parts =>
    refine fares_updateBody hx other (fun b _ => ?_) (by rintro ⟨⟩)
    exact b.evolves_self.event {} (.request parts)
  | cancelBody other =>
    refine fares_updateBody hx other (fun b _ => ?_) (by rintro ⟨⟩)
    exact b.evolves_self.event {} .cancel
  | read other =>
    rw [Client.step, Client.read]
    cases hbody : c.body? other with
    | none => exact ⟨x, hx, .rest (by rintro ⟨⟩) (.quiet rfl rfl)⟩
    | some body =>
      refine fares_updateBody hx other (fun b hb => ?_) (by rintro ⟨⟩)
      obtain rfl := Option.some.inj (hbody.symm.trans hb)
      exact body.evolves_self.event {} (.read true)
  | drop other =>
    rw [Client.step]
    cases hw : c.exchange? other with
    | none => exact ⟨x, hx, .rest (by rintro ⟨⟩) (.quiet rfl rfl)⟩
    | some w => exact fares_put hx hw (w.rests_drop c.shared) (by rintro ⟨⟩)

/-- A new exchange begins with a request that is submitted. -/
theorem submitted_of_step {event : Event} (hnone : c.exchange? id = none)
    (hy : (c.step event).exchange? id = some y) :
    ∃ request consumer, event = .submit request consumer ∧ id = c.exchanges.length ∧
      ∃ delivery, y = ofRequest c.shared request delivery := by
  have hput : ∀ (other : ExchangeId) (z : Exchange) (t : Shared),
      (c.put other z t).exchange? id = none := by
    intro other z t
    rw [exchange?, put, List.getElem?_eq_none_iff, List.length_set]
    exact List.getElem?_eq_none_iff.mp hnone
  have hsame : ∀ (other : ExchangeId) (f : Body → Body),
      (c.updateBody other f).exchange? id = none := by
    intro other f
    unfold updateBody
    split
    · exact hput other _ _
    · exact hnone
  cases event with
  | tick | dialed | arrive | cancelToken => cases hnone.symm.trans hy
  | submit request consumer =>
    have hlength : c.exchanges.length ≤ id := List.getElem?_eq_none_iff.mp hnone
    rw [exchange?, Client.step, List.getElem?_append_right hlength] at hy
    obtain ⟨hlt, hget⟩ := List.getElem?_eq_some_iff.mp hy
    simp only [List.length_singleton] at hlt
    rw [List.getElem_singleton] at hget
    exact ⟨request, consumer, rfl, Nat.le_antisymm (by omega) hlength, _, hget.symm⟩
  | run task =>
    rcases c.step_run_cases task with ⟨heq, -⟩ | ⟨w, z, t, -, -, heq⟩
    · rw [heq, hnone] at hy
      cases hy
    · rw [heq, hput] at hy
      cases hy
  | request other parts =>
    rw [Client.step, hsame] at hy
    cases hy
  | cancelBody other =>
    rw [Client.step, hsame] at hy
    cases hy
  | read other =>
    rw [Client.step, Client.read] at hy
    split at hy
    · rw [hsame] at hy
      cases hy
    · rw [hnone] at hy
      cases hy
  | drop other =>
    rw [Client.step] at hy
    split at hy
    · rw [hput] at hy
      cases hy
    · rw [hnone] at hy
      cases hy

end Client

end HttpClient
