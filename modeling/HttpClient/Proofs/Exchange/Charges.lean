import HttpClient.Proofs.Exchange.Outcomes

/-!
# What an exchange carries along

Whatever steps an exchange takes, it carries its token and its deadline along, and the delivery to
its consumer, who is told nothing but that the exchange failed. With token and deadline it sets up
the body of the final response.
-/

namespace HttpClient

/-- What an exchange carries from one step to the next. -/
structure Charge where
  token : Option TokenId
  deadline : Option Nat
  delivery : Option Delivery

namespace Exchange

def charge (x : Exchange) : Charge := ⟨x.token, x.deadline, x.delivery⟩

/-- What a step makes of an exchange with what it carries along, where the body of a response waits
for more no longer than given. -/
inductive Carried (limit : Option Nat) (charge : Charge) (y : Exchange) : Prop
  | goes (hcharge : y.charge = charge) (hrunning : y.isRunning = true)
  | failed {e} (hphase : y.phase = .failed e)
    (hdelivery : y.delivery = charge.delivery.map (·.failed e))
  | answered {head b} (hphase : y.phase = .answered head b)
    (hdelivery : y.delivery = charge.delivery)
    (hterms : b.terms.2 = (charge.token, charge.deadline, limit)) (hfresh : b.fresh = b)

section Attempts

variable {x : Exchange} {s : Shared} {limit : Option Nat}

theorem carried_fail (x : Exchange) (s : Shared) (e : Error) :
    Carried limit x.charge (x.fail s e).1 := .failed rfl rfl

theorem carried_retryOrFail (x : Exchange) (s : Shared) (e : Error) (reused : Bool) :
    Carried limit x.charge (x.retryOrFail s e reused).1 := by
  unfold retryOrFail
  dsimp only
  split
  · exact .goes rfl rfl
  · exact .failed rfl rfl

theorem carried_attempt (x : Exchange) (s : Shared) (target : Target) (l : Lease) :
    Carried limit x.charge (x.attempt s target l).1 := by
  unfold attempt
  rcases hbind : x.bind s l with ⟨y, t⟩
  rcases hcompose : y.compose t target with ⟨result, z, u⟩
  have hcharge : z.charge = x.charge := by
    rw [(attempt_frame hbind hcompose).1]
    rfl
  simp only [hcompose]
  cases result with
  | error e =>
    rw [← hcharge]
    exact carried_retryOrFail z _ e l.reused
  | ok message => exact .goes hcharge rfl

theorem carried_checkedOut (x : Exchange) (s : Shared) (target : Target)
    (status : CheckoutStatus) : Carried limit x.charge (x.checkedOut s target status).1 := by
  rcases status with (lease | r) | ticket | _
  · exact carried_attempt x s target lease
  · exact .goes rfl rfl
  · exact .goes rfl rfl
  · exact carried_retryOrFail x s _ false

theorem carried_connect (x : Exchange) (s : Shared) (target : Target) :
    Carried limit x.charge (x.connect s target).1 := by
  unfold connect
  cases hheld : x.held with
  | none => exact carried_checkedOut x _ target _
  | some lease =>
    dsimp only
    split
    · split
      · exact carried_attempt { x with held := none } s target lease
      · exact carried_checkedOut { x with held := none } _ target _
    · exact carried_checkedOut { x with held := none } _ target _

theorem carried_begin (x : Exchange) (s : Shared) : Carried limit x.charge (x.begin s).1 := by
  unfold begin
  split
  · exact carried_fail x s _
  · exact carried_connect x s _

theorem carried_resume (x : Exchange) (s : Shared) (ticket : Nat) :
    Carried limit x.charge (x.resume s ticket).1 := by
  unfold resume
  split
  · exact carried_fail x s _
  · exact carried_checkedOut x _ _ _

theorem carried_dialed (x : Exchange) (s : Shared) (r : Reservation) (transport : TransportId) :
    Carried limit x.charge (x.dialed s r transport).1 :=
  carried_attempt x _ r.target _

end Attempts

section Responses

variable {x : Exchange} {s : Shared} {l : Lease} {head : Head} {limit : Option Nat}

theorem carried_answer {charge : Charge} (hcharge : x.charge = charge)
    (hlimit : s.settings.readTimeout = limit) : Carried limit charge (x.answer s head l).1 := by
  unfold answer
  rcases hpark : x.park s l with ⟨y, t⟩
  have hparked : y.charge = x.charge := by
    rw [(park_frame hpark).1]
    rfl
  have hwaits : t.settings.readTimeout = limit := by
    rw [(park_frame hpark).2]
    exact hlimit
  rw [← hcharge, ← hparked]
  exact .answered rfl rfl (congrArg (fun limit => (y.token, y.deadline, limit)) hwaits) rfl

theorem carried_onChallenge (x : Exchange) (s : Shared) (target : Target) (realm : Realm)
    (head : Head) (l : Lease) :
    Carried s.settings.readTimeout x.charge (x.onChallenge s target realm head l).1 := by
  unfold onChallenge
  dsimp only
  split
  · split
    · exact .goes rfl rfl
    · exact .failed rfl rfl
  · exact .failed rfl rfl
  · exact carried_answer rfl rfl

theorem carried_onRedirect (x : Exchange) (s : Shared) (head : Head) (l : Lease)
    (location : HeaderValue) :
    Carried s.settings.readTimeout x.charge (x.onRedirect s head l location).1 := by
  unfold onRedirect
  split
  · exact .failed rfl rfl
  · split
    · exact .failed rfl rfl
    · split
      · rcases hpark : x.park s l with ⟨y, t⟩
        have hcharge : y.charge = x.charge := by
          rw [(park_frame hpark).1]
          rfl
        exact .goes hcharge rfl
      · exact carried_answer rfl rfl
      · exact .failed rfl rfl

theorem carried_passOn (x : Exchange) (s : Shared) (head : Head) (l : Lease) :
    Carried s.settings.readTimeout x.charge (x.passOn s head l).1 := by
  unfold passOn
  split
  · split
    · exact carried_onRedirect x s head l _
    · exact carried_answer rfl rfl
  · exact carried_answer rfl rfl

theorem carried_headArrived (x : Exchange) (s : Shared) (head : Head) (l : Lease) :
    Carried s.settings.readTimeout x.charge (x.headArrived s head l).1 := by
  unfold headArrived
  generalize (if head.wantsClose then l.unpoolable else l) = m
  rcases onHead_cases { x with pending := none } s m.target head m with
    ⟨realm, -, heq⟩ | ⟨negotiator, heq⟩
  · rw [heq]
    exact carried_onChallenge { x with pending := none } s _ realm head m
  · rw [heq]
    exact carried_passOn { x with pending := none, negotiator := negotiator } s head m

end Responses

section Steps

variable {x y : Exchange} {s t : Shared}

theorem carried_drained (x : Exchange) (s : Shared) (l : Lease) (whole : Bool)
    (after : AfterDrain) :
    Carried s.settings.readTimeout x.charge (x.drained s l whole after).1 := by
  unfold drained
  cases after with
  | answer header keepConnection =>
    dsimp only
    split
    · exact .goes rfl rfl
    · split <;> exact .goes rfl rfl
  | follow next => exact .goes rfl rfl

theorem carried_drainStep {l : Lease} {read : Nat} {limit : Option Nat} {after : AfterDrain}
    (hstep : x.drainStep s l read limit after = some (y, t)) :
    Carried s.settings.readTimeout x.charge y := by
  have hdrained : ∀ whole : Bool, some (x.drained s l whole after) = some (y, t) →
      Carried s.settings.readTimeout x.charge y := by
    intro whole heq
    have hcarried := carried_drained x s l whole after
    rwa [Option.some.inj heq] at hcarried
  unfold drainStep at hstep
  split at hstep
  · dsimp only at hstep
    split at hstep
    · exact hdrained false hstep
    · obtain ⟨rfl, -⟩ := Prod.mk.inj (Option.some.inj hstep)
      exact .goes rfl rfl
  · exact hdrained _ hstep
  · obtain ⟨-, heq⟩ := Option.ite_none_right_eq_some.mp hstep
    exact hdrained false heq

/-- What an exchange that is not cut short carries along. -/
theorem carried_proceed (hstep : x.proceed s = some (y, t)) :
    Carried s.settings.readTimeout x.charge y := by
  -- Whatever is done in this phase, it is the step.
  have hdone : ∀ {next : Exchange × Shared}, Carried s.settings.readTimeout x.charge next.1 →
      some next = some (y, t) → Carried s.settings.readTimeout x.charge y := by
    intro next hnext heq
    rwa [Option.some.inj heq] at hnext
  unfold proceed at hstep
  split at hstep
  · exact hdone (carried_begin x s) hstep
  · obtain ⟨-, heq⟩ := Option.ite_none_right_eq_some.mp hstep
    exact hdone (carried_resume x s _) heq
  · split at hstep
    · exact hdone (carried_dialed x s _ _) hstep
    · exact hdone (carried_retryOrFail x _ _ false) hstep
    · obtain ⟨-, heq⟩ := Option.ite_none_right_eq_some.mp hstep
      exact hdone (carried_retryOrFail x _ _ false) heq
  · split at hstep
    · exact hdone (carried_headArrived x s _ _) hstep
    · exact hdone (carried_retryOrFail x _ _ _) hstep
    · obtain ⟨-, heq⟩ := Option.ite_none_right_eq_some.mp hstep
      exact hdone (carried_retryOrFail x _ _ _) heq
  · exact carried_drainStep hstep
  · cases hstep
  · cases hstep
  · cases hstep

/-- What an exchange carries through a step. -/
theorem carried_step (hstep : x.step s = some (y, t)) :
    Carried s.settings.readTimeout x.charge y := by
  by_cases hcut : x.isCut s = true
  · rw [step_of_cut (running_of_step hstep) hcut] at hstep
    obtain ⟨rfl, -⟩ := Prod.mk.inj (Option.some.inj hstep)
    exact .failed rfl rfl
  · rw [Bool.not_eq_true] at hcut
    rw [step_of_uncut (running_of_step hstep) hcut] at hstep
    exact carried_proceed hstep

end Steps

end Exchange

end HttpClient
