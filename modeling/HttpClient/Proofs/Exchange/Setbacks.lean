import HttpClient.Proofs.Exchange.Outcomes

/-!
# Setbacks of an attempt

What an attempt fails with before a head is heard is what the exchange would end with if no retries
were left. With retries left it ends with the same error, or it rests and begins another attempt;
so an exchange and its twin without retries are followed side by side through all of a step.
-/

namespace HttpClient

/-- The error that an exchange ended with. -/
def Phase.error? : Phase → Option Error
  | failed e => some e
  | _ => none

/-- The stream that an attempt dials, or over which it waits for a head. -/
def Phase.stream? : Phase → Option TransportId
  | dialing _ transport _ => some transport
  | sending l _ => some l.transport
  | _ => none

/-- True while a request is out on a connection that came out of the idle set. -/
def Phase.isReused : Phase → Bool
  | sending l _ => l.reused
  | _ => false

namespace Exchange

/-- The exchange with another budget for retries. -/
def withRetries (x : Exchange) (budget : Retry.Budget) : Exchange := { x with retries := budget }

/-- What the next step of an exchange fails with: what it would end with if no retries were left. -/
def setback? (x : Exchange) (s : Shared) : Option Error :=
  ((x.withRetries ⟨0⟩).step s).bind fun next => next.1.phase.error?

/-- The head that the next step of an exchange hears. -/
def heard? (x : Exchange) (s : Shared) : Option Head :=
  match x.phase with
  | .sending l _ =>
    if x.isCut s then none
    else
      match (s.inbox l).answer with
      | some (.head head) => some head
      | _ => none
  | _ => none

/-- What an error tells of a stream that failed: all that stands behind the failure, and at which
stage it came. -/
structure Relates (x : Exchange) (s : Shared) (e : Error) : Prop where
  /-- The stream could not be opened. -/
  dial : ∀ r transport limit chain, x.phase = .dialing r transport limit →
    (s.stream? transport).map Stream.state = some (.failed chain) →
      e.stage = .connect ∧ e.chain = chain
  /-- The request got no head. -/
  fault : ∀ l limit fault chain, x.phase = .sending l limit →
    (s.inbox l).answer = some (.fault fault chain) →
      e.stage = (if fault = .malformedHead then .protocol else .request) ∧
        e.chain = .cause (.wire fault) :: chain

/-- An attempt of an exchange, beside the same attempt of one that has no retries left. -/
inductive Weighed (c : Course) (method : Method) (reused : Bool) (y poor : Exchange) : Prop
  | pursue (hphase : y.phase.isUnderWay = true) (hpoor : poor.phase.isUnderWay = true)
  | fail {e} (hphase : y.phase = .failed e) (hpoor : poor.phase = .failed e)
    (hurl : e.url = some c.url)
    (hfinal : Retry.isRetryable method reused e = false ∨ c.retries.remaining = 0)
  | retry {e} (hphase : y.phase = .resting) (hpoor : poor.phase = .failed e)
    (hretry : Retry.isRetryable method reused e = true)
    (hspent : c.retries.withdraw = (true, y.retries))

/-- Nothing is withdrawn from an empty budget alone. -/
theorem remaining_of_withdraw {budget : Retry.Budget} (h : budget.withdraw.1 = false) :
    budget.remaining = 0 := by
  unfold Retry.Budget.withdraw at h
  split at h
  · assumption
  · cases h

/-- A request that cannot be made as it stands is not tried again. -/
theorem not_isRetryable_of_builder {e : Error} (method : Method) (reused : Bool)
    (h : e.stage = .builder) : Retry.isRetryable method reused e = false := by
  unfold Retry.isRetryable
  rw [h]
  split <;> rfl

section Twins

/-- Choosing the negotiator state has nothing to do with retries. -/
theorem bind_withRetries (x : Exchange) (s : Shared) (l : Lease) (budget : Retry.Budget) :
    (x.withRetries budget).bind s l = ((x.bind s l).1.withRetries budget, (x.bind s l).2) := by
  simp only [bind, withRetries]
  split
  · rfl
  · rename_i realm _
    by_cases hforeign : (x.pending.any fun p => p.conn.any (· ≠ l.id)) = true
    · simp only [hforeign, if_true]
    · simp only [hforeign, if_false, Bool.false_eq_true]
      cases (s.unpark l realm).1 with
      | none =>
        by_cases hfresh : (x.negotiator.isConnectionScoped && x.pending.isNone) = true
        · simp only [hfresh, if_true]
        · simp only [hfresh, if_false, Bool.false_eq_true]
      | some n =>
        by_cases hswap : (x.negotiator.isConnectionScoped || x.pending.isNone) = true
        · simp only [hswap, if_true]
        · simp only [hswap, if_false, Bool.false_eq_true]

/-- Choosing the credentials has nothing to do with retries. -/
theorem credentials_withRetries (x : Exchange) (s : Shared) (target : Target)
    (budget : Retry.Budget) :
    (x.withRetries budget).credentials s target =
      ((x.credentials s target).1, (x.credentials s target).2.1.withRetries budget,
        (x.credentials s target).2.2) := by
  simp only [credentials, withRetries]
  split
  · rfl
  · rfl
  · rename_i realm _ _
    by_cases hshould : x.negotiator.shouldPreempt realm = true
    · simp only [hshould, if_true]
      rfl
    · simp only [hshould, if_false, Bool.false_eq_true]

/-- Making the message has nothing to do with retries. -/
theorem compose_withRetries (x : Exchange) (s : Shared) (target : Target)
    (budget : Retry.Budget) :
    (x.withRetries budget).compose s target =
      ((x.compose s target).1, (x.compose s target).2.1.withRetries budget,
        (x.compose s target).2.2) := by
  unfold compose
  rw [credentials_withRetries]
  rcases x.credentials s target with ⟨result, y, t⟩
  cases result with
  | error failure => rfl
  | ok credentials =>
    dsimp only
    split <;> split <;> first | rfl | contradiction

/-- A request that cannot be made is not tried again. -/
theorem not_isRetryable_of_compose {x y : Exchange} {s t : Shared} {target : Target} {e : Error}
    (method : Method) (reused : Bool) (h : x.compose s target = (.error e, y, t)) :
    Retry.isRetryable method reused e = false := by
  unfold compose at h
  rcases hcredentials : x.credentials s target with ⟨result, z, u⟩
  rw [hcredentials] at h
  cases result with
  | error failure =>
    obtain rfl := Except.error.inj (Prod.mk.inj h).1
    cases failure <;> rfl
  | ok credentials =>
    dsimp only at h
    split at h
    · obtain rfl := Except.error.inj (Prod.mk.inj h).1
      rfl
    · cases (Prod.mk.inj h).1

/-- After an error that is not to be tried again an exchange ends with it. -/
theorem failed_retryOrFail (x : Exchange) (s : Shared) {e : Error} {reused : Bool}
    (h : Retry.isRetryable x.content.method reused e = false) :
    (x.retryOrFail s e reused).1.phase = .failed (e.withUrl x.url) := by
  unfold retryOrFail
  simp only [h, Bool.false_and, Bool.false_eq_true, if_false]
  rfl

/-- With no retries left an exchange ends with every error. -/
theorem failed_withoutRetries (x : Exchange) (s : Shared) (e : Error) (reused : Bool) :
    ((x.withRetries ⟨0⟩).retryOrFail s e reused).1.phase = .failed (e.withUrl x.url) := by
  simp only [retryOrFail, withRetries, Retry.Budget.withdraw, Bool.and_false, Bool.false_eq_true,
    if_false]
  rfl

/-- After an error an exchange ends with it as its twin does, or spends a retry. -/
theorem weighed_retryOrFail (x : Exchange) (s t : Shared) (e : Error) (reused : Bool) :
    Weighed x.course x.content.method reused (x.retryOrFail s e reused).1
      ((x.withRetries ⟨0⟩).retryOrFail t e reused).1 := by
  have hpoor := x.failed_withoutRetries t e reused
  by_cases hretry :
    (Retry.isRetryable x.content.method reused e && x.retries.withdraw.1) = true
  · have hrests : (x.retryOrFail s e reused).1 =
        { x with phase := .resting, retries := x.retries.withdraw.2 } := by
      simp only [retryOrFail, hretry, if_true]
    rw [hrests]
    rw [Bool.and_eq_true] at hretry
    exact .retry rfl hpoor hretry.1 (Prod.ext hretry.2 rfl)
  · have hfails : (x.retryOrFail s e reused).1.phase = .failed (e.withUrl x.url) := by
      simp only [retryOrFail, hretry]
      rfl
    rw [Bool.not_eq_true, Bool.and_eq_false_iff] at hretry
    exact .fail hfails hpoor rfl (hretry.imp_right remaining_of_withdraw)

theorem weighed_attempt (x : Exchange) (s : Shared) (target : Target) (l : Lease) :
    Weighed x.course x.content.method false (x.attempt s target l).1
      ((x.withRetries ⟨0⟩).attempt s target l).1 := by
  unfold attempt
  rw [bind_withRetries]
  rcases hbind : x.bind s l with ⟨y, t⟩
  simp only [compose_withRetries]
  rcases hcompose : y.compose t target with ⟨result, z, u⟩
  have hurl : z.url = x.url := by rw [(attempt_frame hbind hcompose).1]
  cases result with
  | error e =>
    have hfinal := fun method reused => not_isRetryable_of_compose method reused hcompose
    exact .fail (failed_retryOrFail z _ (hfinal _ l.reused))
      (failed_retryOrFail (z.withRetries ⟨0⟩) _ (hfinal _ l.reused)) (congrArg some hurl)
      (Or.inl (hfinal _ _))
  | ok message => exact .pursue rfl rfl

theorem weighed_checkedOut (x : Exchange) (s : Shared) (target : Target) (status : CheckoutStatus) :
    Weighed x.course x.content.method false (x.checkedOut s target status).1
      ((x.withRetries ⟨0⟩).checkedOut s target status).1 := by
  rcases status with (lease | r) | ticket | _
  · exact weighed_attempt x s target lease
  · exact .pursue rfl rfl
  · exact .pursue rfl rfl
  · exact weighed_retryOrFail x s s _ false

theorem weighed_connect (x : Exchange) (s : Shared) (target : Target) :
    Weighed x.course x.content.method false (x.connect s target).1
      ((x.withRetries ⟨0⟩).connect s target).1 := by
  have htwin : (x.withRetries ⟨0⟩).held = x.held := rfl
  unfold connect
  rw [htwin]
  cases hheld : x.held with
  | none => exact weighed_checkedOut x _ target _
  | some lease =>
    dsimp only
    by_cases halive : s.isAlive lease.transport = true
    · rw [if_pos halive, if_pos halive]
      by_cases hsame : lease.target = target
      · rw [if_pos hsame, if_pos hsame]
        exact weighed_attempt { x with held := none } s target lease
      · rw [if_neg hsame, if_neg hsame]
        exact weighed_checkedOut { x with held := none } _ target _
    · rw [if_neg halive, if_neg halive]
      exact weighed_checkedOut { x with held := none } _ target _

/-- What cannot be a target cannot be asked for. -/
theorem stage_of_make {scheme host : String} {port : Option Nat} {e : Error}
    (h : Target.make scheme host port = .error e) : e.stage = .builder := by
  unfold Target.make at h
  split at h
  · obtain rfl := Except.error.inj h
    rfl
  · split at h
    · obtain rfl := Except.error.inj h
      rfl
    · cases h

/-- A URL that leads to no target is named in the error about it, and cannot be asked for. -/
theorem error_of_ofUrl {url : Url} {e : Error} (h : Target.ofUrl url = .error e) :
    e.url = some url ∧ e.stage = .builder := by
  unfold Target.ofUrl at h
  split at h
  · obtain rfl := Except.error.inj h
    exact ⟨rfl, rfl⟩
  · rename_i host _
    cases hmake : Target.make url.scheme host url.port with
    | error reason =>
      rw [hmake] at h
      have hstage := stage_of_make hmake
      obtain rfl := Except.error.inj h
      exact ⟨rfl, hstage⟩
    | ok target =>
      rw [hmake] at h
      cases h

theorem weighed_begin (x : Exchange) (s : Shared) :
    Weighed x.course x.content.method false (x.begin s).1
      ((x.withRetries ⟨0⟩).begin s).1 := by
  have htwin : (x.withRetries ⟨0⟩).url = x.url := rfl
  unfold begin
  rw [htwin]
  cases hurl : Target.ofUrl x.url with
  | error e =>
    obtain ⟨hnamed, hstage⟩ := error_of_ofUrl hurl
    exact .fail rfl rfl hnamed (Or.inl (not_isRetryable_of_builder _ _ hstage))
  | ok target => exact weighed_connect x s target

theorem weighed_resume (x : Exchange) (s : Shared) (ticket : Nat) :
    Weighed x.course x.content.method false (x.resume s ticket).1
      ((x.withRetries ⟨0⟩).resume s ticket).1 := by
  have htwin : (x.withRetries ⟨0⟩).url = x.url := rfl
  unfold resume
  rw [htwin]
  cases hurl : Target.ofUrl x.url with
  | error e =>
    obtain ⟨hnamed, hstage⟩ := error_of_ofUrl hurl
    exact .fail rfl rfl hnamed (Or.inl (not_isRetryable_of_builder _ _ hstage))
  | ok target => exact weighed_checkedOut x _ target _

end Twins

variable {x y : Exchange} {s t : Shared} {e : Error}

/-- An exchange that attempts something goes on. -/
theorem running_of_attempt (hphase : x.phase = .resting ∨ x.phase.isUnderWay = true) :
    x.isRunning = true := by
  unfold isRunning
  cases h : x.phase with
  | resting | waiting | dialing | sending | draining => rfl
  | answered | failed | dropped =>
    rw [h] at hphase
    rcases hphase with hphase | hphase <;> cases hphase

/-- Without a head an attempt goes for an exchange as for its twin without retries. -/
theorem weighed_of_step (hphase : x.phase = .resting ∨ x.phase.isUnderWay = true)
    (hcut : x.isCut s = false) (hheard : x.heard? s = none) (hstep : x.step s = some (y, t)) :
    ∃ z u, (x.withRetries ⟨0⟩).step s = some (z, u) ∧
      Weighed x.course x.content.method x.phase.isReused y z := by
  have hrunning := running_of_attempt hphase
  have hpoor : (x.withRetries ⟨0⟩).step s = (x.withRetries ⟨0⟩).proceed s :=
    step_of_uncut hrunning hcut
  rw [hpoor]
  rw [step_of_uncut hrunning hcut] at hstep
  unfold proceed at hstep ⊢
  have hsame : (x.withRetries ⟨0⟩).phase = x.phase := rfl
  rw [hsame]
  have hpair : ∀ {p q : Exchange × Shared} {reused : Bool},
      Weighed x.course x.content.method reused p.1 q.1 → some p = some (y, t) →
        ∃ z u, some q = some (z, u) ∧ Weighed x.course x.content.method reused y z := by
    rintro p ⟨z, u⟩ reused hweighed heq
    obtain rfl := Option.some.inj heq
    exact ⟨z, u, rfl, hweighed⟩
  cases hwhere : x.phase with
  | resting =>
    simp only [hwhere] at hstep ⊢
    exact hpair (weighed_begin x s) hstep
  | waiting ticket =>
    simp only [hwhere] at hstep ⊢
    obtain ⟨hdue, heq⟩ := Option.ite_none_right_eq_some.mp hstep
    rw [if_pos hdue]
    exact hpair (weighed_resume x s ticket) heq
  | dialing r transport limit =>
    simp only [hwhere] at hstep ⊢
    cases hstate : (s.stream? transport).map Stream.state with
    | none =>
      simp only [hstate] at hstep ⊢
      obtain ⟨hover, heq⟩ := Option.ite_none_right_eq_some.mp hstep
      rw [if_pos hover]
      exact hpair (weighed_retryOrFail x _ _ _ false) heq
    | some state =>
      cases state with
      | up =>
        simp only [hstate] at hstep ⊢
        exact hpair (weighed_attempt x _ r.target _) hstep
      | failed chain =>
        simp only [hstate] at hstep ⊢
        exact hpair (weighed_retryOrFail x _ _ _ false) hstep
      | dialing =>
        simp only [hstate] at hstep ⊢
        obtain ⟨hover, heq⟩ := Option.ite_none_right_eq_some.mp hstep
        rw [if_pos hover]
        exact hpair (weighed_retryOrFail x _ _ _ false) heq
  | sending l limit =>
    simp only [hwhere] at hstep ⊢
    cases hanswer : (s.inbox l).answer with
    | none =>
      simp only [hanswer] at hstep ⊢
      obtain ⟨hover, heq⟩ := Option.ite_none_right_eq_some.mp hstep
      rw [if_pos hover]
      exact hpair (weighed_retryOrFail x _ _ _ l.reused) heq
    | some answer =>
      cases answer with
      | head head =>
        simp [heard?, hwhere, hcut, hanswer] at hheard
      | fault fault chain =>
        simp only [hanswer] at hstep ⊢
        exact hpair (weighed_retryOrFail x _ _ _ l.reused) hstep
  | draining | answered | failed | dropped =>
    rw [hwhere] at hphase
    rcases hphase with hphase | hphase <;> cases hphase

/-- An exchange that is cut short is not tried again. -/
theorem not_isRetryable_cutError (x : Exchange) (s : Shared) (method : Method) (reused : Bool) :
    Retry.isRetryable method reused (x.cutError s) = false := by
  unfold cutError
  split <;> rfl

/-- An attempt that hears no head goes on, or it meets a setback: the exchange ends with it, where
it is not of the kind that is tried again or no retries are left, or a retry is spent and the next
attempt begins. -/
theorem setback_of_step (hphase : x.phase = .resting ∨ x.phase.isUnderWay = true)
    (hheard : x.heard? s = none) (hstep : x.step s = some (y, t)) :
    (x.setback? s = none ∧ y.phase.isUnderWay = true) ∨
      ∃ e, x.setback? s = some e ∧ (y.phase = .failed e ∧
          (Retry.isRetryable x.content.method x.phase.isReused e = false ∨
            x.retries.remaining = 0) ∨
        y.phase = .resting ∧ x.isCut s = false ∧
          Retry.isRetryable x.content.method x.phase.isReused e = true ∧
          x.retries.withdraw = (true, y.retries)) := by
  by_cases hcut : x.isCut s = true
  · have hrunning := running_of_attempt hphase
    have hpoor : x.setback? s = some (x.cutError s) := by
      rw [setback?, step_of_cut (x := x.withRetries ⟨0⟩) hrunning hcut]
      rfl
    rw [step_of_cut hrunning hcut] at hstep
    obtain ⟨rfl, -⟩ := Prod.mk.inj (Option.some.inj hstep)
    exact Or.inr ⟨_, hpoor, Or.inl ⟨rfl, Or.inl (x.not_isRetryable_cutError s _ _)⟩⟩
  · rw [Bool.not_eq_true] at hcut
    obtain ⟨z, u, hpoor, hweighed⟩ := weighed_of_step hphase hcut hheard hstep
    have hsetback : x.setback? s = z.phase.error? := by rw [setback?, hpoor, Option.bind_some]
    cases hweighed with
    | pursue hy hz =>
      refine Or.inl ⟨?_, hy⟩
      rw [hsetback]
      cases hwhere : z.phase with
      | failed e =>
        rw [hwhere] at hz
        cases hz
      | _ => rfl
    | fail hy hz hurl hfinal =>
      refine Or.inr ⟨_, ?_, Or.inl ⟨hy, hfinal⟩⟩
      rw [hsetback, hz]
      rfl
    | retry hy hz hretry hspent =>
      refine Or.inr ⟨_, ?_, Or.inr ⟨hy, hcut, hretry, hspent⟩⟩
      rw [hsetback, hz]
      rfl

/-- When a stream cannot be opened, all that stands behind that stands behind the setback. -/
theorem setback_of_dial {r : Reservation} {transport : TransportId} {limit : Option Nat}
    {chain : List Source} (hphase : x.phase = .dialing r transport limit)
    (hcut : x.isCut s = false)
    (hstate : (s.stream? transport).map Stream.state = some (.failed chain)) :
    x.setback? s = some ((Error.ofChain .connect chain).withUrl x.url) := by
  have hrunning := running_of_attempt (Or.inr (by rw [hphase]; rfl))
  rw [setback?, step_of_uncut (x := x.withRetries ⟨0⟩) hrunning hcut, proceed]
  have hsame : (x.withRetries ⟨0⟩).phase = x.phase := rfl
  simp only [hsame, hphase, hstate, Option.bind_some]
  rw [failed_withoutRetries]
  rfl

/-- When a request gets no head, all that stands behind that stands behind the setback. -/
theorem setback_of_fault {l : Lease} {limit : Option Nat} {fault : WireFault}
    {chain : List Source} (hphase : x.phase = .sending l limit) (hcut : x.isCut s = false)
    (hanswer : (s.inbox l).answer = some (.fault fault chain)) :
    x.setback? s = some ((faultError fault chain).withUrl x.url) := by
  have hrunning := running_of_attempt (Or.inr (by rw [hphase]; rfl))
  rw [setback?, step_of_uncut (x := x.withRetries ⟨0⟩) hrunning hcut, proceed]
  have hsame : (x.withRetries ⟨0⟩).phase = x.phase := rfl
  simp only [hsame, hphase, hanswer, Option.bind_some, sendFailed]
  rw [show (x.withRetries ⟨0⟩).url = x.url from rfl, failed_withoutRetries]
  rfl

/-- A setback of an exchange that is not cut short tells all about the stream that failed. -/
theorem relates_of_setback (hcut : x.isCut s = false) (hsetback : x.setback? s = some e) :
    x.Relates s e where
  dial r transport limit chain hphase hstate := by
    obtain rfl := Option.some.inj ((setback_of_dial hphase hcut hstate).symm.trans hsetback)
    exact ⟨rfl, rfl⟩
  fault l limit fault chain hphase hanswer := by
    obtain rfl := Option.some.inj ((setback_of_fault hphase hcut hanswer).symm.trans hsetback)
    cases fault <;> exact ⟨rfl, rfl⟩

/-- An attempt that ends the exchange without a head, and is not cut short, names the current
URL. -/
theorem url_of_setback (hphase : x.phase = .resting ∨ x.phase.isUnderWay = true)
    (hcut : x.isCut s = false) (hheard : x.heard? s = none) (hstep : x.step s = some (y, t))
    (hfailed : y.phase = .failed e) : e.url = some x.url := by
  obtain ⟨z, u, -, hweighed⟩ := weighed_of_step hphase hcut hheard hstep
  cases hweighed with
  | pursue hy hz =>
    rw [hfailed] at hy
    cases hy
  | fail hy hz hurl =>
    obtain rfl := Phase.failed.inj (hy.symm.trans hfailed)
    exact hurl
  | retry hy => cases hy.symm.trans hfailed

section Streams

/-- Whoever gives up a connection closes its stream. -/
theorem actions_discard (s : Shared) (l : Lease) :
    (s.discard l).actions = s.actions ++ [.hangUp l.transport] := rfl

/-- An exchange that ends with nothing in its hand closes the stream of its phase. -/
theorem actions_letGo_of_bare (hheld : x.held = none) (s : Shared) :
    ∃ acts, (x.letGo s).actions = s.actions ++ acts ∧
      ∀ transport, x.phase.stream? = some transport → .hangUp transport ∈ acts := by
  unfold letGo
  rw [hheld]
  cases x.phase with
  | dialing r transport limit =>
    refine ⟨[.hangUp transport], rfl, fun other hother => ?_⟩
    obtain rfl := Option.some.inj hother
    exact List.mem_singleton_self _
  | sending l limit =>
    refine ⟨[.hangUp l.transport], rfl, fun other hother => ?_⟩
    obtain rfl := Option.some.inj hother
    exact List.mem_singleton_self _
  | draining l read limit after =>
    exact ⟨[.hangUp l.transport], rfl, fun other hother => by cases hother⟩
  | waiting | resting | answered | failed | dropped =>
    exact ⟨[], (List.append_nil _).symm, fun other hother => by cases hother⟩

/-- What an exchange still holds when it ends is closed as well. -/
theorem actions_letGo (x : Exchange) (s : Shared) :
    ∃ acts, (x.letGo s).actions = s.actions ++ acts ∧
      ∀ transport, x.phase.stream? = some transport → .hangUp transport ∈ acts := by
  cases hheld : x.held with
  | none => exact actions_letGo_of_bare hheld s
  | some lease =>
    let y := { x with held := none }
    obtain ⟨acts, hacts, hmem⟩ := actions_letGo_of_bare (x := y) rfl s
    have hlast : x.letGo s = (y.letGo s).discard lease := by
      unfold letGo
      rw [hheld]
    refine ⟨acts ++ [.hangUp lease.transport], ?_, fun transport htransport => ?_⟩
    · rw [hlast, actions_discard, hacts, List.append_assoc]
    · exact List.mem_append_left _ (hmem transport htransport)

/-- What was done outside before an error is handled stays done. -/
theorem actions_retryOrFail (x : Exchange) (u : Shared) (e : Error) (reused : Bool) :
    ∃ acts, (x.retryOrFail u e reused).2.actions = u.actions ++ acts := by
  unfold retryOrFail
  dsimp only
  split
  · exact ⟨[], (List.append_nil _).symm⟩
  · obtain ⟨acts, hacts, -⟩ := actions_letGo { x with phase := .resting } u
    exact ⟨acts, hacts⟩

/-- A connection that was closed stays closed while the error is handled. -/
theorem hangUp_retryOrFail {u : Shared} {reused : Bool} {transport : TransportId}
    (hu : u.actions = s.actions ++ [.hangUp transport])
    (h : x.retryOrFail u e reused = (y, t)) :
    ∃ acts, t.actions = s.actions ++ acts ∧ .hangUp transport ∈ acts := by
  obtain ⟨acts, hacts⟩ := actions_retryOrFail x u e reused
  rw [h, hu, List.append_assoc] at hacts
  exact ⟨_, hacts, List.mem_append_left acts (List.mem_singleton_self _)⟩

/-- A connection over which nothing is sent is closed. -/
theorem hangUp_attempt {target : Target} {l : Lease} (h : x.attempt s target l = (y, t))
    (hend : y.phase.isUnderWay = false) :
    ∃ acts, t.actions = s.actions ++ acts ∧ .hangUp l.transport ∈ acts := by
  unfold attempt at h
  rcases hbind : x.bind s l with ⟨z, u⟩
  rcases hcompose : z.compose u target with ⟨result, w, v⟩
  simp only [hbind, hcompose] at h
  cases result with
  | error e =>
    refine hangUp_retryOrFail ?_ h
    rw [actions_discard, (attempt_frame hbind hcompose).2]
  | ok message =>
    obtain ⟨rfl, -⟩ := Prod.mk.inj h
    cases hend

/-- An attempt that comes to nothing closes its stream. -/
theorem hangUp_of_step {transport : TransportId} (hstream : x.phase.stream? = some transport)
    (hheard : x.heard? s = none) (hstep : x.step s = some (y, t))
    (hend : y.phase.isUnderWay = false) :
    ∃ acts, t.actions = s.actions ++ acts ∧ .hangUp transport ∈ acts := by
  have hphase : x.phase = .resting ∨ x.phase.isUnderWay = true := by
    cases hwhere : x.phase with
    | dialing | sending => exact Or.inr rfl
    | resting | waiting | draining | answered | failed | dropped =>
      rw [hwhere] at hstream
      cases hstream
  have hrunning := running_of_attempt hphase
  by_cases hcut : x.isCut s = true
  · rw [step_of_cut hrunning hcut] at hstep
    obtain ⟨acts, hacts, hmem⟩ :=
      actions_letGo { x with delivery := x.delivery.map (·.failed (x.cutError s)) } s
    obtain ⟨-, rfl⟩ := Prod.mk.inj (Option.some.inj hstep)
    exact ⟨acts, hacts, hmem transport hstream⟩
  · rw [Bool.not_eq_true] at hcut
    rw [step_of_uncut hrunning hcut] at hstep
    unfold proceed at hstep
    cases hwhere : x.phase with
    | dialing r found limit =>
      rw [hwhere] at hstream
      obtain rfl := Option.some.inj hstream
      simp only [hwhere] at hstep
      split at hstep
      · -- The stream is up, so it is the message that cannot be made.
        exact hangUp_attempt (Option.some.inj hstep) hend
      · exact hangUp_retryOrFail rfl (Option.some.inj hstep)
      · obtain ⟨-, heq⟩ := Option.ite_none_right_eq_some.mp hstep
        exact hangUp_retryOrFail rfl (Option.some.inj heq)
    | sending l limit =>
      rw [hwhere] at hstream
      obtain rfl := Option.some.inj hstream
      simp only [hwhere] at hstep
      split at hstep
      · rename_i head hanswer
        simp [heard?, hwhere, hcut, hanswer] at hheard
      · exact hangUp_retryOrFail rfl (Option.some.inj hstep)
      · obtain ⟨-, heq⟩ := Option.ite_none_right_eq_some.mp hstep
        exact hangUp_retryOrFail rfl (Option.some.inj heq)
    | resting | waiting | draining | answered | failed | dropped =>
      rw [hwhere] at hstream
      cases hstream

end Streams

end Exchange

end HttpClient
