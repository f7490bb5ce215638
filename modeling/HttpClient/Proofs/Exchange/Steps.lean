import HttpClient.Proofs.Exchange.Moves

/-!
# Steps as chains of moves

Every step of an exchange, of the pump of its body and of its delivery is a chain of elementary
moves. What the chain notes is what the step hears, followed by what it says at its end.
-/

namespace HttpClient

namespace Body

@[simp] theorem lease_request (b : Body) (n : Nat) : (b.request n).lease = b.lease := rfl

@[simp] theorem lease_cancel (b : Body) : b.cancel.lease = b.lease := rfl

@[simp] theorem lease_drop (b : Body) : b.drop.lease = b.lease := by
  unfold drop
  split <;> rfl

/-- A reader takes no connection away. -/
@[simp] theorem lease_read (b : Body) (pull : Bool) : (b.read pull).2.lease = b.lease := by
  have htake : ∀ b : Body, b.takeQueued.2.lease = b.lease := by
    intro b
    unfold takeQueued
    split
    · rfl
    · rfl
    · split <;> rfl
  unfold read
  split
  · rfl
  · rw [htake]
    split <;> rfl

end Body

namespace Delivery

@[simp] theorem lease_apply (b : Body) (calls : List DemandCall) :
    (apply b calls).lease = b.lease := by
  induction calls generalizing b with
  | nil => rfl
  | cons call calls ih =>
    rw [apply, List.foldl_cons, ← apply, ih]
    cases call <;> rfl

/-- A consumer takes no connection away. -/
theorem lease_step {d e : Delivery} {b c : Body} (hstep : d.step b = some (e, c)) :
    c.lease = b.lease := by
  have hread := b.lease_read false
  unfold step at hstep
  split at hstep
  · cases hstep
  · simp only [Option.some.injEq, Prod.mk.injEq] at hstep
    rw [← hstep.2, lease_apply]
  · split at hstep
    · cases hstep
    · rename_i found hfound
      simp only [Option.some.injEq, Prod.mk.injEq] at hstep
      rw [← hstep.2, Body.lease_drop]
      simpa [hfound] using hread
    · rename_i e found hfound
      simp only [Option.some.injEq, Prod.mk.injEq] at hstep
      rw [← hstep.2, Body.lease_drop]
      simpa [hfound] using hread
    · rename_i part found hfound
      rw [hfound] at hread
      split at hstep
      · simp only [Option.some.injEq, Prod.mk.injEq] at hstep
        rw [← hstep.2, Body.lease_drop, lease_apply]
        exact hread
      · simp only [Option.some.injEq, Prod.mk.injEq] at hstep
        rw [← hstep.2, lease_apply]
        exact hread

end Delivery

/-- True where no response is read. -/
def Phase.isQuiet : Phase → Bool
  | sending _ _ | draining _ _ _ _ => false
  | _ => true

namespace Exchange

/-- The notes of what an exchange says at the end of a step. -/
inductive Says (y : Exchange) : List Note → Prop
  | nothing : Says y []
  | dial (transport : TransportId) (target : Target) : Says y [.dial transport target]
  | sent (transport : TransportId) (message : Message) : Says y [.sent transport message y]

/-- A chain of moves that ends with nothing in hand and says what the exchange says then. -/
def Speaks (a : Scene) (y : Exchange) (t : Shared) : Prop :=
  ∃ notes, Says y notes ∧ Moves a notes ⟨y, t, .empty⟩

variable {x y : Exchange} {s t : Shared} {a b : Scene} {notes : List Note}

theorem Speaks.refl : Speaks ⟨x, s, .empty⟩ x s := ⟨[], .nothing, .refl⟩

theorem Speaks.head (h : Move a [] b) (rest : Speaks b y t) : Speaks a y t := by
  obtain ⟨notes, hsaid, hmoves⟩ := rest
  exact ⟨notes, hsaid, .head h hmoves⟩

/-- The end of an exchange that has nothing but what it keeps. -/
theorem finish_speaks (x : Exchange) (s : Shared) {before phase : Phase}
    {delivery : Option Delivery} (hbefore : before = .resting ∨ before = .dropped)
    (hend : phase = .dropped ∨ ∃ e, phase = .failed e) :
    Moves ⟨{ x with phase := before }, s, .empty⟩ []
      ⟨{ x with phase := phase, held := none, delivery := delivery },
        match x.held with
        | some lease => s.discard lease
        | none => s, .empty⟩ := by
  cases hheld : x.held with
  | none =>
    exact .single (.finish phase delivery hbefore rfl hend)
  | some lease =>
    refine .head (.take rfl) (.head .spoil (.head .close (.single ?_)))
    exact Move.finish (x := { x with held := none, phase := before }) phase delivery hbefore rfl
      hend

/-- Whatever an exchange holds is given up when it ends. -/
theorem letGo_moves (x : Exchange) (s : Shared) (hrunning : x.isRunning = true) {phase : Phase}
    (delivery : Option Delivery) (hend : phase = .dropped ∨ ∃ e, phase = .failed e) :
    Moves ⟨x, s, .empty⟩ x.dropHears
      ⟨{ x with phase := phase, held := none, delivery := delivery }, x.letGo s, .empty⟩ := by
  cases hphase : x.phase with
  | resting =>
    have hmoves := @finish_speaks x s .resting phase delivery (Or.inl rfl) hend
    simp only [letGo, dropHears, hphase]
    rw [← hphase] at hmoves
    exact hmoves
  | waiting ticket =>
    simp only [letGo, dropHears, hphase]
    exact .head (.leave hphase) (finish_speaks x _ (Or.inl rfl) hend)
  | dialing r transport limit =>
    simp only [letGo, dropHears, hphase]
    exact .head (.abandon hphase) (finish_speaks x _ (Or.inl rfl) hend)
  | sending lease limit =>
    simp only [letGo, dropHears, hphase]
    exact .head (.lose hphase) (.head .close (finish_speaks x _ (Or.inl rfl) hend))
  | draining lease read limit after =>
    simp only [letGo, dropHears, hphase]
    exact .head (.quit hphase) (.head .close (finish_speaks x _ (Or.inr rfl) hend))
  | answered head body => simp [isRunning, hphase] at hrunning
  | failed e => simp [isRunning, hphase] at hrunning
  | dropped => simp [isRunning, hphase] at hrunning

/-- Ending with an error gives up whatever is held. -/
theorem fail_moves (x : Exchange) (s : Shared) (e : Error) (hrunning : x.isRunning = true) :
    Moves ⟨x, s, .empty⟩ x.dropHears ⟨(x.fail s e).1, (x.fail s e).2, .empty⟩ :=
  letGo_moves x s hrunning (x.delivery.map (Delivery.failed · e)) (Or.inr ⟨e, rfl⟩)

/-- After a failed attempt there is another one, or the end. -/
theorem retryOrFail_speaks (x : Exchange) (s : Shared) (e : Error) (reused : Bool) :
    Speaks ⟨{ x with phase := .resting }, s, .empty⟩ (x.retryOrFail s e reused).1
      (x.retryOrFail s e reused).2 := by
  rcases hbudget : x.retries.withdraw with ⟨granted, budget⟩
  by_cases hretry :
      (Retry.isRetryable x.content.method reused e && granted) = true
  · obtain ⟨hable, rfl⟩ := Bool.and_eq_true_iff.mp hretry
    simp only [retryOrFail, hbudget, hable, Bool.and_self, if_true]
    exact .head (.retry e reused rfl hable hbudget) .refl
  · simp only [retryOrFail, hbudget, hretry]
    exact ⟨[], .nothing, fail_moves { x with phase := .resting } s (e.withUrl x.url) rfl⟩

/-- Choosing the negotiator state does not look at where the exchange stands. -/
theorem bind_phase (x : Exchange) (s : Shared) (l : Lease) (phase : Phase) :
    { x with phase := phase }.bind s l =
      ({ (x.bind s l).1 with phase := phase }, (x.bind s l).2) := by
  obtain ⟨start, url, content, realm, policy, history, retries, authRetries, negotiator, pending,
    held, token, deadline, before, delivery⟩ := x
  cases realm with
  | none => rfl
  | some realm =>
    rcases hunpark : s.unpark l realm with ⟨stored, t⟩
    simp only [bind, hunpark]
    split
    · rfl
    · cases stored with
      | none => dsimp only; split <;> rfl
      | some negotiator => dsimp only; split <;> rfl

/-- Choosing the credentials does not look at where the exchange stands. -/
private theorem credentials_phase (x : Exchange) (s : Shared) (target : Target) (phase : Phase) :
    { x with phase := phase }.credentials s target =
      ((x.credentials s target).1, { (x.credentials s target).2.1 with phase := phase },
        (x.credentials s target).2.2) := by
  obtain ⟨start, url, content, realm, policy, history, retries, authRetries, negotiator, pending,
    held, token, deadline, before, delivery⟩ := x
  cases realm with
  | none => rfl
  | some realm =>
    cases pending with
    | some pending => rfl
    | none =>
      simp only [credentials]
      split <;> rfl

/-- Making the message does not look at where the exchange stands. -/
theorem compose_phase (x : Exchange) (s : Shared) (target : Target) (phase : Phase) :
    { x with phase := phase }.compose s target =
      ((x.compose s target).1, { (x.compose s target).2.1 with phase := phase },
        (x.compose s target).2.2) := by
  unfold compose
  rw [credentials_phase]
  rcases x.credentials s target with ⟨result, y, t⟩
  cases result with
  | error failure => rfl
  | ok credentials =>
    dsimp only [message, plainHeaders]
    split <;> rfl

/-- An attempt with a connection in hand sends the request, or gives the connection up. -/
theorem attempt_speaks (x : Exchange) (s : Shared) (target : Target) (l : Lease)
    (htarget : Target.ofUrl x.url = .ok target ∨ l.target = target) :
    Speaks ⟨{ x with phase := .resting }, s, .ready l⟩ (x.attempt s target l).1
      (x.attempt s target l).2 := by
  rcases hbind : x.bind s l with ⟨y, t⟩
  rcases hcompose : y.compose t target with ⟨result, z, u⟩
  have hrested := bind_phase x s l .resting
  have hcomposed := compose_phase y t target .resting
  rw [hbind] at hrested
  rw [hcompose] at hcomposed
  simp only [attempt, hbind, hcompose]
  cases result with
  | error e =>
    exact .head (.misfit hrested hcomposed) (.head .close (retryOrFail_speaks z _ e l.reused))
  | ok message =>
    exact ⟨_, .sent l.transport message,
      .single (.send (x := { x with phase := .resting }) (z := { z with phase := .resting }) _
        htarget hrested hcomposed)⟩

/-- What the pool answers is gone on with. -/
theorem checkedOut_speaks {x : Exchange} {s t : Shared} {target : Target}
    {status : CheckoutStatus} (hurl : Target.ofUrl x.url = .ok target)
    (hask : x.Asked s target status t) :
    Speaks ⟨x, s, .empty⟩ (x.checkedOut t target status).1 (x.checkedOut t target status).2 := by
  cases status with
  | ready checkout =>
    cases checkout with
    | idle lease => exact .head (.find hurl hask) (attempt_speaks x t target lease (Or.inl hurl))
    | reserved r => exact ⟨_, .dial _ target, .single (.dial _ hurl hask)⟩
  | waiting ticket => exact .head (.queue hurl hask) .refl
  | tooMany =>
    exact .head (.refuse hurl hask)
      (retryOrFail_speaks x t (.of .connect .tooManyConnections) false)

/-- An exchange that rests looks for a connection. -/
theorem connect_speaks {x : Exchange} {s : Shared} {target : Target}
    (hphase : x.phase = .resting) (hurl : Target.ofUrl x.url = .ok target) :
    Speaks ⟨x, s, .empty⟩ (x.connect s target).1 (x.connect s target).2 := by
  cases hheld : x.held with
  | none =>
    simp only [connect, hheld]
    exact checkedOut_speaks hurl (.first hphase hheld rfl)
  | some lease =>
    have htake : Move ⟨x, s, .empty⟩ [] ⟨{ x with held := none }, s, .ready lease⟩ :=
      .take hheld
    simp only [connect, hheld]
    split
    · split
      · have hattempt := attempt_speaks { x with held := none } s target lease (Or.inl hurl)
        simp only [← hphase] at hattempt
        exact .head htake hattempt
      · rename_i hne
        exact .head htake
          (.head (.giveBack hurl hne) (checkedOut_speaks hurl (.first hphase rfl rfl)))
    · exact .head htake
        (.head .spoil (.head .close (checkedOut_speaks hurl (.first hphase rfl rfl))))

/-- An attempt begins. -/
theorem begin_speaks {x : Exchange} {s : Shared} (hphase : x.phase = .resting) :
    Speaks ⟨x, s, .empty⟩ (x.begin s).1 (x.begin s).2 := by
  unfold begin
  split
  · rename_i e hurl
    have hfail := fail_moves x s e (by simp [isRunning, hphase])
    simp only [dropHears, hphase] at hfail
    exact ⟨[], .nothing, hfail⟩
  · rename_i target hurl
    exact connect_speaks hphase hurl

/-- An exchange that waits asks again. -/
theorem resume_speaks {x : Exchange} {s : Shared} {ticket : Nat}
    (hphase : x.phase = .waiting ticket) :
    Speaks ⟨x, s, .empty⟩ (x.resume s ticket).1 (x.resume s ticket).2 := by
  unfold resume
  split
  · rename_i e hurl
    have hfail := fail_moves x s e (by simp [isRunning, hphase])
    simp only [dropHears, hphase] at hfail
    exact ⟨[], .nothing, hfail⟩
  · rename_i target hurl
    exact checkedOut_speaks hurl (.again ticket hphase rfl)

/-- A stream that is up carries the request. -/
theorem dialed_speaks {x : Exchange} {s : Shared} {r : Reservation} {transport : TransportId}
    {limit : Option Nat} (hphase : x.phase = .dialing r transport limit) :
    Speaks ⟨x, s, .empty⟩ (x.dialed s r transport).1 (x.dialed s r transport).2 :=
  .head (.establish hphase)
    (attempt_speaks x (s.fulfill r transport).2 r.target (s.fulfill r transport).1 (Or.inr rfl))

section Response

variable {l : Lease} {limit : Option Nat} {head : Head} {action : Option NextAction}
  {negotiator : Negotiator} {supply : Supply}

/-- A response that is refused ends the exchange. -/
private theorem reject_moves (hphase : x.phase = .sending l limit)
    (hanswer : (s.inbox l).answer = some (.head head))
    (hjudged : x.judged s l head = (action, negotiator, supply)) (hhop : x.hop? head = none)
    (e : Error) (url : Url) :
    let z := { x with pending := none, negotiator := negotiator }.reject
      { s with supply := supply } head (l.afterHead head) e url
    Moves ⟨x, s, .empty⟩ [x.headNote s l head] ⟨z.1, z.2, .empty⟩ := by
  intro z
  exact .head (.reject hphase hanswer hjudged hhop) (.head .close (fail_moves _ _ _ rfl))

/-- A final response ends the exchange. -/
private theorem answer_moves (hphase : x.phase = .sending l limit)
    (hanswer : (s.inbox l).answer = some (.head head))
    (hjudged : x.judged s l head = (action, negotiator, supply)) (hhop : x.hop? head = none) :
    let z := { x with pending := none, negotiator := negotiator }.answer
      { s with supply := supply } head (l.afterHead head)
    Moves ⟨x, s, .empty⟩ [x.headNote s l head] ⟨z.1, z.2, .empty⟩ := by
  exact .single (.answer hphase hanswer hjudged rfl hhop)

/-- A redirect is followed, is the final response, or is refused. -/
private theorem onRedirect_moves (hphase : x.phase = .sending l limit)
    (hanswer : (s.inbox l).answer = some (.head head))
    (hjudged : x.judged s l head = (action, negotiator, supply))
    (hstatus : Redirect.isRedirectStatus head.status = true) {location : HeaderValue}
    (hlocation : head.headers.first? "location" = some location) :
    let z := { x with pending := none, negotiator := negotiator }.onRedirect
      { s with supply := supply } head (l.afterHead head) location
    Moves ⟨x, s, .empty⟩ [x.headNote s l head] ⟨z.1, z.2, .empty⟩ := by
  intro z
  have hhop : x.hop? head = _ := Redirect.hop?_of_location x hstatus hlocation
  have hurl : { x with pending := none, negotiator := negotiator }.redirectUrl location =
      x.redirectUrl location := rfl
  simp only [z, onRedirect, hurl]
  cases hnext : x.redirectUrl location with
  | error cause =>
    rw [hnext] at hhop
    exact reject_moves hphase hanswer hjudged hhop _ _
  | ok next =>
    simp only [hnext, Except.toOption, Option.bind_some] at hhop
    by_cases hhttp : next.isHttp = true
    · simp only [hhttp, Bool.not_true, Bool.false_eq_true, if_false]
      cases hcheck : x.policy.check head.status next (x.history ++ [x.url]) with
      | follow =>
        simp only [hhttp, hcheck, decide_true, Bool.and_self, if_true] at hhop
        exact .single (.follow _ hphase hanswer hjudged hstatus hhttp hcheck rfl hhop)
      | stop =>
        simp only [hhttp, hcheck, reduceCtorEq, decide_false, Bool.and_false, Bool.false_eq_true,
          if_false] at hhop
        exact answer_moves hphase hanswer hjudged hhop
      | fail cause =>
        simp only [hhttp, hcheck, reduceCtorEq, decide_false, Bool.and_false, Bool.false_eq_true,
          if_false] at hhop
        exact reject_moves hphase hanswer hjudged hhop _ _
    · simp only [hhttp, Bool.false_and, Bool.false_eq_true, if_false] at hhop
      simp only [hhttp, Bool.not_false, if_true]
      exact reject_moves hphase hanswer hjudged hhop _ _

/-- A head that is no challenge is followed or ends the exchange. -/
private theorem proceed_moves (hphase : x.phase = .sending l limit)
    (hanswer : (s.inbox l).answer = some (.head head))
    (hjudged : x.judged s l head = (action, negotiator, supply)) :
    let y := { x with pending := none, negotiator := negotiator }
    let t := { s with supply := supply }
    let z := match head.headers.first? "location" with
      | some location =>
        if Redirect.isRedirectStatus head.status && y.policy.isFollow then
          y.onRedirect t head (l.afterHead head) location
        else y.answer t head (l.afterHead head)
      | none => y.answer t head (l.afterHead head)
    Moves ⟨x, s, .empty⟩ [x.headNote s l head] ⟨z.1, z.2, .empty⟩ := by
  intro y t z
  simp only [z]
  split
  · rename_i location hlocation
    split
    · rename_i hfollow
      exact onRedirect_moves hphase hanswer hjudged (Bool.and_eq_true_iff.mp hfollow).1 hlocation
    · rename_i hunfollowed
      exact answer_moves hphase hanswer hjudged (Redirect.hop?_of_unfollowed hunfollowed)
  · rename_i hlocation
    exact answer_moves hphase hanswer hjudged (Redirect.hop?_of_unlocated hlocation)

/-- A challenge is answered or ends the exchange. -/
private theorem challenge_moves {realm : Realm} {reaction : NextAction}
    (hphase : x.phase = .sending l limit) (hanswer : (s.inbox l).answer = some (.head head))
    (hstatus : head.status = realm.target.challengeStatus)
    (hchallenge : x.negotiator.onChallenge
      (Challenge.ofValues (head.headers.values realm.target.challengeHeader)) realm
      (x.authRequest l.target) s.supply = (reaction, negotiator, supply))
    (hjudged : x.judged s l head = (some reaction, negotiator, supply)) :
    let z := { x with pending := none }.onChallenge s (l.afterHead head).target realm head
      (l.afterHead head)
    Moves ⟨x, s, .empty⟩ [x.headNote s l head] ⟨z.1, z.2, .empty⟩ := by
  intro z
  have hsame : { x with pending := none }.authRequest l.target = x.authRequest l.target := rfl
  have hhop : x.hop? head = none := Redirect.hop?_of_challenge hstatus
  simp only [z, onChallenge, Lease.target_afterHead, hsame, hchallenge]
  cases reaction with
  | retry header keepConnection =>
    rcases hbudget : x.authRetries.withdraw with ⟨granted, budget⟩
    cases granted with
    | true => exact .single (.challenge _ hphase hanswer hjudged hbudget)
    | false => exact reject_moves hphase hanswer hjudged hhop _ _
  | fail failure => exact reject_moves hphase hanswer hjudged hhop _ _
  | done => exact answer_moves hphase hanswer hjudged hhop

/-- A head is answered, followed or final, or it ends the exchange with an error. -/
theorem headArrived_moves (hphase : x.phase = .sending l limit)
    (hanswer : (s.inbox l).answer = some (.head head)) :
    Moves ⟨x, s, .empty⟩ [x.headNote s l head]
      ⟨(x.headArrived s head l).1, (x.headArrived s head l).2, .empty⟩ := by
  cases hrealm : x.realm with
  | none =>
    have hjudged : x.judged s l head = (none, x.negotiator, s.supply) := by
      simp only [judged, hrealm]
    have hmoves := proceed_moves hphase hanswer hjudged
    simp only [hrealm, Lease.afterHead] at hmoves
    simp only [headArrived, onHead, hrealm]
    exact hmoves
  | some realm =>
    by_cases hstatus : head.status = realm.target.challengeStatus
    · rcases hchallenge : x.negotiator.onChallenge
        (Challenge.ofValues (head.headers.values realm.target.challengeHeader)) realm
        (x.authRequest l.target) s.supply with ⟨reaction, state, supply⟩
      have hjudged : x.judged s l head = (some reaction, state, supply) := by
        simp only [judged, hrealm, hstatus, if_true, hchallenge]
      have hmoves := challenge_moves hphase hanswer hstatus hchallenge hjudged
      simp only [hrealm, Lease.afterHead] at hmoves
      simp only [headArrived, onHead, hrealm, hstatus, if_true]
      exact hmoves
    · have hjudged : x.judged s l head = (none, x.negotiator.onSuccess, s.supply) := by
        simp only [judged, hrealm, hstatus, if_false]
      have hmoves := proceed_moves hphase hanswer hjudged
      simp only [hrealm, Lease.afterHead] at hmoves
      simp only [headArrived, onHead, hrealm, hstatus, if_false]
      exact hmoves

end Response

/-- After a body was read to its end its connection is kept or goes back. -/
private theorem rested_moves (x : Exchange) (s : Shared) (l : Lease) (after : AfterDrain) :
    Moves ⟨x.turned l after, s, .rested l after.keeps⟩ []
      ⟨(x.drained s l true after).1, (x.drained s l true after).2, .empty⟩ := by
  cases after with
  | answer header keepConnection =>
    simp only [drained, Bool.true_and, if_true]
    split
    · rename_i hkeep
      obtain ⟨rfl, hpoolable⟩ := Bool.and_eq_true_iff.mp hkeep
      exact .single (.keep rfl rfl hpoolable)
    · rename_i hkeep
      refine .single (.store fun hwanted => ?_)
      cases hwanted
      simpa using hkeep
  | follow next => exact .single (.store fun hwanted => absurd hwanted Bool.false_ne_true)

/-- After a body was given up its connection is closed. -/
private theorem spent_moves (x : Exchange) (s : Shared) (l : Lease) (after : AfterDrain) :
    Moves ⟨x.turned l after, s, .spent l⟩ []
      ⟨(x.drained s l false after).1, (x.drained s l false after).2, .empty⟩ := by
  cases after with
  | answer header keepConnection => exact .single .close
  | follow next => exact .single .close

/-- A body that is dropped is read on, to its end or until it is given up. -/
private theorem drainStep_moves {l : Lease} {read : Nat} {limit : Option Nat} {after : AfterDrain}
    (hphase : x.phase = .draining l read limit after)
    (heq : x.drainStep s l read limit after = some (y, t)) :
    Moves ⟨x, s, .empty⟩
      [match (s.inbox l).read.1 with
        | some item => .skipped l item
        | none => .broke l] ⟨y, t, .empty⟩ := by
  rcases hread : (s.inbox l).read with ⟨item, inbox⟩
  simp only [drainStep, hread] at heq ⊢
  rcases item with _ | (⟨bytes, isLast⟩ | ending)
  · simp only [Option.ite_none_right_eq_some, Option.some.injEq] at heq
    obtain ⟨-, heq⟩ := heq
    obtain ⟨rfl, rfl⟩ := Prod.mk.injEq .. ▸ heq
    exact .head (.tire hphase) (spent_moves x s l after)
  · by_cases hmuch : maxDrain < read + bytes.length
    · simp only [hmuch, if_true, Option.some.injEq] at heq
      obtain ⟨rfl, rfl⟩ := Prod.mk.injEq .. ▸ heq
      exact .head (.spill hphase hread (by simpa [isTooMuch] using hmuch))
        (spent_moves x s l after)
    · simp only [hmuch, if_false, Option.some.injEq, Prod.mk.injEq] at heq
      obtain ⟨rfl, rfl⟩ := heq
      exact .single (.skim hphase hread (Nat.le_of_not_lt hmuch))
  · simp only [Option.some.injEq] at heq
    cases ending with
    | complete =>
      obtain ⟨rfl, rfl⟩ := Prod.mk.injEq .. ▸ heq
      exact .head (.rest hphase hread) (rested_moves x s l after)
    | broken =>
      obtain ⟨rfl, rfl⟩ := Prod.mk.injEq .. ▸ heq
      exact .head (.spill hphase hread rfl) (spent_moves x s l after)

/-- A request that failed without a response is sent again, or the exchange ends. -/
private theorem sendFailed_moves {l : Lease} {limit : Option Nat}
    (hphase : x.phase = .sending l limit) (e : Error) :
    ∃ notes, Says (x.sendFailed s l e).1 notes ∧
      Moves ⟨x, s, .empty⟩ ([.broke l] ++ notes)
        ⟨(x.sendFailed s l e).1, (x.sendFailed s l e).2, .empty⟩ := by
  obtain ⟨notes, hsaid, hmoves⟩ :=
    retryOrFail_speaks x (s.discard l) (e.withUrl x.url) l.reused
  exact ⟨notes, hsaid, .head (.lose hphase) (.head .close hmoves)⟩

/-- A step that is not cut short is a chain of moves. -/
private theorem proceed_hears (hcut : x.isCut s = false) (hstep : x.step s = some (y, t))
    (heq : x.proceed s = some (y, t)) :
    ∃ notes, Says y notes ∧ Moves ⟨x, s, .empty⟩ (x.hears s ++ notes) ⟨y, t, .empty⟩ := by
  have hsome : (x.step s).isNone = false := by rw [hstep]; rfl
  have hmute : x.phase.isQuiet = true → x.hears s = [] := by
    intro hquiet
    unfold hears
    rw [hsome]
    cases hphase : x.phase with
    | sending l limit => simp [Phase.isQuiet, hphase] at hquiet
    | draining l read limit after => simp [Phase.isQuiet, hphase] at hquiet
    | _ => rfl
  cases hphase : x.phase with
  | resting =>
    have hspeaks := begin_speaks (s := s) hphase
    rw [hmute (by rw [hphase]; rfl)]
    simp only [proceed, hphase, Option.some.injEq] at heq
    rwa [heq] at hspeaks
  | waiting ticket =>
    have hspeaks := resume_speaks (s := s) hphase
    rw [hmute (by rw [hphase]; rfl)]
    simp only [proceed, hphase, Option.ite_none_right_eq_some, Option.some.injEq] at heq
    rwa [heq.2] at hspeaks
  | dialing r transport limit =>
    have hgone : ∀ e, Speaks ⟨x, s, .empty⟩
        (x.retryOrFail ((s.abandon r).hangUp transport) e false).1
        (x.retryOrFail ((s.abandon r).hangUp transport) e false).2 := fun e =>
      .head (.abandon hphase) (retryOrFail_speaks x _ e false)
    rw [hmute (by rw [hphase]; rfl)]
    simp only [proceed, hphase] at heq
    split at heq
    · have hspeaks := dialed_speaks (s := s) hphase
      rw [Option.some.injEq] at heq
      rwa [heq] at hspeaks
    · rename_i chain _
      have hspeaks := hgone (.ofChain .connect chain)
      rw [Option.some.injEq] at heq
      rwa [heq] at hspeaks
    · have hspeaks := hgone (.of .connect .timedOut)
      rw [Option.ite_none_right_eq_some, Option.some.injEq] at heq
      rwa [heq.2] at hspeaks
  | sending l limit =>
    simp only [hears, hsome, hphase, hcut, Bool.false_eq_true, if_false]
    simp only [proceed, hphase] at heq
    split at heq
    · rename_i head hanswer
      have hmoves := headArrived_moves hphase hanswer
      rw [Option.some.injEq] at heq
      rw [heq] at hmoves
      simp only [hanswer]
      exact ⟨[], .nothing, hmoves⟩
    · rename_i fault chain hanswer
      have hmoves := sendFailed_moves (s := s) hphase (faultError fault chain)
      rw [Option.some.injEq] at heq
      rw [heq] at hmoves
      simpa only [hanswer] using hmoves
    · rename_i hanswer
      have hmoves := sendFailed_moves (s := s) hphase (.of .request .timedOut)
      rw [Option.ite_none_right_eq_some, Option.some.injEq] at heq
      rw [heq.2] at hmoves
      simpa only [hanswer] using hmoves
  | draining l read limit after =>
    simp only [proceed, hphase] at heq
    have hmoves := drainStep_moves hphase heq
    refine ⟨[], .nothing, ?_⟩
    simp only [hears, hsome, hphase, hcut, Bool.false_eq_true, if_false, List.append_nil]
    cases hread : (s.inbox l).read.1 with
    | none => simpa only [hread] using hmoves
    | some item => simpa only [hread] using hmoves
  | answered head body => simp [proceed, hphase] at heq
  | failed e => simp [proceed, hphase] at heq
  | dropped => simp [proceed, hphase] at heq

/-- Every step of an exchange is a chain of moves. It notes what the step hears, and then what the
exchange says. -/
theorem step_moves (hstep : x.step s = some (y, t)) :
    ∃ notes, Says y notes ∧ Moves ⟨x, s, .empty⟩ (x.hears s ++ notes) ⟨y, t, .empty⟩ := by
  have hrunning := running_of_step hstep
  by_cases hcut : x.isCut s = true
  · have hcase := hstep
    rw [step_of_cut hrunning hcut] at hcase
    have hmoves := fail_moves x s (x.cutError s) hrunning
    rw [Option.some.inj hcase] at hmoves
    refine ⟨[], .nothing, ?_⟩
    have hhears : x.hears s = x.dropHears := by
      unfold hears dropHears
      rw [hstep]
      cases x.phase <;> simp [hcut]
    rwa [hhears, List.append_nil]
  · rw [Bool.not_eq_true] at hcut
    exact proceed_hears hcut hstep ((step_of_uncut hrunning hcut).symm.trans hstep)

/-- Every step of the pump of a body is a chain of moves, and notes what it hears. -/
theorem pumpStep_moves (hstep : x.pumpStep s = some (y, t)) :
    Moves ⟨x, s, .empty⟩ (x.pumpHears s) ⟨y, t, .empty⟩ := by
  unfold pumpStep at hstep
  split at hstep
  · rename_i head body hphase
    dsimp only at hstep
    split at hstep
    · cases hstep
    · rename_i next effect inbox hpump
      simp only [Option.some.injEq, Prod.mk.injEq] at hstep
      obtain ⟨rfl, rfl⟩ := hstep
      have hmove := Move.pump hphase hpump
      rw [← List.append_nil (x.pumpHears s)]
      refine .head hmove ?_
      cases effect with
      | keep => exact .refl
      | release l => exact .single (.store fun hwanted => absurd hwanted Bool.false_ne_true)
      | discard l => exact .single .close
  · cases hstep

/-- Every step of a delivery is a move that notes nothing. -/
theorem deliverStep_moves (s : Shared) (hstep : x.deliverStep = some y) :
    Moves ⟨x, s, .empty⟩ [] ⟨y, s, .empty⟩ := by
  unfold deliverStep at hstep
  split at hstep
  · rename_i head body delivery hphase hdelivery
    obtain ⟨⟨after, next⟩, hnext, rfl⟩ := Option.map_eq_some_iff.mp hstep
    exact .single (.touch next (some after) hphase (Delivery.lease_step hnext))
  · cases hstep

/-- Losing interest is a chain of moves, and notes what breaks off. -/
theorem drop_moves (x : Exchange) (s : Shared) :
    Moves ⟨x, s, .empty⟩ x.dropHears ⟨(x.drop s).1, (x.drop s).2, .empty⟩ := by
  unfold drop
  split
  · rename_i hrunning
    exact letGo_moves x s hrunning x.delivery (Or.inl rfl)
  · rename_i hended
    have hhush := Moves.single (.hush (s := s) (x := x) (x.delivery.map Delivery.finish))
    cases hphase : x.phase with
    | answered head body =>
      simp only [updateBody, dropHears, hphase]
      exact .single (.touch body.drop _ hphase (Body.lease_drop body))
    | failed e =>
      simp only [updateBody, dropHears, hphase]
      rwa [hphase] at hhush
    | dropped =>
      simp only [updateBody, dropHears, hphase]
      rwa [hphase] at hhush
    | _ => simp [isRunning, hphase] at hended

/-- Changing a body is a move where its connection stays. -/
theorem updateBody_moves (x : Exchange) (s : Shared) (f : Body → Body)
    (hlease : ∀ b, x.body? = some b → (f b).lease = b.lease) :
    Moves ⟨x, s, .empty⟩ [] ⟨x.updateBody f, s, .empty⟩ := by
  cases hphase : x.phase with
  | answered head body =>
    simp only [updateBody, hphase]
    exact .single (.touch (f body) x.delivery hphase (hlease body (by simp [body?, hphase])))
  | _ =>
    simp only [updateBody, hphase]
    exact .refl

end Exchange

end HttpClient
