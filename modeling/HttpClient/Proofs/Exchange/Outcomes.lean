import HttpClient.Proofs.Body.Events
import HttpClient.Proofs.Exchange.Frames
import HttpClient.Proofs.Exchange.Places

/-!
# What a step makes of an exchange

Seen from its budgets and from the redirects it follows, a step of an exchange is one of few things:
an attempt begins or goes on, is repeated at the cost of a retry, or fails; a response is the final
one, an error, or a challenge that is answered at the cost of a retry of its own; a redirect that
was heard is followed, left to the caller or refused, as the policy says; and the body of a response
that is not final is read and dropped.
-/

namespace HttpClient

/-- True while an attempt is under way. -/
def Phase.isUnderWay : Phase → Bool
  | waiting _ | dialing _ _ _ | sending _ _ => true
  | _ => false

/-- A head that sends on from a URL to the next one. -/
structure Head.SendsOn (head : Head) (url next : Url) : Prop where
  status : head.status ∈ [301, 302, 303, 307, 308]
  location : ∃ value text, head.headers.first? "location" = some value ∧
    value.text? = some text ∧ url.join text = .ok next
  scheme : next.scheme = "http" ∨ next.scheme = "https"

/-- Where an exchange is on its way: its URLs, its policy and its budgets. -/
structure Course where
  url : Url
  history : List Url
  policy : RedirectPolicy
  retries : Retry.Budget
  authRetries : Retry.Budget

/-- The course after the body of a response was read or given up. -/
def Course.turn (c : Course) : AfterDrain → Course
  | .answer _ _ => c
  | .follow next => { c with history := c.history ++ [c.url], url := next }

namespace Exchange

/-- Where an exchange is on its way. -/
def course (x : Exchange) : Course := ⟨x.url, x.history, x.policy, x.retries, x.authRetries⟩

/-- The URL of a redirect that can be followed. -/
def redirectTo? (x : Exchange) (head : Head) : Option Url :=
  if Redirect.isRedirectStatus head.status then
    match head.headers.first? "location" with
    | some location =>
      match x.redirectUrl location with
      | .ok next => if next.isHttp then some next else none
      | .error _ => none
    | none => none
  else none

/-- The redirect that the next step of an exchange hears. -/
def redirect? (x : Exchange) (s : Shared) : Option (Head × Url) :=
  match x.phase with
  | .sending l _ =>
    if x.isCut s then none
    else
      match (s.inbox l).answer with
      | some (.head head) => (x.redirectTo? head).map (Prod.mk head)
      | _ => none
  | _ => none

/-- The URL of a redirect is joined from its location. -/
theorem redirectUrl_eq_ok_iff {x : Exchange} {location : HeaderValue} {next : Url} :
    x.redirectUrl location = .ok next ↔
      ∃ text, location.text? = some text ∧ x.url.join text = .ok next := by
  have hjoined : ∀ joined : Except UrlError Url,
      joined.mapError Cause.badUrl = .ok next ↔ joined = .ok next := by
    rintro (reason | found)
    · exact ⟨nofun, nofun⟩
    · exact ⟨fun h => congrArg _ (Except.ok.inj h), fun h => congrArg _ (Except.ok.inj h)⟩
  unfold redirectUrl
  cases htext : location.text? with
  | none => simp
  | some text => simp [hjoined]

/-- A redirect can be followed where its head sends on. -/
theorem redirectTo?_eq_some_iff {x : Exchange} {head : Head} {next : Url} :
    x.redirectTo? head = some next ↔ head.SendsOn x.url next := by
  have hscheme : next.isHttp = true ↔ next.scheme = "http" ∨ next.scheme = "https" := by
    rw [Url.isHttp, Bool.or_eq_true, beq_iff_eq, beq_iff_eq]
  unfold redirectTo?
  rw [Option.ite_none_right_eq_some, Redirect.isRedirectStatus_iff]
  constructor
  · rintro ⟨hstatus, hsome⟩
    cases hlocation : head.headers.first? "location" with
    | none => simp [hlocation] at hsome
    | some value =>
      cases hurl : x.redirectUrl value with
      | error cause => simp [hlocation, hurl] at hsome
      | ok found =>
        simp only [hlocation, hurl, Option.ite_none_right_eq_some, Option.some.injEq] at hsome
        obtain ⟨hhttp, rfl⟩ := hsome
        obtain ⟨text, htext, hjoin⟩ := redirectUrl_eq_ok_iff.mp hurl
        exact ⟨hstatus, ⟨value, text, hlocation, htext, hjoin⟩, hscheme.mp hhttp⟩
  · rintro ⟨hstatus, ⟨value, text, hlocation, htext, hjoin⟩, hhttp⟩
    have hurl : x.redirectUrl value = .ok next := redirectUrl_eq_ok_iff.mpr ⟨text, htext, hjoin⟩
    simp only [hlocation, hurl, hscheme.mpr hhttp, if_true]
    exact ⟨hstatus, trivial⟩

/-- The redirect that a step hears is in the head that answers the request. -/
theorem redirect?_eq_some_iff {x : Exchange} {s : Shared} {head : Head} {next : Url} :
    x.redirect? s = some (head, next) ↔ x.isCut s = false ∧
      (∃ l limit, x.phase = .sending l limit ∧ (s.inbox l).answer = some (.head head)) ∧
        head.SendsOn x.url next := by
  rw [← redirectTo?_eq_some_iff]
  unfold redirect?
  constructor
  · intro hsome
    split at hsome
    · rename_i l limit hphase
      obtain ⟨hcut, hsome⟩ := Option.ite_none_left_eq_some.mp hsome
      rw [Bool.not_eq_true] at hcut
      split at hsome
      · rename_i found hanswer
        obtain ⟨url, hurl, heq⟩ := Option.map_eq_some_iff.mp hsome
        obtain ⟨rfl, rfl⟩ := Prod.mk.inj heq
        exact ⟨hcut, ⟨l, limit, hphase, hanswer⟩, hurl⟩
      · cases hsome
    · cases hsome
  · rintro ⟨hcut, ⟨l, limit, hphase, hanswer⟩, hurl⟩
    simp only [hphase, hcut, hanswer, hurl, Bool.false_eq_true, if_false, Option.map_some]

/-- What becomes of an attempt. -/
inductive Tried (c : Course) (y : Exchange) : Prop
  | pursue (hcourse : y.course = c) (hphase : y.phase.isUnderWay = true)
  | retry {budget} (hspent : c.retries.withdraw = (true, budget))
    (hcourse : y.course = { c with retries := budget }) (hphase : y.phase = .resting)
  | fail {e} (hcourse : y.course = c) (hphase : y.phase = .failed e)

/-- What becomes of a response that is no redirect, or not one that can be followed. -/
inductive Reaction (c : Course) (y : Exchange) : Prop
  | challenge {budget l limit header keep} (hspent : c.authRetries.withdraw = (true, budget))
    (hcourse : y.course = { c with authRetries := budget })
    (hphase : y.phase = .draining l 0 limit (.answer header keep))
  | answer {head body} (hcourse : y.course = c) (hphase : y.phase = .answered head body)
    (hfresh : body.fresh = body)
  | reject {e} (hcourse : y.course = c) (hphase : y.phase = .failed e)

/-- What becomes of a redirect, as the policy decides. -/
def Heeds (c : Course) (head : Head) (next : Url) (action : RedirectAction) (y : Exchange) : Prop :=
  y.course = c ∧
    match action with
    | .follow => ∃ l limit, y.phase = .draining l 0 limit (.follow next)
    | .stop => ∃ body, y.phase = .answered { toHead := head, url := c.url } body ∧
        body.fresh = body
    | .fail cause =>
      y.phase = .failed (((Error.of .redirect cause).withStatus head.status).withUrl next)

/-- What a step that hears no redirect makes of an exchange. -/
inductive Outcome (x y : Exchange) : Prop
  | attempt (hphase : x.phase = .resting ∨ x.phase.isUnderWay = true) (htried : Tried x.course y)
  | react {l limit} (hphase : x.phase = .sending l limit) (hreaction : Reaction x.course y)
  /-- More of a body is dropped. -/
  | skim {l read more limit after} (hphase : x.phase = .draining l read limit after)
    (hcourse : y.course = x.course) (hnext : y.phase = .draining l more limit after)
  | turn {l read limit after} (hphase : x.phase = .draining l read limit after)
    (hcourse : y.course = x.course.turn after) (hnext : y.phase = .resting)
  /-- The request is canceled, or its time is over. -/
  | cut {e} (hrunning : x.isRunning = true) (hcourse : y.course = x.course)
    (hnext : y.phase = .failed e)

section Attempts

variable {x y : Exchange} {s t : Shared} {target : Target} {l : Lease}

theorem tried_fail (x : Exchange) (s : Shared) (e : Error) : Tried x.course (x.fail s e).1 :=
  .fail rfl rfl

/-- After an error an attempt is repeated at the cost of a retry, or is the last. -/
theorem tried_retryOrFail (x : Exchange) (s : Shared) (e : Error) (reused : Bool) :
    Tried x.course (x.retryOrFail s e reused).1 := by
  unfold retryOrFail
  dsimp only
  split
  · rename_i hretry
    rw [Bool.and_eq_true] at hretry
    have hspent : x.course.retries.withdraw = (true, x.retries.withdraw.2) := Prod.ext hretry.2 rfl
    exact .retry hspent rfl rfl
  · exact .fail rfl rfl

theorem tried_attempt (x : Exchange) (s : Shared) (target : Target) (l : Lease) :
    Tried x.course (x.attempt s target l).1 := by
  unfold attempt
  rcases hbind : x.bind s l with ⟨y, t⟩
  rcases hcompose : y.compose t target with ⟨result, z, u⟩
  have hcourse : z.course = x.course := by
    rw [(attempt_frame hbind hcompose).1]
    rfl
  simp only [hcompose]
  cases result with
  | error e =>
    rw [← hcourse]
    exact tried_retryOrFail z _ e l.reused
  | ok message => exact .pursue hcourse rfl

theorem tried_checkedOut (x : Exchange) (s : Shared) (target : Target) (status : CheckoutStatus) :
    Tried x.course (x.checkedOut s target status).1 := by
  rcases status with (lease | r) | ticket | _
  · exact tried_attempt x s target lease
  · exact .pursue rfl rfl
  · exact .pursue rfl rfl
  · exact tried_retryOrFail x s _ false

theorem tried_connect (x : Exchange) (s : Shared) (target : Target) :
    Tried x.course (x.connect s target).1 := by
  unfold connect
  cases hheld : x.held with
  | none => exact tried_checkedOut x _ target _
  | some lease =>
    dsimp only
    split
    · split
      · exact tried_attempt { x with held := none } s target lease
      · exact tried_checkedOut { x with held := none } _ target _
    · exact tried_checkedOut { x with held := none } _ target _

theorem tried_begin (x : Exchange) (s : Shared) : Tried x.course (x.begin s).1 := by
  unfold begin
  split
  · exact tried_fail x s _
  · exact tried_connect x s _

theorem tried_resume (x : Exchange) (s : Shared) (ticket : Nat) :
    Tried x.course (x.resume s ticket).1 := by
  unfold resume
  split
  · exact tried_fail x s _
  · exact tried_checkedOut x _ _ _

theorem tried_dialed (x : Exchange) (s : Shared) (r : Reservation) (transport : TransportId) :
    Tried x.course (x.dialed s r transport).1 :=
  tried_attempt x _ r.target _

end Attempts

section Responses

variable {x : Exchange} {s : Shared} {target : Target} {l : Lease} {head : Head} {next : Url}

/-- What is done about a response that is no challenge. -/
def passOn (x : Exchange) (s : Shared) (head : Head) (l : Lease) : Exchange × Shared :=
  match head.headers.first? "location" with
  | some location =>
    if Redirect.isRedirectStatus head.status && x.policy.isFollow then
      x.onRedirect s head l location
    else x.answer s head l
  | none => x.answer s head l

/-- A response is a challenge, or it is passed on. -/
theorem onHead_cases (x : Exchange) (s : Shared) (target : Target) (head : Head) (l : Lease) :
    (∃ realm, head.status = realm.target.challengeStatus ∧
      x.onHead s target head l = x.onChallenge s target realm head l) ∨
    ∃ negotiator,
      x.onHead s target head l = passOn { x with negotiator := negotiator } s head l := by
  unfold onHead
  dsimp only
  split
  · rename_i realm hrealm
    by_cases hstatus : head.status = realm.target.challengeStatus
    · exact Or.inl ⟨realm, hstatus, if_pos hstatus⟩
    · exact Or.inr ⟨x.negotiator.onSuccess, if_neg hstatus⟩
  · exact Or.inr ⟨x.negotiator, rfl⟩

/-- A status that asks for credentials is no redirect. -/
theorem not_redirect_of_challenge {realm : Realm}
    (h : head.status = realm.target.challengeStatus) :
    Redirect.isRedirectStatus head.status = false := by
  rw [h]
  cases realm.target <;> decide

/-- A final response comes with a body to which nothing has happened. -/
theorem answer_fresh (x : Exchange) (s : Shared) (head : Head) (l : Lease) :
    (x.answer s head l).1.course = x.course ∧
      ∃ body, (x.answer s head l).1.phase = .answered { toHead := head, url := x.url } body ∧
        body.fresh = body := by
  unfold answer
  rcases hpark : x.park s l with ⟨y, t⟩
  have hy := (park_frame hpark).1
  have hurl : y.url = x.url := by rw [hy]
  have hcourse : y.course = x.course := by
    rw [hy]
    rfl
  refine ⟨hcourse, _,
    congrArg (fun url => Phase.answered { toHead := head, url := url } _) hurl, ?_⟩
  rfl

theorem reaction_answer {c : Course} (hcourse : x.course = c) :
    Reaction c (x.answer s head l).1 := by
  obtain ⟨hsame, body, hphase, hfresh⟩ := x.answer_fresh s head l
  exact .answer (hsame.trans hcourse) hphase hfresh

/-- A challenge is answered at the cost of a retry of its own, or ends the exchange. -/
theorem reaction_onChallenge (x : Exchange) (s : Shared) (target : Target) (realm : Realm)
    (head : Head) (l : Lease) : Reaction x.course (x.onChallenge s target realm head l).1 := by
  unfold onChallenge
  dsimp only
  split
  · split
    · rename_i hgranted
      have hspent : x.course.authRetries.withdraw = (true, x.authRetries.withdraw.2) :=
        Prod.ext hgranted rfl
      exact .challenge hspent rfl rfl
    · exact .reject rfl rfl
  · exact .reject rfl rfl
  · exact reaction_answer rfl

/-- A redirect that cannot be followed ends the exchange, where one would be followed. -/
theorem reaction_passOn (hnone : x.redirectTo? head = none) :
    Reaction x.course (x.passOn s head l).1 := by
  unfold passOn
  split
  · rename_i location hlocation
    split
    · rename_i hstatus
      rw [Bool.and_eq_true] at hstatus
      unfold redirectTo? at hnone
      rw [if_pos hstatus.1, hlocation] at hnone
      unfold onRedirect
      cases hnext : x.redirectUrl location with
      | error cause => exact .reject rfl rfl
      | ok next =>
        have hhttp : next.isHttp = false := by
          cases hscheme : next.isHttp with
          | false => rfl
          | true => simp [hnext, hscheme] at hnone
        simp only [hhttp, Bool.not_false, if_true]
        exact .reject rfl rfl
    · exact reaction_answer rfl
  · exact reaction_answer rfl

/-- Of a redirect that can be followed becomes what the policy decides. -/
theorem heeds_passOn (hsome : x.redirectTo? head = some next) :
    Heeds x.course head next (x.policy.check head.status next (x.history ++ [x.url]))
      (x.passOn s head l).1 := by
  unfold redirectTo? at hsome
  obtain ⟨hstatus, hsome⟩ := Option.ite_none_right_eq_some.mp hsome
  cases hlocation : head.headers.first? "location" with
  | none => simp [hlocation] at hsome
  | some location =>
    simp only [hlocation] at hsome
    cases hurl : x.redirectUrl location with
    | error cause => simp [hurl] at hsome
    | ok found =>
      simp only [hurl] at hsome
      obtain ⟨hhttp, hfound⟩ := Option.ite_none_right_eq_some.mp hsome
      obtain rfl := Option.some.inj hfound
      unfold passOn
      simp only [hlocation, hstatus, Bool.true_and]
      by_cases hfollow : x.policy.isFollow = true
      · rw [if_pos hfollow]
        unfold onRedirect
        simp only [hurl, hhttp, Bool.not_true, Bool.false_eq_true, if_false]
        cases x.policy.check head.status found (x.history ++ [x.url]) with
        | follow =>
          dsimp only
          rcases hpark : x.park s l with ⟨y, t⟩
          have hcourse : y.course = x.course := by
            rw [(park_frame hpark).1]
            rfl
          exact ⟨hcourse, l, _, rfl⟩
        | stop => exact x.answer_fresh s head l
        | fail cause => exact ⟨rfl, rfl⟩
      · -- Only the policy that leaves redirects to the caller does not follow.
        rw [if_neg hfollow]
        have hstop : x.policy.check head.status found (x.history ++ [x.url]) = .stop := by
          cases hpolicy : x.policy with
          | none => rfl
          | limited | custom =>
            rw [hpolicy] at hfollow
            exact absurd rfl hfollow
        rw [hstop]
        exact x.answer_fresh s head l

/-- A head without a redirect that can be followed. -/
theorem reaction_headArrived (hnone : x.redirectTo? head = none) :
    Reaction x.course (x.headArrived s head l).1 := by
  unfold headArrived
  generalize (if head.wantsClose then l.unpoolable else l) = m
  rcases onHead_cases { x with pending := none } s m.target head m with
    ⟨realm, -, heq⟩ | ⟨negotiator, heq⟩
  · rw [heq]
    exact reaction_onChallenge { x with pending := none } s _ realm head m
  · rw [heq]
    exact reaction_passOn (x := { x with pending := none, negotiator := negotiator }) hnone

/-- A head with a redirect that can be followed. -/
theorem heeds_headArrived (hsome : x.redirectTo? head = some next) :
    Heeds x.course head next (x.policy.check head.status next (x.history ++ [x.url]))
      (x.headArrived s head l).1 := by
  unfold headArrived
  generalize (if head.wantsClose then l.unpoolable else l) = m
  rcases onHead_cases { x with pending := none } s m.target head m with
    ⟨realm, hstatus, -⟩ | ⟨negotiator, heq⟩
  · rw [redirectTo?, not_redirect_of_challenge hstatus] at hsome
    cases hsome
  · rw [heq]
    exact heeds_passOn (x := { x with pending := none, negotiator := negotiator }) hsome

end Responses

section Steps

variable {x y : Exchange} {s t : Shared} {head : Head} {next : Url}

/-- A step that hears a redirect does what the policy decides, which is asked about all URLs of the
exchange so far. -/
theorem step_of_redirect (hredirect : x.redirect? s = some (head, next)) :
    ∃ y t, x.step s = some (y, t) ∧
      Heeds x.course head next (x.policy.check head.status next (x.history ++ [x.url])) y := by
  unfold redirect? at hredirect
  split at hredirect
  · rename_i l limit hphase
    split at hredirect
    · cases hredirect
    · rename_i hcut
      rw [Bool.not_eq_true] at hcut
      split at hredirect
      · rename_i found hanswer
        obtain ⟨url, hurl, heq⟩ := Option.map_eq_some_iff.mp hredirect
        obtain ⟨rfl, rfl⟩ := Prod.mk.inj heq
        refine ⟨(x.headArrived s found l).1, (x.headArrived s found l).2, ?_,
          heeds_headArrived hurl⟩
        have hrunning : x.isRunning = true := by
          unfold isRunning
          rw [hphase]
        rw [step_of_uncut hrunning hcut]
        simp only [proceed, hphase, hanswer]
      · cases hredirect
  · cases hredirect

/-- After a body was read or given up the exchange rests, on the course that it takes then. -/
theorem drained_turn (x : Exchange) (s : Shared) (l : Lease) (whole : Bool) (after : AfterDrain) :
    (x.drained s l whole after).1.course = x.course.turn after ∧
      (x.drained s l whole after).1.phase = .resting := by
  unfold drained
  cases after with
  | answer header keepConnection =>
    dsimp only
    split
    · exact ⟨rfl, rfl⟩
    · split <;> exact ⟨rfl, rfl⟩
  | follow next => exact ⟨rfl, rfl⟩

/-- Where a body is dropped. -/
theorem outcome_drainStep {l : Lease} {read : Nat} {limit : Option Nat} {after : AfterDrain}
    (hphase : x.phase = .draining l read limit after)
    (hstep : x.drainStep s l read limit after = some (y, t)) : x.Outcome y := by
  have hdrained : ∀ whole : Bool, some (x.drained s l whole after) = some (y, t) → x.Outcome y := by
    intro whole heq
    have hturn := drained_turn x s l whole after
    rw [Option.some.inj heq] at hturn
    exact .turn hphase hturn.1 hturn.2
  unfold drainStep at hstep
  split at hstep
  · dsimp only at hstep
    split at hstep
    · exact hdrained false hstep
    · obtain ⟨rfl, -⟩ := Prod.mk.inj (Option.some.inj hstep)
      exact .skim hphase rfl rfl
  · exact hdrained _ hstep
  · obtain ⟨-, heq⟩ := Option.ite_none_right_eq_some.mp hstep
    exact hdrained false heq

/-- What an exchange that is not cut short makes of a step that hears no redirect. -/
theorem outcome_of_proceed (hcut : x.isCut s = false) (hstep : x.proceed s = some (y, t))
    (hnone : x.redirect? s = none) : x.Outcome y := by
  unfold proceed at hstep
  cases hphase : x.phase with
  | resting =>
    simp only [hphase] at hstep
    have htried := tried_begin x s
    rw [Option.some.inj hstep] at htried
    exact .attempt (Or.inl hphase) htried
  | waiting ticket =>
    simp only [hphase] at hstep
    obtain ⟨-, heq⟩ := Option.ite_none_right_eq_some.mp hstep
    have htried := tried_resume x s ticket
    rw [Option.some.inj heq] at htried
    exact .attempt (Or.inr (by rw [hphase]; rfl)) htried
  | dialing r transport limit =>
    have hunderWay : x.phase.isUnderWay = true := by rw [hphase]; rfl
    have hretried : ∀ (u : Shared) (e : Error),
        some (x.retryOrFail u e false) = some (y, t) → x.Outcome y := by
      intro u e heq
      have htried := tried_retryOrFail x u e false
      rw [Option.some.inj heq] at htried
      exact .attempt (Or.inr hunderWay) htried
    simp only [hphase] at hstep
    split at hstep
    · have htried := tried_dialed x s r transport
      rw [Option.some.inj hstep] at htried
      exact .attempt (Or.inr hunderWay) htried
    · exact hretried _ _ hstep
    · obtain ⟨-, heq⟩ := Option.ite_none_right_eq_some.mp hstep
      exact hretried _ _ heq
  | sending l limit =>
    have hunderWay : x.phase.isUnderWay = true := by rw [hphase]; rfl
    have hlost : ∀ e : Error, some (x.sendFailed s l e) = some (y, t) → x.Outcome y := by
      intro e heq
      have htried := tried_retryOrFail x (s.discard l) (e.withUrl x.url) l.reused
      rw [← sendFailed, Option.some.inj heq] at htried
      exact .attempt (Or.inr hunderWay) htried
    simp only [hphase] at hstep
    split at hstep
    · rename_i head hanswer
      have hother : x.redirectTo? head = none := by
        simpa only [redirect?, hphase, hcut, hanswer, Bool.false_eq_true, if_false,
          Option.map_eq_none_iff] using hnone
      have hreaction := reaction_headArrived (s := s) (l := l) hother
      rw [Option.some.inj hstep] at hreaction
      exact .react hphase hreaction
    · exact hlost _ hstep
    · obtain ⟨-, heq⟩ := Option.ite_none_right_eq_some.mp hstep
      exact hlost _ heq
  | draining l read limit after =>
    simp only [hphase] at hstep
    exact outcome_drainStep hphase hstep
  | answered | failed | dropped =>
    simp only [hphase] at hstep
    cases hstep

/-- What a step makes of an exchange that hears no redirect. -/
theorem outcome_of_step (hstep : x.step s = some (y, t)) (hnone : x.redirect? s = none) :
    x.Outcome y := by
  have hrunning := running_of_step hstep
  by_cases hcut : x.isCut s = true
  · rw [step_of_cut hrunning hcut] at hstep
    obtain ⟨rfl, -⟩ := Prod.mk.inj (Option.some.inj hstep)
    exact .cut hrunning rfl rfl
  · rw [Bool.not_eq_true] at hcut
    rw [step_of_uncut hrunning hcut] at hstep
    exact outcome_of_proceed hcut hstep hnone

/-- A body that an exchange has is one to which nothing has happened. -/
def IsUntouched (x : Exchange) : Prop := ∀ b, x.body? = some b → b.fresh = b

theorem untouched_of_none (hnone : y.body? = none) : y.IsUntouched :=
  fun _ hb => nomatch hnone.symm.trans hb

theorem untouched_of_answered {shown : ResponseHead} {b : Body}
    (hphase : y.phase = .answered shown b) (hfresh : b.fresh = b) : y.IsUntouched := by
  intro body hbody
  rw [body?, hphase] at hbody
  rwa [← Option.some.inj hbody]

theorem untouched_of_failed {e : Error} (hphase : y.phase = .failed e) : y.IsUntouched :=
  untouched_of_none (by rw [body?, hphase])

theorem untouched_of_draining {l : Lease} {read : Nat} {limit : Option Nat} {after : AfterDrain}
    (hphase : y.phase = .draining l read limit after) : y.IsUntouched :=
  untouched_of_none (by rw [body?, hphase])

theorem untouched_of_resting (hphase : y.phase = .resting) : y.IsUntouched :=
  untouched_of_none (by rw [body?, hphase])

theorem Tried.untouched {c : Course} (h : Tried c y) : y.IsUntouched := by
  cases h with
  | pursue hcourse hphase =>
    refine untouched_of_none ?_
    rw [body?]
    cases hnext : y.phase with
    | answered head b =>
      rw [hnext] at hphase
      cases hphase
    | _ => rfl
  | retry hspent hcourse hphase => exact untouched_of_resting hphase
  | fail hcourse hphase => exact untouched_of_failed hphase

theorem Reaction.untouched {c : Course} (h : Reaction c y) : y.IsUntouched := by
  cases h with
  | challenge hspent hcourse hphase => exact untouched_of_draining hphase
  | answer hcourse hphase hfresh => exact untouched_of_answered hphase hfresh
  | reject hcourse hphase => exact untouched_of_failed hphase

theorem Heeds.untouched {c : Course} {action : RedirectAction} (h : Heeds c head next action y) :
    y.IsUntouched := by
  cases action with
  | follow =>
    obtain ⟨-, l, limit, hphase⟩ := h
    exact untouched_of_draining hphase
  | stop =>
    obtain ⟨-, body, hphase, hfresh⟩ := h
    exact untouched_of_answered hphase hfresh
  | fail cause => exact untouched_of_failed h.2

theorem Outcome.untouched (h : x.Outcome y) : y.IsUntouched := by
  cases h with
  | attempt hphase htried => exact htried.untouched
  | react hphase hreaction => exact hreaction.untouched
  | skim hphase hcourse hnext => exact untouched_of_draining hnext
  | turn hphase hcourse hnext => exact untouched_of_resting hnext
  | cut hrunning hcourse hnext => exact untouched_of_failed hnext

/-- A step leads to no body, or to one to which nothing has happened. -/
theorem untouched_of_step (hstep : x.step s = some (y, t)) : y.IsUntouched := by
  cases hredirect : x.redirect? s with
  | none => exact (outcome_of_step hstep hredirect).untouched
  | some found =>
    obtain ⟨z, u, hz, hheeds⟩ := step_of_redirect hredirect
    obtain ⟨rfl, -⟩ := Prod.mk.inj (Option.some.inj (hz.symm.trans hstep))
    exact hheeds.untouched

end Steps

end Exchange

end HttpClient
