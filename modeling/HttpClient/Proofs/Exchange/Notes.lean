import HttpClient.Exchange.Step

/-!
# Notes on streams

What happens on the client's streams is noted: a stream is dialed, a request goes out on it, a
head is heard, an item of a body is read, and a request breaks off. What a step of an exchange
hears is determined by the state before it; what it says is among its actions.
-/

namespace HttpClient

/-- Something that happens on a stream. -/
inductive Note
  | dial (transport : TransportId) (target : Target)
  /-- A request goes out, after which the exchange stands as given. -/
  | sent (transport : TransportId) (message : Message) (after : Exchange)
  /-- A head arrives for a request of a realm: what a challenge in it is answered with, and the
  negotiator state that it leads to. -/
  | heard (lease : Lease) (head : Head) (realm : Option Realm) (answer : Option HeaderValue)
    (state : Negotiator)
  /-- An item of a body is read and dropped. -/
  | skipped (lease : Lease) (item : BodyItem)
  /-- An item of a body is read for a reader. -/
  | streamed (lease : Lease) (item : BodyItem)
  /-- The request in flight fails, is given up or is too late. -/
  | broke (lease : Lease)

/-- The stream that a note is about. -/
def Note.transport : Note → TransportId
  | dial transport _ => transport
  | sent transport _ _ => transport
  | heard lease _ _ _ _ => lease.transport
  | skipped lease _ => lease.transport
  | streamed lease _ => lease.transport
  | broke lease => lease.transport

/-- What a note says is done outside. -/
def Note.action? : Note → Option Action
  | dial transport target => some (.dial transport target)
  | sent transport message _ => some (.send transport message)
  | _ => none

/-- True for what opens a stream or writes on it. -/
def Action.isSaid : Action → Bool
  | .hangUp _ => false
  | _ => true

/-- What an action says, for an exchange that stands as given afterwards. -/
def Action.note? (after : Exchange) : Action → Option Note
  | .dial transport target => some (.dial transport target)
  | .send transport message => some (.sent transport message after)
  | .hangUp _ => none

/-- What a challenge is answered with. -/
def NextAction.header? : NextAction → Option HeaderValue
  | .retry header _ => some header
  | _ => none

/-- The item that a step of the pump reads. -/
def Body.found? (b : Body) (now : Nat) (tokenCanceled : Bool) (inbox : Inbox) : Option BodyItem :=
  match b.phase with
  | .reading _ =>
    if b.demand.isCanceled || tokenCanceled || isOver b.deadline now then none else inbox.read.1
  | _ => none

namespace Exchange

/-- True when the next step of an exchange ends it before anything else. -/
def isCut (x : Exchange) (s : Shared) : Bool := s.isCanceled x.token || isOver x.deadline s.now

section Cuts

variable {x : Exchange} {s : Shared}

/-- Only an exchange that goes on has a step. -/
theorem running_of_step {y : Exchange} {t : Shared} (hstep : x.step s = some (y, t)) :
    x.isRunning = true := by
  cases hrunning : x.isRunning with
  | true => rfl
  | false => simp [step, hrunning] at hstep

/-- A step that is not cut short goes on with what the exchange was at. -/
theorem step_of_uncut (hrunning : x.isRunning = true) (hcut : x.isCut s = false) :
    x.step s = x.proceed s := by
  rw [isCut, Bool.or_eq_false_iff] at hcut
  simp only [step, hrunning, hcut.1, hcut.2, Bool.not_true, Bool.false_eq_true, if_false]

/-- What ends an exchange that is cut short. -/
def cutError (x : Exchange) (s : Shared) : Error :=
  (if s.isCanceled x.token then Error.canceled else Error.timeout).withUrl x.start

/-- A step that is cut short ends the exchange with an error about the URL that it began with. -/
theorem step_of_cut (hrunning : x.isRunning = true) (hcut : x.isCut s = true) :
    x.step s = some (x.fail s (x.cutError s)) := by
  by_cases hcanceled : s.isCanceled x.token = true
  · simp only [step, cutError, hrunning, hcanceled, Bool.not_true, Bool.false_eq_true, if_false,
      if_true]
  · have hlate : isOver x.deadline s.now = true := by
      rw [isCut, Bool.or_eq_true] at hcut
      exact hcut.resolve_left hcanceled
    simp only [step, cutError, hrunning, hcanceled, hlate, Bool.not_true, Bool.false_eq_true,
      if_false, if_true]

end Cuts

/-- What a head means for the negotiator: the reaction to a challenge, and the next state. -/
def judged (x : Exchange) (s : Shared) (l : Lease) (head : Head) :
    Option NextAction × Negotiator × Supply :=
  match x.realm with
  | none => (none, x.negotiator, s.supply)
  | some realm =>
    if head.status = realm.target.challengeStatus then
      let challenges := Challenge.ofValues (head.headers.values realm.target.challengeHeader)
      let (action, negotiator, supply) :=
        x.negotiator.onChallenge challenges realm (x.authRequest l.target) s.supply
      (some action, negotiator, supply)
    else (none, x.negotiator.onSuccess, s.supply)

/-- The note of a head. -/
def headNote (x : Exchange) (s : Shared) (l : Lease) (head : Head) : Note :=
  .heard l head x.realm ((x.judged s l head).1.bind NextAction.header?) (x.judged s l head).2.1

/-- What the next step of an exchange hears. -/
def hears (x : Exchange) (s : Shared) : List Note :=
  if (x.step s).isNone then []
  else
    match x.phase with
    | .sending l _ =>
      if x.isCut s then [.broke l]
      else
        match (s.inbox l).answer with
        | some (.head head) => [x.headNote s l head]
        | _ => [.broke l]
    | .draining l _ _ _ =>
      if x.isCut s then [.broke l]
      else
        match (s.inbox l).read.1 with
        | some item => [.skipped l item]
        | none => [.broke l]
    | _ => []

/-- What the next step of the pump hears. -/
def pumpHears (x : Exchange) (s : Shared) : List Note :=
  match x.phase with
  | .answered _ body =>
    match body.lease with
    | none => []
    | some l =>
      match body.pump s.now (s.isCanceled body.token) (s.inbox l) with
      | none => []
      | some ((_, effect), _) =>
        match body.found? s.now (s.isCanceled body.token) (s.inbox l) with
        | some item => [.streamed l item]
        | none => if effect = .discard l then [.broke l] else []
  | _ => []

/-- What breaks off when nobody is interested in an exchange any more. -/
def dropHears (x : Exchange) : List Note :=
  match x.phase with
  | .sending l _ | .draining l _ _ _ => [.broke l]
  | _ => []

end Exchange

end HttpClient
