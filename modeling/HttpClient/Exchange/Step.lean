import HttpClient.Exchange.Attempt

/-!
# The steps of an exchange

What a response head means for a request: a challenge is answered, a redirect followed, and
everything else is the final response. Before another attempt the body of the response is read
and dropped, so that the connection can be used again. Cancellation and the deadline of the
whole request come before anything else.
-/

namespace HttpClient

/-- The longest body that is read only to keep a connection. -/
def maxDrain : Nat := 65536

namespace Exchange

/-- Parks the negotiator state for the connection. -/
def park (x : Exchange) (s : Shared) (l : Lease) : Exchange × Shared :=
  match x.realm with
  | some realm => ({ x with negotiator := .none }, s.park l realm x.negotiator)
  | none => (x, s)

/-- Ends with a final response, whose body goes on over the connection. -/
def answer (x : Exchange) (s : Shared) (head : Head) (l : Lease) : Exchange × Shared :=
  let (x, s) := x.park s l
  let body : Body := {
    url := x.url
    lease := some l
    readTimeout := s.settings.readTimeout
    deadline := x.deadline
    token := x.token }
  ({ x with phase := .answered { toHead := head, url := x.url } body }, s)

/-- Starts to read and drop the body of a response. -/
def drain (x : Exchange) (s : Shared) (l : Lease) (after : AfterDrain) : Exchange :=
  { x with phase := .draining l 0 (s.settings.readTimeout.map (s.now + ·)) after }

/-- Ends with an error about a response; its connection is closed. -/
def reject (x : Exchange) (s : Shared) (head : Head) (l : Lease) (e : Error) (url : Url) :
    Exchange × Shared :=
  fail { x with phase := .resting } (s.discard l) ((e.withStatus head.status).withUrl url)

/-- Answers the challenges of a response. -/
def onChallenge (x : Exchange) (s : Shared) (target : Target) (realm : Realm) (head : Head)
    (l : Lease) : Exchange × Shared :=
  let challenges := Challenge.ofValues (head.headers.values realm.target.challengeHeader)
  let (action, negotiator, supply) :=
    x.negotiator.onChallenge challenges realm (x.authRequest target) s.supply
  let x := { x with negotiator := negotiator }
  let s := { s with supply := supply }
  match action with
  | .retry header keepConnection =>
    let (granted, budget) := x.authRetries.withdraw
    if granted then (drain { x with authRetries := budget } s l (.answer header keepConnection), s)
    else x.reject s head l (.of .auth .authExhausted) x.url
  | .fail failure => x.reject s head l (authError failure) x.url
  | .done => x.answer s head l

/-- The URL that a redirect leads to. -/
def redirectUrl (x : Exchange) (location : HeaderValue) : Except Cause Url :=
  match location.text? with
  | none => .error .unreadableText
  | some text => (x.url.join text).mapError .badUrl

/-- Turns an exchange to the next URL: the content is adjusted, and another origin gets no
credentials. -/
def turnTo (x : Exchange) (s : Shared) (status : Status) (next : Url) : Exchange :=
  let content := Redirect.adjust status s.settings.strict302 x.content
  let headers := Redirect.dropSensitive content.headers next x.url
  let realm := if Redirect.isCrossHost next x.url then none else x.realm
  { x with content := { content with headers := headers }, realm := realm }

/-- Follows a redirect if the policy says so. -/
def onRedirect (x : Exchange) (s : Shared) (head : Head) (l : Lease) (location : HeaderValue) :
    Exchange × Shared :=
  match x.redirectUrl location with
  | .error cause => x.reject s head l (.of .redirect cause) x.url
  | .ok next =>
    if !next.isHttp then x.reject s head l (.of .redirect .badScheme) next
    else
      match x.policy.check head.status next (x.history ++ [x.url]) with
      | .follow =>
        let (x, s) := x.park s l
        ((x.turnTo s head.status next).drain s l (.follow next), s)
      | .stop => x.answer s head l
      | .fail cause => x.reject s head l (.of .redirect cause) next

/-- Decides what a response head means. -/
def onHead (x : Exchange) (s : Shared) (target : Target) (head : Head) (l : Lease) :
    Exchange × Shared :=
  let proceed := fun (x : Exchange) =>
    match head.headers.first? "location" with
    | some location =>
      if Redirect.isRedirectStatus head.status && x.policy.isFollow then
        x.onRedirect s head l location
      else x.answer s head l
    | none => x.answer s head l
  match x.realm with
  | some realm =>
    if head.status = realm.target.challengeStatus then x.onChallenge s target realm head l
    else proceed { x with negotiator := x.negotiator.onSuccess }
  | none => proceed x

/-- Goes on with a response head. Credentials are sent again until an attempt gets one. -/
def headArrived (x : Exchange) (s : Shared) (head : Head) (l : Lease) : Exchange × Shared :=
  let l := if head.wantsClose then l.unpoolable else l
  onHead { x with pending := none } s l.target head l

/-- Goes on after a request that got no response head. -/
def sendFailed (x : Exchange) (s : Shared) (l : Lease) (e : Error) : Exchange × Shared :=
  x.retryOrFail (s.discard l) (e.withUrl x.url) l.reused

/-- The error about a request that got no response head, for a fault and what stands behind it. A
response that cannot be read is no lost connection. -/
def faultError (fault : WireFault) (chain : List Source) : Error :=
  match fault with
  | .malformedHead => .ofChain .protocol (.cause (.wire fault) :: chain)
  | .closedEarly | .timedOut | .brokenBody => .ofChain .request (.cause (.wire fault) :: chain)

/-- Goes on after a body was read to its end, or given up. -/
def drained (x : Exchange) (s : Shared) (l : Lease) (whole : Bool) (after : AfterDrain) :
    Exchange × Shared :=
  let x := { x with phase := .resting }
  match after with
  | .answer header keepConnection =>
    let conn := if x.negotiator.isConnectionScoped then some l.id else none
    let x := { x with pending := some ⟨header, conn⟩ }
    if whole && keepConnection && l.isPoolable s.moment then ({ x with held := some l }, s)
    else if whole then (x, s.release l)
    else (x, s.discard l)
  | .follow next =>
    ({ x with
        negotiator := Negotiator.ofRealm x.realm
        pending := none
        history := x.history ++ [x.url]
        url := next }, if whole then s.release l else s.discard l)

/-- Reads on in a body that is dropped, unless nothing has arrived. -/
def drainStep (x : Exchange) (s : Shared) (l : Lease) (read : Nat) (limit : Option Nat)
    (after : AfterDrain) : Option (Exchange × Shared) :=
  match (s.inbox l).read with
  | (some (.data bytes _), inbox) =>
    let read := read + bytes.length
    if maxDrain < read then some (x.drained s l false after)
    else some ({ x with phase := .draining l read limit after }, s.setInbox l inbox)
  | (some (.ended ending), _) => some (x.drained s l (ending = .complete) after)
  | (none, _) => if isOver limit s.now then some (x.drained s l false after) else none

/-- The next step of an exchange that was not cut short, unless it has to wait. -/
def proceed (x : Exchange) (s : Shared) : Option (Exchange × Shared) :=
  match x.phase with
  | .resting => some (x.begin s)
  | .waiting ticket =>
    if (s.pool.ticket? ticket).all (·.isDue s.now) then some (x.resume s ticket) else none
  | .dialing r transport limit =>
    match (s.stream? transport).map Stream.state with
    | some .up => some (x.dialed s r transport)
    | some (.failed chain) =>
      some (x.retryOrFail ((s.abandon r).hangUp transport) (.ofChain .connect chain) false)
    | _ =>
      if isOver limit s.now then
        some (x.retryOrFail ((s.abandon r).hangUp transport) (.of .connect .timedOut) false)
      else none
  | .sending l limit =>
    match (s.inbox l).answer with
    | some (.head head) => some (x.headArrived s head l)
    | some (.fault fault chain) => some (x.sendFailed s l (faultError fault chain))
    | none =>
      if isOver limit s.now then some (x.sendFailed s l (.of .request .timedOut)) else none
  | .draining l read limit after => x.drainStep s l read limit after
  | .answered _ _ | .failed _ | .dropped => none

/-- The next step of an exchange, unless it has to wait or has ended. -/
def step (x : Exchange) (s : Shared) : Option (Exchange × Shared) :=
  if !x.isRunning then none
  else if s.isCanceled x.token then some (x.fail s (Error.canceled.withUrl x.start))
  else if isOver x.deadline s.now then some (x.fail s (Error.timeout.withUrl x.start))
  else x.proceed s

/-- The next step of the pump of the body, unless it has to wait. -/
def pumpStep (x : Exchange) (s : Shared) : Option (Exchange × Shared) :=
  match x.phase with
  | .answered head body =>
    let inbox := (body.lease.map s.inbox).getD {}
    match body.pump s.now (s.isCanceled body.token) inbox with
    | none => none
    | some ((next, effect), inbox) =>
      let s := (body.lease.map fun l => s.setInbox l inbox).getD s
      let s :=
        match effect with
        | .keep => s
        | .release l => s.release l
        | .discard l => s.discard l
      some ({ x with phase := .answered head next }, s)
  | _ => none

/-- The next step of the delivery to a consumer, unless it has to wait. -/
def deliverStep (x : Exchange) : Option Exchange :=
  match x.phase, x.delivery with
  | .answered head body, some delivery =>
    (delivery.step body).map fun (delivery, body) =>
      { x with phase := .answered head body, delivery := some delivery }
  | _, _ => none

/-- Loses interest in an exchange, or in its body. -/
def drop (x : Exchange) (s : Shared) : Exchange × Shared :=
  if x.isRunning then x.finish s .dropped
  else
    ({ x.updateBody Body.drop with delivery := x.delivery.map Delivery.finish }, s)

end Exchange

end HttpClient
