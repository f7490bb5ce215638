import HttpClient.Exchange.Basic

/-!
# Attempts

Each attempt of an exchange goes out on a connection: the one kept by the attempt before, an
idle one, or a new one. The negotiator state is the one that belongs to the connection, and
the message is made anew from the caller's content, so that nothing that one attempt adds is
carried into the next.
-/

namespace HttpClient

/-- The longest path and query that can be sent. -/
def maxUriLength : Nat := 65534

namespace Exchange

/-- The error about a failed authentication. -/
def authError (failure : Failure) : Error :=
  match failure with
  | .violation _ => .of .protocol (.auth failure)
  | .rejected _ | .entropy => .of .auth (.auth failure)

/-- The request that credentials are made for. -/
def authRequest (x : Exchange) (target : Target) : AuthRequest :=
  ⟨x.content.method, x.url.originForm, target.host⟩

/-- Chooses the negotiator state for an attempt on a connection: the state parked for the
connection where there is one. State of another connection is given up, and so are credentials
bound to another connection. -/
def bind (x : Exchange) (s : Shared) (l : Lease) : Exchange × Shared :=
  match x.realm with
  | none => (x, s)
  | some realm =>
    let (stored, s) := s.unpark l realm
    let fresh := Negotiator.ofRealm (some realm)
    if x.pending.any fun p => p.conn.any (· ≠ l.id) then
      ({ x with pending := none, negotiator := stored.getD fresh }, s)
    else
      match stored with
      | some negotiator =>
        if x.negotiator.isConnectionScoped || x.pending.isNone then
          ({ x with negotiator := negotiator }, s)
        else (x, s)
      | none =>
        if x.negotiator.isConnectionScoped && x.pending.isNone then
          ({ x with negotiator := fresh }, s)
        else (x, s)

/-- The credentials of an attempt, pending or sent unasked. -/
def credentials (x : Exchange) (s : Shared) (target : Target) :
    Except Failure (Option HeaderValue) × Exchange × Shared :=
  match x.realm, x.pending with
  | none, _ => (.ok none, x, s)
  | some _, some pending => (.ok (some pending.header), x, s)
  | some realm, none =>
    if x.negotiator.shouldPreempt realm then
      let (result, negotiator, supply) :=
        x.negotiator.preempt realm (x.authRequest target) s.supply
      (result, { x with negotiator := negotiator }, { s with supply := supply })
    else (.ok none, x, s)

/-- The caller's headers and those that every request has. -/
def plainHeaders (x : Exchange) (settings : Settings) (target : Target) : Fields :=
  let headers := x.content.headers.insertIfAbsent "host" (.ofAscii target.authority)
  let headers :=
    match settings.userAgent with
    | some agent => headers.insertIfAbsent "user-agent" agent
    | none => headers
  let headers := headers.insertIfAbsent "accept" (.ofAscii "*/*")
  match x.content.body with
  | some body => headers.insert "content-length" (.ofAscii (toString body.length))
  | none => headers

/-- The message of an attempt with its credentials. -/
def message (x : Exchange) (settings : Settings) (target : Target)
    (credentials : Option HeaderValue) : Message :=
  let headers := x.plainHeaders settings target
  let headers :=
    match x.realm, credentials with
    | some realm, some value => headers.insert realm.target.credentialsHeader value
    | _, _ => headers
  { method := x.content.method
    uri := x.url.originForm
    headers := headers
    body := x.content.body }

/-- The message of an attempt, if it can be made. -/
def compose (x : Exchange) (s : Shared) (target : Target) :
    Except Error Message × Exchange × Shared :=
  let (result, x, s) := x.credentials s target
  match result with
  | .error failure => (.error ((authError failure).withUrl x.url), x, s)
  | .ok credentials =>
    let message := x.message s.settings target credentials
    if maxUriLength < message.uri.utf8ByteSize then
      (.error (.of .builder (.text "uri too long")), x, s)
    else (.ok message, x, s)

/-- Gives up all that an exchange holds. -/
def letGo (x : Exchange) (s : Shared) : Shared :=
  let s :=
    match x.phase with
    | .waiting ticket => s.stopWaiting ticket
    | .dialing r transport _ => (s.abandon r).hangUp transport
    | .sending lease _ | .draining lease _ _ _ => s.discard lease
    | _ => s
  match x.held with
  | some lease => s.discard lease
  | none => s

/-- Ends an exchange, which gives up all that it holds. -/
def finish (x : Exchange) (s : Shared) (phase : Phase) : Exchange × Shared :=
  ({ x with held := none, phase := phase }, x.letGo s)

/-- Ends an exchange with an error; a consumer is told. -/
def fail (x : Exchange) (s : Shared) (e : Error) : Exchange × Shared :=
  finish { x with delivery := x.delivery.map (·.failed e) } s (.failed e)

/-- After an error before a response head: another attempt where it is safe and the budget
allows it, else the end. -/
def retryOrFail (x : Exchange) (s : Shared) (e : Error) (reused : Bool) : Exchange × Shared :=
  let x := { x with phase := .resting }
  let (granted, retries) := x.retries.withdraw
  if Retry.isRetryable x.content.method reused e && granted then ({ x with retries := retries }, s)
  else x.fail s (e.withUrl x.url)

/-- Sends the request on a connection. -/
def attempt (x : Exchange) (s : Shared) (target : Target) (l : Lease) : Exchange × Shared :=
  let (x, s) := x.bind s l
  let (result, x, s) := x.compose s target
  match result with
  | .error e => x.retryOrFail (s.discard l) e l.reused
  | .ok message =>
    let limit := s.settings.readTimeout.map (s.now + ·)
    ({ x with phase := .sending l limit }, s.send l message)

/-- Goes on with what the pool answered. -/
def checkedOut (x : Exchange) (s : Shared) (target : Target) :
    CheckoutStatus → Exchange × Shared
  | .ready (.idle lease) => x.attempt s target lease
  | .ready (.reserved r) =>
    let (transport, s) := s.dial target
    let limit := s.settings.connectTimeout.map (s.now + ·)
    ({ x with phase := .dialing r transport limit }, s)
  | .waiting ticket => ({ x with phase := .waiting ticket }, s)
  | .tooMany => x.retryOrFail s (.of .connect .tooManyConnections) false

/-- Looks for a connection: the one kept by the attempt before if it leads to the target and is
open, else what the pool gives. -/
def connect (x : Exchange) (s : Shared) (target : Target) : Exchange × Shared :=
  let ask := fun (x : Exchange) (s : Shared) =>
    let (status, s) := s.checkout target
    x.checkedOut s target status
  match x.held with
  | none => ask x s
  | some lease =>
    let x := { x with held := none }
    if s.isAlive lease.transport then
      if lease.target = target then x.attempt s target lease else ask x (s.release lease)
    else ask x (s.discard lease)

/-- Begins an attempt. -/
def begin (x : Exchange) (s : Shared) : Exchange × Shared :=
  match Target.ofUrl x.url with
  | .error e => x.fail s e
  | .ok target => x.connect s target

/-- Goes on after waiting for the pool. -/
def resume (x : Exchange) (s : Shared) (ticket : Nat) : Exchange × Shared :=
  match Target.ofUrl x.url with
  | .error e => x.fail s e
  | .ok target =>
    let (status, s) := s.resume ticket
    x.checkedOut s target status

/-- Goes on after a stream was opened. -/
def dialed (x : Exchange) (s : Shared) (r : Reservation) (transport : TransportId) :
    Exchange × Shared :=
  let (lease, s) := s.fulfill r transport
  x.attempt s r.target lease

end Exchange

end HttpClient
