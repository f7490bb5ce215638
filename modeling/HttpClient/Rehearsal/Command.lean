import HttpClient.Inspect
import HttpClient.Rehearsal.Stage

/-!
# Rehearsals

What one does with a client under rehearsal: requests are sent at once or in the background,
their responses kept under names, their bodies read part by part or as a whole or delivered to
a consumer. Nothing waits for longer than an hour of virtual time.
-/

namespace HttpClient

namespace Rehearsal

/-- What a name stands for. -/
inductive Slot
  | response (id : ExchangeId)
  /-- A body without its head. -/
  | body (id : ExchangeId)
  /-- A request in the background. -/
  | running (id : ExchangeId)
  /-- A request in the background that could not be built. -/
  | refused (error : Error)
  /-- A delivery to a consumer in the background. -/
  | delivery (id : ExchangeId)
  deriving DecidableEq, Repr

/-- A request to be sent, and the name of the token that cancels it. -/
structure Submission where
  builder : RequestBuilder
  token : Option String := none

/-- How a consumer of a rehearsal behaves: what it asks for when it is subscribed and after each
part, and at which part it loses interest. -/
structure ConsumerScript where
  onSubscribe : Nat := 1
  perPart : Nat := 1
  cancelAt : Option Nat := none
  deriving DecidableEq, Repr

/-- The consumer that behaves as scripted; parts are counted from one. -/
def ConsumerScript.consumer (c : ConsumerScript) : Consumer where
  onSubscribe := [.request c.onSubscribe]
  onPart before _ :=
    if c.cancelAt = some (before.length + 1) then [.cancel, .request c.perPart]
    else [.request c.perPart]

/-- What can be done in a rehearsal. -/
inductive Command
  | send (name : String) (submission : Submission)
  /-- Sends in the background. -/
  | start (name : String) (submission : Submission)
  /-- Sends, with the response delivered to a consumer in the background. -/
  | deliver (name : String) (submission : Submission) (consumer : ConsumerScript)
  /-- Sends and waits until the whole response is delivered to a consumer. -/
  | deliverWhole (submission : Submission)
  /-- Asks whether something in the background has ended. -/
  | poll (name : String)
  /-- Waits until something in the background has ended. -/
  | join (name : String)
  /-- Pulls a part of a body. -/
  | next (name : String)
  | request (name : String) (parts : Nat)
  | cancelBody (name : String)
  | drop (name : String)
  | bytes (name : String)
  | text (name : String)
  /-- Takes the head off a response. -/
  | split (name : String)
  /-- A consumer loses interest, asks for more, or both. -/
  | demand (name : String) (cancel : Bool) (parts : Option Nat)
  | inspect (name : String)
  | cancelToken (token : String)
  | advance (millis : Nat)
  /-- The server closes a connection. -/
  | serverClose (connection : TransportId)
  /-- Nothing is done. -/
  | observe

/-- What comes of a command. -/
inductive Outcome
  | done
  /-- The name does not stand for anything that the command is about. -/
  | absent
  /-- What was waited for did not happen. -/
  | hung
  | flag (value : Bool)
  | head (head : ResponseHead)
  | failed (error : Error)
  | part (part : Part)
  /-- There are no more parts. -/
  | ended
  | bytes (bytes : Bytes)
  | text (text : String)
  | delivered
  /-- The request failed, and its consumer has seen so many parts. -/
  | undelivered (error : Error) (seen : Nat)
  /-- The parts that a consumer was given, and whether the delivery came to its end. -/
  | parts (head : ResponseHead) (isWhole : Bool) (parts : List Part)
  | demand (demand : Demand)
  | texts (texts : List String)

end Rehearsal

/-- A rehearsal. -/
structure Rehearsal where
  stage : Rehearsal.Stage
  slots : List (String × Rehearsal.Slot) := []
  /-- The requests that were sent with a consumer, last to first. -/
  consumers : List (String × ExchangeId) := []
  /-- How many calls to each consumer were reported. -/
  reported : List (ExchangeId × Nat) := []
  /-- The consumers whose request could not be built since the last report. -/
  refusals : List (String × Error) := []
  /-- The names of tokens. -/
  tokens : List String := []

namespace Rehearsal

/-- The longest wait. -/
def maxWait : Nat := 3600000

/-- A rehearsal of a client against a script. -/
def make (settings : Settings) (supply : Supply) (script : Script) : Rehearsal :=
  { stage := { client := Client.make settings supply, script := script } }

/-- An exchange of the client. -/
def exchange? (r : Rehearsal) (id : ExchangeId) : Option Exchange :=
  r.stage.client.exchange? id

/-- What a name stands for. -/
def slot? (r : Rehearsal) (name : String) : Option Slot := r.slots.lookup name

/-- The rehearsal after something happened to the client. -/
def happen (r : Rehearsal) (event : Event) : Rehearsal :=
  { r with stage := r.stage.happen event }

/-- Takes turns until nothing can go on. -/
def settled (r : Rehearsal) : Rehearsal := { r with stage := r.stage.settled }

/-- Gives up what a name stood for. -/
def release (r : Rehearsal) : Slot → Rehearsal
  | .response id | .body id | .running id | .delivery id => r.happen (.drop id)
  | .refused _ => r

/-- A name stands for nothing any more. -/
def clear (r : Rehearsal) (name : String) : Rehearsal :=
  { r with slots := r.slots.filter (·.1 ≠ name) }

/-- A name gets a new meaning, without giving up what it stood for. -/
def assign (r : Rehearsal) (name : String) (slot : Slot) : Rehearsal :=
  let r := r.clear name
  { r with slots := (name, slot) :: r.slots }

/-- A name gets a new meaning, and what it stood for is given up. -/
def fill (r : Rehearsal) (name : String) (slot : Slot) : Rehearsal :=
  let before := r.slot? name
  let r := r.assign name slot
  (before.map r.release).getD r

/-- The number of a token. -/
def token (r : Rehearsal) (name : String) : TokenId × Rehearsal :=
  match r.tokens.idxOf? name with
  | some id => (id, r)
  | none => (r.tokens.length, { r with tokens := r.tokens ++ [name] })

/-- Submits a request, if it can be built. -/
def submit (r : Rehearsal) (submission : Submission) (consumer : Option Consumer) :
    Except Error ExchangeId × Rehearsal :=
  let (builder, r) :=
    match submission.token with
    | none => (submission.builder, r)
    | some name =>
      let (id, r) := r.token name
      (submission.builder.call (.cancelToken id), r)
  match builder.build r.stage.client.shared.settings with
  | .error e => (.error e, r)
  | .ok request =>
    (.ok r.stage.client.exchanges.length, r.happen (.submit request consumer))

/-- Waits for something. -/
def waitFor {σ α : Type} (r : Rehearsal) (poll : σ → Stage → Stage.Polled σ α × Stage) (start : σ) :
    Option α × Rehearsal :=
  let (found, stage) := r.stage.waitFor poll (r.stage.now + maxWait) Stage.maxMoments start
  (found, { r with stage := stage })

/-- What came of an exchange. -/
def headOf (x : Exchange) : Option (Except Error ResponseHead) :=
  match x.phase with
  | .answered head _ => some (.ok head)
  | .failed e => some (.error e)
  | _ => none

/-- Looks whether an exchange has ended. -/
def pollHead (id : ExchangeId) (_ : Unit) (s : Stage) :
    Stage.Polled Unit (Except Error ResponseHead) × Stage :=
  match (s.client.exchange? id).bind headOf with
  | some result => (.ready result, s)
  | none => (.pending (), s)

/-- True when the delivery of an exchange has ended. -/
def isDelivered (x : Exchange) : Bool := x.delivery.any (·.phase = .finished)

/-- Looks whether a delivery has ended. -/
def pollDelivery (id : ExchangeId) (_ : Unit) (s : Stage) : Stage.Polled Unit Unit × Stage :=
  if (s.client.exchange? id).any isDelivered then (.ready (), s) else (.pending (), s)

/-- Pulls a part. -/
def pollPart (id : ExchangeId) (_ : Unit) (s : Stage) : Stage.Polled Unit Outcome × Stage :=
  let (reading, client) := s.client.read id
  let s := { s with client := client }
  match reading with
  | .pending => (.pending (), s)
  | .part part => (.ready (.part part), s)
  | .error e => (.ready (.failed e), s)
  | .finished => (.ready .ended, s)

/-- Collects a body. -/
def pollBytes (id : ExchangeId) (soFar : Bytes) (s : Stage) :
    Stage.Polled Bytes (Except Error Bytes) × Stage :=
  match s.client.body? id with
  | none => (.ready (.ok soFar), s)
  | some body =>
    let (collected, body) := body.collectQueued soFar
    let s := { s with client := s.client.updateBody id fun _ => body }
    match collected with
    | .pending soFar => (.pending soFar, s)
    | .whole bytes => (.ready (.ok bytes), s)
    | .failed e => (.ready (.error e), s)

/-- Waits for the head of a response that a name shall stand for. -/
def awaitHead (r : Rehearsal) (id : ExchangeId) (slot : ExchangeId → Slot) (name : String) :
    Outcome × Rehearsal :=
  let (result, r) := r.waitFor (pollHead id) ()
  match result with
  | none => (.hung, r.happen (.drop id))
  | some (.error e) => (.failed e, r)
  | some (.ok head) => (.head head, r.fill name (slot id))

/-- The exchange of a response or body that a name stands for. -/
def bodyOf? (r : Rehearsal) (name : String) : Option ExchangeId :=
  match r.slot? name with
  | some (.response id) | some (.body id) => some id
  | _ => none

/-- Does something about the body that a name stands for. -/
def withBody (r : Rehearsal) (name : String) (f : ExchangeId → Outcome × Rehearsal) :
    Outcome × Rehearsal :=
  match r.bodyOf? name with
  | some id => f id
  | none => (.absent, r)

/-- Collects the body that a name stands for, and gives it up. All parts are asked for at once. -/
def collect (r : Rehearsal) (name : String) (id : ExchangeId) (outcome : Bytes → Outcome) :
    Outcome × Rehearsal :=
  let (result, r) := (r.happen (.request id maxOutstanding)).waitFor (pollBytes id) []
  let r := (r.clear name).happen (.drop id)
  match result with
  | none => (.hung, r)
  | some (.error e) => (.failed e, r)
  | some (.ok bytes) => (outcome bytes, r)

/-- The parts that the consumer of an exchange was given. -/
def partsOf (r : Rehearsal) (id : ExchangeId) : List Part :=
  (((r.exchange? id).bind Exchange.delivery).map Delivery.parts).getD []

/-- Does a command; whatever it sets going has not settled yet. -/
def run (r : Rehearsal) : Command → Outcome × Rehearsal
  | .send name submission =>
    match r.submit submission none with
    | (.error e, r) => (.failed e, r)
    | (.ok id, r) => r.awaitHead id .response name
  | .start name submission =>
    match r.submit submission none with
    | (.error e, r) => (.done, r.fill name (.refused e))
    | (.ok id, r) => (.done, r.fill name (.running id))
  | .deliver name submission consumer =>
    match r.submit submission (some consumer.consumer) with
    | (.error e, r) => (.undelivered e 0, { r with refusals := r.refusals ++ [(name, e)] })
    | (.ok id, r) =>
      let r := { r with consumers := (name, id) :: r.consumers }
      match r.awaitHead id .delivery name with
      | (.failed e, r) => (.undelivered e (r.partsOf id).length, r)
      | (outcome, r) => (outcome, r)
  | .deliverWhole submission =>
    let consumer : ConsumerScript := {}
    match r.submit submission (some consumer.consumer) with
    | (.error e, r) => (.undelivered e 0, r)
    | (.ok id, r) =>
      let (result, r) := r.waitFor (pollHead id) ()
      match result with
      | none => (.hung, r.happen (.drop id))
      | some (.error e) => (.undelivered e (r.partsOf id).length, r)
      | some (.ok head) =>
        let (ended, r) := r.waitFor (pollDelivery id) ()
        (.parts head ended.isSome (r.partsOf id), r.happen (.drop id))
  | .poll name =>
    match r.slot? name with
    | some (.running id) => (.flag ((r.exchange? id).all (!·.isRunning)), r)
    | some (.refused _) => (.flag true, r)
    | some (.delivery id) => (.flag ((r.exchange? id).any isDelivered), r)
    | _ => (.absent, r)
  | .join name =>
    match r.slot? name with
    | some (.running id) => (r.clear name).awaitHead id .response name
    | some (.refused e) => (.failed e, r.clear name)
    | some (.delivery id) =>
      let (ended, r) := (r.clear name).waitFor (pollDelivery id) ()
      (if ended.isSome then .delivered else .hung, r.happen (.drop id))
    | _ => (.absent, r)
  | .next name => r.withBody name fun id =>
      let (outcome, r) := r.waitFor (pollPart id) ()
      (outcome.getD .hung, r)
  | .request name parts => r.withBody name fun id => (.done, r.happen (.request id parts))
  | .cancelBody name => r.withBody name fun id => (.done, r.happen (.cancelBody id))
  | .drop name =>
    match r.slot? name with
    | some slot => (.done, (r.clear name).release slot)
    | none => (.absent, r)
  | .bytes name => r.withBody name fun id => r.collect name id .bytes
  | .text name =>
    match r.slot? name with
    | some (.response id) => r.collect name id fun bytes => .text (Utf8.decodeLossy bytes)
    | some (.body id) => r.collect name id .bytes
    | _ => (.absent, r)
  | .split name =>
    match r.slot? name with
    | some (.response id) =>
      match (r.exchange? id).map Exchange.phase with
      | some (.answered head _) => (.head head, r.assign name (.body id))
      | _ => (.absent, r)
    | _ => (.absent, r)
  | .demand name cancel parts =>
    match r.consumers.lookup name with
    | none => (.absent, r)
    | some id =>
      let r := if cancel then r.happen (.cancelBody id) else r
      let r := settled ((parts.map fun n => r.happen (.request id n)).getD r)
      match r.stage.client.body? id with
      | some body => (.demand body.demand, r)
      | none => (.absent, r)
  | .inspect name =>
    match r.slot? name with
    | some (.response id) =>
      match (r.exchange? id).map Exchange.phase with
      | some (.answered head body) =>
        (.texts [head.inspectAs "Response", head.inspectAs "ResponseHead", body.inspect,
          body.demand.inspect], r)
      | _ => (.absent, r)
    | _ => (.absent, r)
  | .cancelToken name =>
    let (id, r) := r.token name
    (.done, r.happen (.cancelToken id))
  | .advance millis =>
    (.done, { r with stage := r.stage.runTo (r.stage.now + millis) Stage.maxMoments })
  | .serverClose connection =>
    (.done, { r with stage := r.stage.updateLink connection Link.hangUp })
  | .observe => (.done, r)

end Rehearsal

end HttpClient
