import HttpClient.Body.Inbox
import HttpClient.Pool.Basic
import HttpClient.Request

/-!
# Response bodies

A body is carried from its connection to its reader part by part. The pump takes one credit of
the reader's demand before it reads, so that it never gets ahead of the reader, and it gives
the connection back once the body has been read to its end. The reader takes parts from a
queue, which ends with the last part or with one error.
-/

namespace HttpClient

/-- A part of a body. -/
structure Part where
  bytes : Bytes
  /-- True for the part that ends the body. -/
  isLast : Bool
  deriving DecidableEq, Repr

/-- What stands in the queue of a reader. -/
inductive Queued
  | part (part : Part)
  | error (error : Error)
  deriving DecidableEq, Repr

/-- The most credits that can be available at a time. -/
def maxCredits : Nat := Nat.pow 2 61 - 1

/-- The highest demand that is counted. -/
def maxOutstanding : Nat := Nat.pow 2 64 - 1

/-- What a reader has asked for. -/
structure Demand where
  /-- Parts that the pump may still begin to read. -/
  credits : Nat := 0
  /-- Parts that were asked for and not received yet. -/
  outstanding : Nat := 0
  /-- True once the reader has lost interest. -/
  isCanceled : Bool := false
  deriving DecidableEq, Repr

namespace Demand

/-- Asks for more parts. -/
def request (d : Demand) (n : Nat) : Demand :=
  if n = 0 || d.isCanceled then d
  else
    { d with
      credits := d.credits + min n (maxCredits - d.credits)
      outstanding := min (d.outstanding + n) maxOutstanding }

/-- Loses interest. -/
def cancel (d : Demand) : Demand := { d with isCanceled := true }

/-- Counts a part that was received. -/
def received (d : Demand) : Demand := { d with outstanding := d.outstanding - 1 }

end Demand

/-- What the pump is doing. -/
inductive PumpPhase
  | awaitingCredit
  /-- Waits for a frame, at most until a time. -/
  | reading (limit : Option Nat)
  | stopped
  deriving DecidableEq, Repr

/-- A body on its way to its reader. -/
structure Body where
  url : Url
  /-- The connection, until it is given back. -/
  lease : Option Lease
  readTimeout : Option Nat := none
  deadline : Option Nat := none
  token : Option TokenId := none
  demand : Demand := {}
  phase : PumpPhase := .awaitingCredit
  /-- What the pump has produced and the reader has not taken. -/
  queue : List Queued := []
  /-- True once the reader has taken the last part or an error. -/
  isDone : Bool := false
  deriving DecidableEq, Repr

/-- What becomes of the connection after a step of the pump. -/
inductive PumpEffect
  | keep
  | release (lease : Lease)
  | discard (lease : Lease)
  deriving DecidableEq, Repr

/-- True when a time limit is over. -/
def isOver (limit : Option Nat) (now : Nat) : Bool := limit.any (· ≤ now)

namespace Body

/-- Ends the body with an error, which a reader that lost interest does not see. -/
def fail (b : Body) (e : Error) : Body × PumpEffect :=
  let queue := if b.demand.isCanceled then b.queue else b.queue ++ [Queued.error (e.withUrl b.url)]
  ({ b with phase := .stopped, lease := none, queue := queue },
    (b.lease.map PumpEffect.discard).getD .keep)

/-- Queues a part; after the last one the connection is given back. -/
def emit (b : Body) (part : Part) : Body × PumpEffect :=
  let b := { b with queue := b.queue ++ [Queued.part part] }
  if part.isLast then
    ({ b with phase := .stopped, lease := none }, (b.lease.map PumpEffect.release).getD .keep)
  else ({ b with phase := .awaitingCredit }, .keep)

/-- What the pump makes of an item. -/
def take (b : Body) : BodyItem → Body × PumpEffect
  | .data bytes isLast => b.emit ⟨bytes, isLast⟩
  | .ended .complete => b.emit ⟨[], true⟩
  | .ended .broken => b.fail (.of .body (.wire .brokenBody))

/-- A step of the pump, unless it has to wait. Cancellation comes first; a credit is taken even
after the deadline, but nothing is read then. -/
def pump (b : Body) (now : Nat) (tokenCanceled : Bool) (inbox : Inbox) :
    Option ((Body × PumpEffect) × Inbox) :=
  let isCanceled := b.demand.isCanceled || tokenCanceled
  match b.phase with
  | .stopped => none
  | .awaitingCredit =>
    if isCanceled then some (b.fail .canceled, inbox)
    else if 0 < b.demand.credits then
      let demand := { b.demand with credits := b.demand.credits - 1 }
      let limit := b.readTimeout.map (now + ·)
      some (({ b with demand := demand, phase := .reading limit }, .keep), inbox)
    else if isOver b.deadline now then some (b.fail .timeout, inbox)
    else none
  | .reading limit =>
    if isCanceled then some (b.fail .canceled, inbox)
    else if isOver b.deadline now then some (b.fail .timeout, inbox)
    else
      match inbox.read with
      | (some item, inbox) => some (b.take item, inbox)
      | (none, inbox) =>
        if isOver limit now then some (b.fail (.of .body .timedOut), inbox) else none

/-- The times at which the pump has to be looked at again. -/
def timers (b : Body) : List Nat :=
  match b.phase with
  | .stopped => []
  | .awaitingCredit => b.deadline.toList
  | .reading limit => b.deadline.toList ++ limit.toList

/-- The body after its reader has asked for more. -/
def request (b : Body) (n : Nat) : Body := { b with demand := b.demand.request n }

/-- The body after its reader has lost interest. -/
def cancel (b : Body) : Body := { b with demand := b.demand.cancel }

/-- The body without a reader. -/
def drop (b : Body) : Body := if b.isDone then b else b.cancel

/-- What a reader finds. -/
inductive Reading
  | pending
  | part (part : Part)
  | error (error : Error)
  /-- Nothing more will come. -/
  | finished
  deriving DecidableEq, Repr

/-- What a reader finds in a queue. -/
def takeQueued (b : Body) : Reading × Body :=
  match b.queue with
  | .part part :: rest =>
    (.part part, { b with demand := b.demand.received, queue := rest, isDone := part.isLast })
  | .error e :: rest => (.error e, { b with queue := rest, isDone := true })
  | [] =>
    if b.phase = .stopped then
      (.error (.of .body (.text "body ended before its last part")), { b with isDone := true })
    else (.pending, b)

/-- Looks for the next part; a reader that pulls asks for one part if it waits for none. -/
def read (b : Body) (pull : Bool) : Reading × Body :=
  if b.isDone || b.demand.isCanceled then (.finished, b)
  else takeQueued (if pull && b.demand.outstanding = 0 then b.request 1 else b)

/-- How the collection of a whole body stands. -/
inductive Collected
  | pending (soFar : Bytes)
  | whole (bytes : Bytes)
  | failed (error : Error)
  deriving DecidableEq, Repr

/-- Takes all parts that are queued onto what was collected so far, at most so many. -/
def collect (b : Body) (soFar : Bytes) : Nat → Collected × Body
  | 0 => (.pending soFar, b)
  | fuel + 1 =>
    match b.read true with
    | (.pending, b) => (.pending soFar, b)
    | (.error e, b) => (.failed e, b)
    | (.part part, b) =>
      let bytes := soFar ++ part.bytes
      if part.isLast then
        (if b.demand.isCanceled then .failed .canceled else .whole bytes, b)
      else collect b bytes fuel
    | (.finished, b) => (if b.demand.isCanceled then .failed .canceled else .whole soFar, b)

/-- Takes all parts that are queued onto what was collected so far. -/
def collectQueued (b : Body) (soFar : Bytes) : Collected × Body :=
  b.collect soFar (b.queue.length + 1)

end Body

end HttpClient
