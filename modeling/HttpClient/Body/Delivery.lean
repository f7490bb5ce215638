import HttpClient.Body.Basic

/-!
# Delivery to a consumer

A consumer is called back: once when it is subscribed, then for every part, and at the end for
completion or an error. In each call it may ask for more parts or lose interest.
-/

namespace HttpClient

/-- What a consumer does in a call. -/
inductive DemandCall
  | request (n : Nat)
  | cancel
  deriving DecidableEq, Repr

/-- How a consumer behaves. -/
structure Consumer where
  onSubscribe : List DemandCall
  /-- What is done about a part, after those before it. -/
  onPart : (before : List Part) → Part → List DemandCall

/-- A call to a consumer. -/
inductive Callback
  | subscribe
  | part (part : Part)
  | error (error : Error)
  | complete
  deriving DecidableEq, Repr

/-- Where a delivery stands. -/
inductive DeliveryPhase
  | starting
  | running
  | finished
  deriving DecidableEq, Repr

/-- A delivery and the calls made so far, oldest first. -/
structure Delivery where
  consumer : Consumer
  phase : DeliveryPhase := .starting
  calls : List Callback := []

namespace Delivery

/-- The parts that were delivered. -/
def parts (d : Delivery) : List Part :=
  d.calls.filterMap fun call =>
    match call with
    | .part part => some part
    | _ => none

/-- Makes a call. -/
def call (d : Delivery) (callback : Callback) : Delivery :=
  { d with calls := d.calls ++ [callback] }

/-- Ends the delivery. -/
def finish (d : Delivery) : Delivery := { d with phase := .finished }

/-- The body after what a consumer does. -/
def apply (b : Body) (calls : List DemandCall) : Body :=
  calls.foldl (fun b call =>
    match call with
    | .request n => b.request n
    | .cancel => b.cancel) b

/-- The end of a request for which there is no body. -/
def failed (d : Delivery) (e : Error) : Delivery := (d.call (.error e)).finish

/-- A step of a delivery, unless it has to wait. -/
def step (d : Delivery) (b : Body) : Option (Delivery × Body) :=
  match d.phase with
  | .finished => none
  | .starting =>
    some ({ d.call .subscribe with phase := .running }, apply b d.consumer.onSubscribe)
  | .running =>
    match b.read false with
    | (.pending, _) => none
    | (.finished, b) => some (d.finish, b.drop)
    | (.error e, b) => some ((d.call (.error e)).finish, b.drop)
    | (.part part, b) =>
      let b := apply b (d.consumer.onPart d.parts part)
      let d := d.call (.part part)
      if part.isLast then some ((d.call .complete).finish, b.drop) else some (d, b)

end Delivery

end HttpClient
