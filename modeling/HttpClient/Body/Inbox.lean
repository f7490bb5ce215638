import HttpClient.Error
import HttpClient.Response

/-!
# What arrives on a connection

For the request in flight on a connection, the client's end keeps what has arrived and was not
read yet: the head, the frames of the body, and how the body ended. What arrives out of turn,
such as a second head, is not taken up.
-/

namespace HttpClient

/-- A piece of a body as it arrives. -/
inductive Frame
  /-- Bytes, and whether they are known to be the last. -/
  | data (bytes : Bytes) (isLast : Bool)
  | trailers
  deriving DecidableEq, Repr

/-- How a body ends. -/
inductive Ending
  | complete
  | broken
  deriving DecidableEq, Repr

/-- Something that arrives on a connection. -/
inductive Arrival
  | head (head : Head)
  | frame (frame : Frame)
  | ending (ending : Ending)
  /-- A head that cannot be read. -/
  | malformed
  /-- The peer closes the connection, or sends what no request asked for. -/
  | hangUp
  /-- The connection fails, and what stands behind that. -/
  | lost (fault : WireFault) (chain : List Source)
  deriving DecidableEq, Repr

/-- True for what closes a connection. -/
def Arrival.isClose : Arrival → Bool
  | hangUp | lost _ _ => true
  | _ => false

/-- What a request is answered with. -/
inductive Answer
  | head (head : Head)
  /-- Nothing, for a fault and what stands behind it. -/
  | fault (fault : WireFault) (chain : List Source)
  deriving DecidableEq, Repr

/-- What has arrived for the request in flight and was not read yet. -/
structure Inbox where
  answer : Option Answer := none
  frames : List Frame := []
  ending : Option Ending := none
  deriving DecidableEq, Repr

/-- The next thing that a reader of a body finds. -/
inductive BodyItem
  | data (bytes : Bytes) (isLast : Bool)
  | ended (ending : Ending)
  deriving DecidableEq, Repr

namespace Inbox

/-- True while more frames may arrive. -/
def isReceiving (i : Inbox) : Bool :=
  match i.answer with
  | some (.head _) => i.ending.isNone
  | _ => false

/-- Takes up that nothing more arrives. -/
def lose (i : Inbox) (fault : WireFault) (chain : List Source) : Inbox :=
  if i.answer.isNone then { i with answer := some (.fault fault chain) }
  else if i.isReceiving then { i with ending := some .broken }
  else i

/-- Takes up what arrives. -/
def receive (i : Inbox) : Arrival → Inbox
  | .head h => if i.answer.isNone then { i with answer := some (.head h) } else i
  | .frame f => if i.isReceiving then { i with frames := i.frames ++ [f] } else i
  | .ending e => if i.isReceiving then { i with ending := some e } else i
  | .malformed =>
    if i.answer.isNone then { i with answer := some (.fault .malformedHead []) } else i
  | .hangUp => i.lose .closedEarly []
  | .lost fault chain => i.lose fault chain

/-- The next item that a body part is made of, and the frames after it. Trailers and empty
frames are passed over, except for an empty frame that is the last. -/
def nextItem (ending : Option Ending) : List Frame → Option BodyItem × List Frame
  | [] => (ending.map .ended, [])
  | .trailers :: rest => nextItem ending rest
  | .data bytes isLast :: rest =>
    if bytes.isEmpty && !isLast then nextItem ending rest else (some (.data bytes isLast), rest)

/-- Reads the next item, if there is one. -/
def read (i : Inbox) : Option BodyItem × Inbox :=
  let (item, frames) := nextItem i.ending i.frames
  (item, { i with frames := frames })

end Inbox

end HttpClient
