import HttpClient.Body.Inbox
import HttpClient.Http1.Chunk
import HttpClient.Http1.Framing

/-!
# What a client reads from a connection

Bytes come in pieces of any size, and what they say is handed on as it becomes known: a head,
frames of a body, and its end. A connection that cannot go on is closed by the client: after
bytes that nobody asked for, after a response that cannot be read, and after the last response
that the connection can carry.
-/

namespace HttpClient.Http1

/-- What is read next. -/
inductive DecoderPhase
  /-- Nothing was asked for. -/
  | idle
  | head (method : Method)
  /-- A body with so many bytes to come. -/
  | sized (remaining : Nat) (keepsAlive : Bool)
  | chunked (keepsAlive : Bool)
  | untilClose
  | closed
  deriving DecidableEq, Repr

/-- The reading end of a connection. -/
structure Decoder where
  phase : DecoderPhase := .idle
  /-- What has arrived and was not read yet. -/
  buffer : Bytes := []
  deriving Repr

namespace Decoder

/-- True once nothing more is read. -/
def isClosed (d : Decoder) : Bool := d.phase = .closed

/-- A request is sent, whose response is awaited. -/
def expect (d : Decoder) (method : Method) : Decoder :=
  if d.phase = .idle then { d with phase := .head method } else d

/-- Closes the connection. -/
def shut : Decoder := { phase := .closed }

/-- The end of a response. -/
def finish (keepsAlive : Bool) (rest : Bytes) : List Arrival × Decoder :=
  if keepsAlive then ([], { buffer := rest }) else ([.hangUp], shut)

/-- Goes on after a head. -/
def afterHead (method : Method) (head : Head) (rest : Bytes) : List Arrival × Decoder :=
  let kept := keepsAlive method head
  if isInterim head.status then ([], { phase := .head method, buffer := rest })
  else
    match framing? method head with
    | none => ([.malformed, .hangUp], shut)
    | some .empty =>
      let (arrivals, d) := finish kept rest
      (.head head :: .ending .complete :: arrivals, d)
    | some (.length n) => ([.head head], { phase := .sized n kept, buffer := rest })
    | some .chunked => ([.head head], { phase := .chunked kept, buffer := rest })
    | some .untilClose => ([.head head], { phase := .untilClose, buffer := rest })

/-- Goes on after a chunk. -/
def afterChunk (keepsAlive : Bool) (chunk : Chunk) (rest : Bytes) : List Arrival × Decoder :=
  match chunk with
  | .data bytes => ([.frame (.data bytes false)], { phase := .chunked keepsAlive, buffer := rest })
  | .last hasTrailers =>
    let (arrivals, d) := finish keepsAlive rest
    let trailers := if hasTrailers then [Arrival.frame .trailers] else []
    (trailers ++ .ending .complete :: arrivals, d)

/-- Reads the next thing, unless too little has arrived. -/
def step (d : Decoder) : Option (List Arrival × Decoder) :=
  match d.phase with
  | .closed => none
  | .idle => if d.buffer.isEmpty then none else some ([.hangUp], shut)
  | .head method =>
    match scanHead d.buffer with
    | .tooShort => none
    | .malformed => some ([.malformed, .hangUp], shut)
    | .found head rest => some (afterHead method head rest)
  | .sized remaining kept =>
    let bytes := d.buffer.take remaining
    let rest := d.buffer.drop remaining
    if bytes.isEmpty then none
    else if bytes.length < remaining then
      some ([.frame (.data bytes false)], { phase := .sized (remaining - bytes.length) kept })
    else
      let (arrivals, d) := finish kept rest
      some (.frame (.data bytes true) :: .ending .complete :: arrivals, d)
  | .chunked kept =>
    match scanChunk d.buffer with
    | .tooShort => none
    | .malformed => some ([.ending .broken, .hangUp], shut)
    | .found chunk rest => some (afterChunk kept chunk rest)
  | .untilClose =>
    if d.buffer.isEmpty then none
    else some ([.frame (.data d.buffer false)], { d with buffer := [] })

/-- Reads all that has arrived, in at most so many steps. -/
def drain : Nat → Decoder → List Arrival × Decoder
  | 0, d => ([], d)
  | fuel + 1, d =>
    match d.step with
    | none => ([], d)
    | some (arrivals, d) =>
      let (more, d) := drain fuel d
      (arrivals ++ more, d)

/-- Takes in bytes; a step that does not close the connection reads at least one of them. -/
def feed (d : Decoder) (bytes : Bytes) : List Arrival × Decoder :=
  let d := { d with buffer := d.buffer ++ bytes }
  d.drain (d.buffer.length + 1)

/-- The peer closes the connection; that completes a body that is delimited by it. -/
def close (d : Decoder) : List Arrival × Decoder :=
  match d.phase with
  | .closed => ([], shut)
  | .untilClose => ([.ending .complete, .hangUp], shut)
  | _ => ([.hangUp], shut)

end Decoder

end HttpClient.Http1
