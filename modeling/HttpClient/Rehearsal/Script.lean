import HttpClient.Error
import HttpClient.Http1.Chunk

/-!
# Scripts for rehearsals

A script says in advance how each attempt to open a stream goes and how each request is
answered. A reply is played as a list of moves: bytes that are written at once, pauses between
them, and what happens to the connection at the end.
-/

namespace HttpClient.Rehearsal

/-- How an attempt to open a stream ends. -/
inductive DialEnd
  | opens
  /-- It never ends. -/
  | hangs
  | fails (cause : Cause)
  deriving DecidableEq, Repr

/-- How an attempt to open a stream goes. -/
structure DialScript where
  delay : Nat := 0
  ending : DialEnd := .opens
  deriving DecidableEq, Repr

/-- A piece of a scripted body. -/
inductive Piece
  | data (bytes : Bytes)
  | pause (millis : Nat)
  deriving DecidableEq, Repr

/-- How a scripted body is delimited. -/
inductive Delimiter
  | length
  | chunked
  | untilClose
  deriving DecidableEq, Repr

/-- How a scripted body ends. -/
inductive BodyEnd
  | whole
  /-- It stays incomplete and the connection is closed. -/
  | truncated
  /-- It stays incomplete and the connection open. -/
  | stalled
  deriving DecidableEq, Repr

/-- A scripted response. -/
structure ResponseScript where
  version : String
  status : Status
  headers : List (Bytes × Bytes)
  delimiter : Delimiter
  pieces : List Piece
  trailers : List (Bytes × Bytes)
  ending : BodyEnd
  /-- True when the server closes the connection afterwards. -/
  closes : Bool
  deriving Repr

/-- What a server does with a request. -/
inductive ReplyAct
  /-- It never answers. -/
  | silence
  /-- It closes the connection. -/
  | hangUp
  /-- It sends these bytes, and closes the connection or goes on. -/
  | raw (bytes : Bytes) (closes : Bool)
  | respond (response : ResponseScript)
  deriving Repr

/-- What a server does with a request, after a delay. -/
structure ReplyScript where
  delay : Nat := 0
  act : ReplyAct
  deriving Repr

/-- A script. -/
structure Script where
  dials : List DialScript := []
  replies : List ReplyScript := []
  /-- False when there is nothing that could open a stream to a secure target. -/
  canConnect : Bool := true

/-- A move of a server on a connection. -/
inductive Move
  | write (bytes : Bytes)
  | pause (millis : Nat)
  | close
  /-- Nothing is done any more. -/
  | stay
  deriving DecidableEq, Repr

namespace Piece

/-- The bytes of a piece. -/
def bytes : Piece → Bytes
  | data bytes => bytes
  | pause _ => []

/-- The move that a piece makes. -/
def move (render : Bytes → Bytes) : Piece → Move
  | data bytes => .write (render bytes)
  | pause millis => .pause millis

end Piece

namespace ResponseScript

/-- True for a response that carries its body. -/
def hasBody (r : ResponseScript) (method : Method) : Bool :=
  r.status ≠ 204 && r.status ≠ 304 && method ≠ "HEAD"

/-- The length that is announced; a body that stays incomplete is one byte short of it. -/
def announced (r : ResponseScript) : Nat :=
  (r.pieces.flatMap Piece.bytes).length + if r.ending = .whole then 0 else 1

/-- The header field that delimits the body. -/
def delimiting (r : ResponseScript) : List (Bytes × Bytes) :=
  if r.status = 204 || r.status = 304 then []
  else
    match r.delimiter with
    | .length => [(Ascii.bytes "content-length", Ascii.bytes (toString r.announced))]
    | .chunked => [(Ascii.bytes "transfer-encoding", Ascii.bytes "chunked")]
    | .untilClose => []

/-- The moves that send the body. -/
def bodyMoves (r : ResponseScript) : List Move :=
  match r.delimiter with
  | .length | .untilClose => r.pieces.map (Piece.move id)
  | .chunked =>
    let last := if r.ending = .whole then [Move.write (Http1.renderLast r.trailers)] else []
    r.pieces.map (Piece.move Http1.renderChunk) ++ last

/-- The moves after the body. -/
def endMoves (r : ResponseScript) : List Move :=
  match r.ending with
  | .stalled => [.stay]
  | .truncated => [.close]
  | .whole => if r.closes || r.delimiter = .untilClose then [.close] else []

/-- The moves that send a response. -/
def moves (r : ResponseScript) (method : Method) : List Move :=
  let head := Http1.statusLine ("HTTP/" ++ r.version) r.status
    ++ Http1.fieldLines (r.headers ++ r.delimiting)
  .write head :: (if r.hasBody method then r.bodyMoves else []) ++ r.endMoves

end ResponseScript

/-- The moves that answer a request. -/
def ReplyScript.moves (r : ReplyScript) (method : Method) : List Move :=
  let act :=
    match r.act with
    | .silence => [Move.stay]
    | .hangUp => [.close]
    | .raw bytes closes => .write bytes :: if closes then [.close] else []
    | .respond response => response.moves method
  if r.delay = 0 then act else .pause r.delay :: act

end HttpClient.Rehearsal
