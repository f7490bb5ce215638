import HttpClient.Http1.Head
import HttpClient.Text.Hex

/-!
# Chunked bodies

Each chunk is its size in hexadecimal, a line end, its bytes and another line end. A chunk of
size zero ends the body; header lines may follow it, and an empty line does. The reader allows
blanks and an extension after a size, and beside it stands the writer.
-/

namespace HttpClient.Http1

/-- A chunk of a body. -/
inductive Chunk
  | data (bytes : Bytes)
  /-- The end, and whether header lines stood there. -/
  | last (hasTrailers : Bool)
  deriving DecidableEq, Repr

/-- The value of a byte that is a hexadecimal digit. -/
def hexDigit? (b : UInt8) : Option Nat := Hex.value? (Ascii.char b)

/-- The number of hexadecimal digits. -/
def hexNumber (digits : Bytes) : Nat :=
  digits.foldl (fun n b => 16 * n + (hexDigit? b).getD 0) 0

/-- Reads the rest of a line after a size: blanks, or an extension without line feeds. -/
def skipExtension (bytes : Bytes) : Scan Unit :=
  let strictEnd := fun (rest : Bytes) => scanExactly lineEnd rest
  match bytes.dropWhile isBlankByte with
  | [] => .tooShort
  | 59 :: rest => strictEnd (rest.dropWhile fun b => b != 13 && b != 10)
  | rest => strictEnd rest

/-- Reads the size of a chunk with its line. -/
def scanSize (bytes : Bytes) : Scan Nat :=
  let isDigit := fun (b : UInt8) => (hexDigit? b).isSome
  let size := hexNumber (bytes.takeWhile isDigit)
  match bytes.takeWhile isDigit, bytes.dropWhile isDigit with
  | _, [] => .tooShort
  | [], _ => .malformed
  | _ :: _, rest =>
    if Nat.pow 2 64 ≤ size then .malformed else (skipExtension rest).map fun _ => size

/-- Reads as many bytes as asked for. -/
def scanBytes (count : Nat) (bytes : Bytes) : Scan Bytes :=
  let taken := bytes.take count
  if taken.length < count then .tooShort else .found taken (bytes.drop count)

/-- Reads a chunk. -/
def scanChunk (bytes : Bytes) : Scan Chunk :=
  (scanSize bytes).andThen fun size rest =>
    if size = 0 then
      (scanFields maxFields rest).map fun trailers => .last (!trailers.entries.isEmpty)
    else
      (scanBytes size rest).andThen fun data rest =>
        (scanExactly lineEnd rest).map fun _ => .data data

/-- A chunk as it is written. -/
def renderChunk (bytes : Bytes) : Bytes :=
  Ascii.bytes (Hex.ofNat 1 bytes.length) ++ lineEnd ++ bytes ++ lineEnd

/-- The end of a chunked body as it is written. -/
def renderLast (trailers : List (Bytes × Bytes)) : Bytes :=
  Ascii.bytes "0" ++ lineEnd ++ fieldLines trailers

end HttpClient.Http1
