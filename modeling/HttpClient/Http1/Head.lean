import HttpClient.Http1.Scan
import HttpClient.Response

/-!
# The head of a response on the wire

A status line, header lines, and an empty line. The reader takes a bare line feed for the end of
a line, passes over empty lines in front, and allows no blank before a colon and no line that
goes on on the next one. Beside it stands the writer.
-/

namespace HttpClient.Http1

/-- The most header lines that a head may have. -/
def maxFields : Nat := 100

/-- Reads the version at the beginning of a status line. -/
def scanVersion (bytes : Bytes) : Scan Version :=
  (scanExactly (Ascii.bytes "HTTP/1.") bytes).andThen fun _ rest =>
    match rest with
    | [] => .tooShort
    | 48 :: rest => .found .http10 rest
    | 49 :: rest => .found .http11 rest
    | _ => .malformed

/-- The value of a decimal digit. -/
def digit? (b : UInt8) : Option Nat := if 48 ≤ b && b ≤ 57 then some (b.toNat - 48) else none

/-- Reads as many decimal digits as asked for, onto the number read so far. -/
def scanDigits : (count soFar : Nat) → Bytes → Scan Nat
  | 0, n, rest => .found n rest
  | _ + 1, _, [] => .tooShort
  | count + 1, n, b :: rest =>
    match digit? b with
    | some d => scanDigits count (10 * n + d) rest
    | none => .malformed

/-- Reads a status, which has three digits and is not below 100. -/
def scanStatus (bytes : Bytes) : Scan Status :=
  (scanDigits 3 0 bytes).andThen fun n rest => if n < 100 then .malformed else .found n rest

/-- Reads past the reason of a status line, which may be missing with the space before it. -/
def skipReason : Bytes → Scan Unit
  | 32 :: rest => scanLineEnd (rest.dropWhile HeaderValue.isLegal)
  | rest => scanLineEnd rest

/-- A byte of a header name. -/
def isNameByte (b : UInt8) : Bool := Ascii.isTokenChar (Ascii.char b)

/-- A value without the blanks at its end. -/
def trimEnd (bytes : Bytes) : Bytes := (bytes.reverse.dropWhile isBlankByte).reverse

/-- Reads a header line. -/
def scanField (bytes : Bytes) : Scan (String × HeaderValue) :=
  let name := bytes.takeWhile isNameByte
  match bytes.dropWhile isNameByte with
  | [] => .tooShort
  | 58 :: rest =>
    let rest := rest.dropWhile isBlankByte
    let value := rest.takeWhile HeaderValue.isLegal
    (scanLineEnd (rest.dropWhile HeaderValue.isLegal)).andThen fun _ rest =>
      match Fields.field name (trimEnd value) with
      | .ok field => .found field rest
      | .error _ => .malformed
  | _ => .malformed

/-- Reads header lines, at most so many, up to the empty line after them. -/
def scanFields : (most : Nat) → Bytes → Scan Fields
  | most, bytes =>
    match scanLineEnd bytes with
    | .found _ rest => .found {} rest
    | .tooShort => .tooShort
    | .malformed =>
      match most with
      | 0 => .malformed
      | most + 1 =>
        (scanField bytes).andThen fun field rest =>
          (scanFields most rest).map fun fields => ⟨field :: fields.entries⟩

/-- Reads the head of a response. -/
def scanHead (bytes : Bytes) : Scan Head :=
  (skipEmptyLines bytes).andThen fun _ rest =>
    (scanVersion rest).andThen fun version rest =>
      (scanExactly [32] rest).andThen fun _ rest =>
        (scanStatus rest).andThen fun status rest =>
          (skipReason rest).andThen fun _ rest =>
            (scanFields maxFields rest).map fun fields =>
              { status := status, version := version, headers := fields }

/-- The bytes at the end of a line. -/
def lineEnd : Bytes := [13, 10]

/-- The line of a header field. -/
def fieldLine (name value : Bytes) : Bytes := name ++ Ascii.bytes ": " ++ value ++ lineEnd

/-- Header lines with an empty line after them. -/
def fieldLines (fields : List (Bytes × Bytes)) : Bytes :=
  fields.flatMap (fun field => fieldLine field.1 field.2) ++ lineEnd

/-- A status line without a reason. -/
def statusLine (version : String) (status : Status) : Bytes :=
  Ascii.bytes (version ++ " " ++ toString status ++ " ") ++ lineEnd

end HttpClient.Http1
