import HttpClient.Bytes

/-!
# Reading what has not arrived whole

A reader looks at the bytes that have arrived so far. It finds what it reads and the bytes after
it, or bytes that cannot be right whatever follows, or too little to tell.
-/

namespace HttpClient.Http1

/-- What a reader finds in the bytes that have arrived. -/
inductive Scan (α : Type)
  | found (value : α) (rest : Bytes)
  | malformed
  | tooShort
  deriving Repr

namespace Scan

/-- Reads on after something was found. -/
def andThen {α β : Type} (s : Scan α) (next : α → Bytes → Scan β) : Scan β :=
  match s with
  | found value rest => next value rest
  | malformed => malformed
  | tooShort => tooShort

/-- Changes what was found. -/
def map {α β : Type} (f : α → β) (s : Scan α) : Scan β :=
  s.andThen fun value rest => found (f value) rest

end Scan

/-- A blank on a line: a space or a tab. -/
def isBlankByte (b : UInt8) : Bool := b == 32 || b == 9

/-- Reads given bytes; too few of them are malformed as soon as one differs. -/
def scanExactly : Bytes → Bytes → Scan Unit
  | [], rest => .found () rest
  | _ :: _, [] => .tooShort
  | e :: expected, b :: rest => if b = e then scanExactly expected rest else .malformed

/-- Reads the end of a line, with or without a carriage return. -/
def scanLineEnd : Bytes → Scan Unit
  | [] => .tooShort
  | 10 :: rest => .found () rest
  | 13 :: 10 :: rest => .found () rest
  | [13] => .tooShort
  | _ => .malformed

/-- Reads past lines that are empty, up to a byte that begins something else. -/
def skipEmptyLines : Bytes → Scan Unit
  | [] => .tooShort
  | 10 :: rest => skipEmptyLines rest
  | 13 :: 10 :: rest => skipEmptyLines rest
  | [13] => .tooShort
  | 13 :: _ => .malformed
  | rest => .found () rest

end HttpClient.Http1
