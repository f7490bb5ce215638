import HttpClient.Bytes

/-!
# Base64 text

The standard alphabet with canonical padding: three bytes become four characters, the
last group is filled up with `=`, and the reader takes nothing but what the writer makes.
-/

namespace HttpClient.Base64

/-- The character of six bits. -/
def digit (n : Nat) : Char :=
  if n < 26 then Char.ofNat (65 + n)
  else if n < 52 then Char.ofNat (71 + n)
  else if n < 62 then Char.ofNat (n - 4)
  else if n = 62 then '+'
  else '/'

/-- The six bits of a character of the alphabet. -/
def value? (c : Char) : Option Nat :=
  if 'A' ≤ c ∧ c ≤ 'Z' then some (c.toNat - 65)
  else if 'a' ≤ c ∧ c ≤ 'z' then some (c.toNat - 71)
  else if c.isDigit then some (c.toNat + 4)
  else if c = '+' then some 62
  else if c = '/' then some 63
  else none

/-- The characters of a byte string. -/
def encodeChars : Bytes → List Char
  | [] => []
  | [a] => [digit (a.toNat / 4), digit (a.toNat % 4 * 16), '=', '=']
  | [a, b] =>
    [digit (a.toNat / 4), digit (a.toNat % 4 * 16 + b.toNat / 16), digit (b.toNat % 16 * 4), '=']
  | a :: b :: c :: rest =>
    digit (a.toNat / 4) :: digit (a.toNat % 4 * 16 + b.toNat / 16)
      :: digit (b.toNat % 16 * 4 + c.toNat / 64) :: digit (c.toNat % 64) :: encodeChars rest

/-- The text of a byte string. -/
def encode (bytes : Bytes) : String := String.ofList (encodeChars bytes)

/-- The bytes of the last group, whose unused bits must be zero. -/
def decodeTail? (w x y z : Char) : Option Bytes := do
  let a ← value? w
  let b ← value? x
  if z ≠ '=' then
    let c ← value? y
    let d ← value? z
    return [UInt8.ofNat (a * 4 + b / 16), UInt8.ofNat (b % 16 * 16 + c / 4),
      UInt8.ofNat (c % 4 * 64 + d)]
  else if y ≠ '=' then
    let c ← value? y
    if c % 4 = 0 then
      return [UInt8.ofNat (a * 4 + b / 16), UInt8.ofNat (b % 16 * 16 + c / 4)]
    else none
  else if b % 16 = 0 then return [UInt8.ofNat (a * 4 + b / 16)]
  else none

/-- The bytes of characters in groups of four. -/
def decodeChars? : List Char → Option Bytes
  | [] => some []
  | [w, x, y, z] => decodeTail? w x y z
  | w :: x :: y :: z :: rest => do
    if z = '=' then none
    let group ← decodeTail? w x y z
    let bytes ← decodeChars? rest
    return group ++ bytes
  | _ => none

/-- The bytes of a text in canonical form. -/
def decode? (s : String) : Option Bytes := decodeChars? s.toList

end HttpClient.Base64
