import HttpClient.Bytes

/-!
# Hexadecimal text

Two lower-case digits a byte. `decode?` takes digits of either case.
-/

namespace HttpClient.Hex

/-- The lower-case digit of a number below sixteen. -/
def digit (n : Nat) : Char := (Nat.digitChar (n % 16))

/-- The value of a digit of either case. -/
def value? (c : Char) : Option Nat :=
  if c.isDigit then some (c.toNat - 48)
  else if 'a' ≤ c ∧ c ≤ 'f' then some (c.toNat - 87)
  else if 'A' ≤ c ∧ c ≤ 'F' then some (c.toNat - 55)
  else none

/-- Two digits for every byte. -/
def encode (bytes : Bytes) : String :=
  String.ofList (bytes.flatMap fun b => [digit (b.toNat / 16), digit b.toNat])

/-- The bytes of an even run of digits. -/
def decodeChars? : List Char → Option Bytes
  | [] => some []
  | [_] => none
  | hi :: lo :: rest => do
    let h ← value? hi
    let l ← value? lo
    let bytes ← decodeChars? rest
    return UInt8.ofNat (16 * h + l) :: bytes

/-- The bytes of a text of hexadecimal digits. -/
def decode? (s : String) : Option Bytes := decodeChars? s.toList

/-- At least `width` digits of `n`, filled with zeros on the left. -/
def ofNat (width n : Nat) : String :=
  let digits := Nat.toDigits 16 n
  String.ofList (List.replicate (width - digits.length) '0' ++ digits)

end HttpClient.Hex
