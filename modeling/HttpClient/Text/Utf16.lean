import HttpClient.Bytes

/-!
# UTF-16

Sixteen-bit units, little-endian. Decoding replaces every surrogate without a partner and
ignores a last odd byte; decoding what was encoded gives the text back.
-/

namespace HttpClient.Utf16

/-- One unit up to U+FFFF, two above. -/
def unitsOfChar (c : Char) : List Nat :=
  let n := c.toNat
  if n < 0x10000 then [n]
  else [0xD800 + (n - 0x10000) / 0x400, 0xDC00 + (n - 0x10000) % 0x400]

/-- The units of a text. -/
def units (s : String) : List Nat := s.toList.flatMap unitsOfChar

/-- The bytes of a text, low byte first in every unit. -/
def encodeLE (s : String) : Bytes := (units s).flatMap (Bytes.ofNatLE 2)

/-- The units in a byte string. -/
def unitsOfBytes : Bytes → List Nat
  | lo :: hi :: rest => (lo.toNat + 256 * hi.toNat) :: unitsOfBytes rest
  | _ => []

/-- The first unit of a pair. -/
def isHigh (n : Nat) : Bool := 0xD800 ≤ n && n < 0xDC00

/-- The second unit of a pair. -/
def isLow (n : Nat) : Bool := 0xDC00 ≤ n && n < 0xE000

/-- The characters of units that need not be paired. -/
def charsOfUnits : List Nat → List Char
  | [] => []
  | [n] => [if isHigh n || isLow n then '\uFFFD' else Char.ofNat n]
  | n :: m :: rest =>
    if isHigh n then
      if isLow m then
        Char.ofNat (0x10000 + (n - 0xD800) * 0x400 + (m - 0xDC00)) :: charsOfUnits rest
      else '\uFFFD' :: charsOfUnits (m :: rest)
    else if isLow n then '\uFFFD' :: charsOfUnits (m :: rest)
    else Char.ofNat n :: charsOfUnits (m :: rest)

/-- The text of little-endian bytes that need not be well formed. -/
def decodeLossyLE (bytes : Bytes) : String := String.ofList (charsOfUnits (unitsOfBytes bytes))

end HttpClient.Utf16
