/-!
# Byte strings

Octets are kept as lists. Numbers enter and leave in little-endian order, most
significant byte last; the readers answer `none` where the string is too short,
and reading back what was written gives the number again.
-/

namespace HttpClient

/-- A string of octets. -/
abbrev Bytes := List UInt8

namespace Bytes

/-- The bytes of `n`, `width` of them, least significant first. -/
def ofNatLE : (width : Nat) → Nat → Bytes
  | 0, _ => []
  | width + 1, n => UInt8.ofNat n :: ofNatLE width (n / 256)

/-- The number written by a byte string, least significant byte first. -/
def toNatLE : Bytes → Nat
  | [] => 0
  | b :: rest => b.toNat + 256 * toNatLE rest

/-- `len` bytes from position `start`, if they all lie inside. -/
def slice? (bytes : Bytes) (start len : Nat) : Option Bytes :=
  if start + len ≤ bytes.length then some ((bytes.drop start).take len) else none

/-- The little-endian number in `width` bytes at `start`. -/
def readLE? (bytes : Bytes) (start width : Nat) : Option Nat :=
  (bytes.slice? start width).map toNatLE

/-- At most `len` bytes, filled up with zero bytes to exactly `len`. -/
def padTo (bytes : Bytes) (len : Nat) : Bytes :=
  bytes.take len ++ List.replicate (len - bytes.length) 0

@[simp] theorem length_ofNatLE (width n : Nat) : (ofNatLE width n).length = width := by
  induction width generalizing n with
  | zero => rfl
  | succ width ih => simp [ofNatLE, ih]

@[simp] theorem length_padTo (bytes : Bytes) (len : Nat) : (bytes.padTo len).length = len := by
  simp only [padTo, List.length_append, List.length_take, List.length_replicate]
  omega

/-- Reading back `width` little-endian bytes gives the number modulo their range. -/
theorem toNatLE_ofNatLE (width n : Nat) : toNatLE (ofNatLE width n) = n % Nat.pow 256 width := by
  induction width generalizing n with
  | zero => simp [ofNatLE, toNatLE, Nat.mod_one]
  | succ width ih =>
    have hb : (UInt8.ofNat n).toNat = n % 256 := by simp [UInt8.toNat_ofNat']
    have hp : Nat.pow 256 (width + 1) = 256 * Nat.pow 256 width := Nat.mul_comm _ _
    rw [ofNatLE, toNatLE, ih, hb, hp, Nat.mod_mul]

/-- A slice that exists has the length that was asked for. -/
theorem length_of_slice? {bytes part : Bytes} {start len : Nat}
    (h : bytes.slice? start len = some part) : part.length = len := by
  unfold slice? at h
  split at h
  · cases h
    simp only [List.length_take, List.length_drop]
    omega
  · cases h

end Bytes

end HttpClient
