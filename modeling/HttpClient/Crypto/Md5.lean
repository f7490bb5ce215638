import HttpClient.Crypto.Block

/-!
# MD5

Four rounds of sixteen operations, each with a constant of its own.
-/

namespace HttpClient.Md5

open Block

/-- The constants of the sixty-four operations: the leading bits of sines. -/
def sines : Array UInt32 := #[
    0xd76aa478, 0xe8c7b756, 0x242070db, 0xc1bdceee, 0xf57c0faf, 0x4787c62a, 0xa8304613,
    0xfd469501, 0x698098d8, 0x8b44f7af, 0xffff5bb1, 0x895cd7be, 0x6b901122, 0xfd987193,
    0xa679438e, 0x49b40821, 0xf61e2562, 0xc040b340, 0x265e5a51, 0xe9b6c7aa, 0xd62f105d,
    0x02441453, 0xd8a1e681, 0xe7d3fbc8, 0x21e1cde6, 0xc33707d6, 0xf4d50d87, 0x455a14ed,
    0xa9e3e905, 0xfcefa3f8, 0x676f02d9, 0x8d2a4c8a, 0xfffa3942, 0x8771f681, 0x6d9d6122,
    0xfde5380c, 0xa4beea44, 0x4bdecfa9, 0xf6bb4b60, 0xbebfbc70, 0x289b7ec6, 0xeaa127fa,
    0xd4ef3085, 0x04881d05, 0xd9d4d039, 0xe6db99e5, 0x1fa27cf8, 0xc4ac5665, 0xf4292244,
    0x432aff97, 0xab9423a7, 0xfc93a039, 0x655b59c3, 0x8f0ccc92, 0xffeff47d, 0x85845dd1,
    0x6fa87e4f, 0xfe2ce6e0, 0xa3014314, 0x4e0811a1, 0xf7537e82, 0xbd3af235, 0x2ad7d2bb,
    0xeb86d391]

/-- The four rotations of a round. -/
def shifts : Nat → List UInt32
  | 0 => [7, 12, 17, 22]
  | 1 => [5, 9, 14, 20]
  | 2 => [4, 11, 16, 23]
  | _ => [6, 10, 15, 21]

/-- The word that operation `i` of a round reads. -/
def word : Nat → Nat → Nat
  | 0, i => i
  | 1, i => (5 * i + 1) % 16
  | 2, i => (3 * i + 5) % 16
  | _, i => 7 * i % 16

/-- The mixing function of a round. -/
def mix : Nat → UInt32 → UInt32 → UInt32 → UInt32
  | 0, x, y, z => (x &&& y) ||| (~~~x &&& z)
  | 1, x, y, z => (x &&& z) ||| (y &&& ~~~z)
  | 2, x, y, z => x ^^^ y ^^^ z
  | _, x, y, z => y ^^^ (x ||| ~~~z)

/-- One operation; the four words of the state change places. -/
def apply (block : Array UInt32) (s : State) (r i : Nat) (shift : UInt32) : State :=
  let sum := s.a + mix r s.b s.c s.d + block.getD (word r i) 0 + sines.getD (16 * r + i) 0
  ⟨s.d, s.b + rotate sum shift, s.b, s.c⟩

/-- The sixteen operations of a round. -/
def round (block : Array UInt32) (s : State) (r : Nat) : State :=
  let turns := (List.range 16).zip (List.replicate 4 (shifts r)).flatten
  turns.foldl (fun s turn => apply block s r turn.1 turn.2) s

/-- The change that a block makes to the state. -/
def compress (s : State) (block : Array UInt32) : State :=
  [0, 1, 2, 3].foldl (round block) s

/-- The MD5 digest of a message. -/
def hash (message : Bytes) : Bytes := digest compress message

@[simp] theorem length_hash (message : Bytes) : (hash message).length = 16 := length_digest ..

end HttpClient.Md5
