import HttpClient.Bytes

/-!
# Block hashing

What the two message digests share: a message is closed by a one bit, zeros and its length
in bits, cut into blocks of sixteen little-endian words, and folded into a state of four words.
-/

namespace HttpClient.Block

/-- The chaining state of a digest. -/
structure State where
  a : UInt32
  b : UInt32
  c : UInt32
  d : UInt32
  deriving DecidableEq, Repr

/-- The state every message starts from. -/
def State.start : State := ⟨0x67452301, 0xefcdab89, 0x98badcfe, 0x10325476⟩

/-- Word by word addition. -/
def State.add (s t : State) : State := ⟨s.a + t.a, s.b + t.b, s.c + t.c, s.d + t.d⟩

/-- The digest, low byte of each word first. -/
def State.bytes (s : State) : Bytes :=
  [s.a, s.b, s.c, s.d].flatMap fun w => Bytes.ofNatLE 4 w.toNat

/-- The first `count` pieces of `size` elements. -/
def pieces {α : Type} (size : Nat) : (count : Nat) → List α → List (List α)
  | 0, _ => []
  | count + 1, xs => xs.take size :: pieces size count (xs.drop size)

/-- A message with its closing bit, zeros and length in bits, a multiple of 64 bytes. -/
def pad (message : Bytes) : Bytes :=
  let zeros := (119 - message.length % 64) % 64
  message ++ [0x80] ++ List.replicate zeros 0 ++ Bytes.ofNatLE 8 (8 * message.length)

/-- The words of a block. -/
def words (block : Bytes) : Array UInt32 :=
  ((pieces 4 16 block).map fun word => UInt32.ofNat (Bytes.toNatLE word)).toArray

/-- Rotation to the left by fewer than 32 bits. -/
def rotate (w : UInt32) (count : UInt32) : UInt32 := (w <<< count) ||| (w >>> (32 - count))

/-- Folds a padded message into the start state with a compression function. -/
def digest (compress : State → Array UInt32 → State) (message : Bytes) : Bytes :=
  let padded := pad message
  let final := (pieces 64 (padded.length / 64) padded).foldl
    (fun s block => s.add (compress s (words block))) State.start
  final.bytes

@[simp] theorem State.length_bytes (s : State) : s.bytes.length = 16 := by
  simp [State.bytes]

/-- A digest has sixteen bytes whatever the message is. -/
@[simp] theorem length_digest (compress : State → Array UInt32 → State) (message : Bytes) :
    (digest compress message).length = 16 := by
  simp [digest]

end HttpClient.Block
