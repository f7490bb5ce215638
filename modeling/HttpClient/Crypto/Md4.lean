import HttpClient.Crypto.Block

/-!
# MD4

Three rounds of sixteen operations on the chaining state.
-/

namespace HttpClient.Md4

open Block

/-- The order in which a round reads the words of a block. -/
def order : Nat → List Nat
  | 0 => [0, 1, 2, 3, 4, 5, 6, 7, 8, 9, 10, 11, 12, 13, 14, 15]
  | 1 => [0, 4, 8, 12, 1, 5, 9, 13, 2, 6, 10, 14, 3, 7, 11, 15]
  | _ => [0, 8, 4, 12, 2, 10, 6, 14, 1, 9, 5, 13, 3, 11, 7, 15]

/-- The four rotations of a round. -/
def shifts : Nat → List UInt32
  | 0 => [3, 7, 11, 19]
  | 1 => [3, 5, 9, 13]
  | _ => [3, 9, 11, 15]

/-- The constant of a round. -/
def constant : Nat → UInt32
  | 0 => 0
  | 1 => 0x5a827999
  | _ => 0x6ed9eba1

/-- Choice, majority and parity of three words. -/
def mix : Nat → UInt32 → UInt32 → UInt32 → UInt32
  | 0, x, y, z => (x &&& y) ||| (~~~x &&& z)
  | 1, x, y, z => (x &&& y) ||| (x &&& z) ||| (y &&& z)
  | _, x, y, z => x ^^^ y ^^^ z

/-- One operation; the four words of the state change places. -/
def apply (round : Nat) (block : Array UInt32) (s : State) (word : Nat) (shift : UInt32) : State :=
  let sum := s.a + mix round s.b s.c s.d + block.getD word 0 + constant round
  ⟨s.d, rotate sum shift, s.b, s.c⟩

/-- The sixteen operations of a round. -/
def round (block : Array UInt32) (s : State) (r : Nat) : State :=
  let turns := (order r).zip (List.replicate 4 (shifts r)).flatten
  turns.foldl (fun s turn => apply r block s turn.1 turn.2) s

/-- The change that a block makes to the state. -/
def compress (s : State) (block : Array UInt32) : State :=
  [0, 1, 2].foldl (round block) s

/-- The MD4 digest of a message. -/
def hash (message : Bytes) : Bytes := digest compress message

end HttpClient.Md4
