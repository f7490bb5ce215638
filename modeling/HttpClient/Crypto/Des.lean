import HttpClient.Bytes

/-!
# DES

The block cipher on lists of bits, first bit most significant, and the spreading of 56 key
bits over eight bytes of odd parity.
-/

namespace HttpClient.Des

/-- The bits of a byte, most significant first. -/
def bitsOfByte (b : UInt8) : List Bool :=
  (List.range 8).map fun i => b.toNat.testBit (7 - i)

/-- The bits of a byte string. -/
def bits (bytes : Bytes) : List Bool := bytes.flatMap bitsOfByte

/-- The number written by bits, most significant first. -/
def number (bs : List Bool) : Nat := bs.foldl (fun n b => 2 * n + b.toNat) 0

/-- The first `count` bytes written by bits. -/
def bytesOfBits : (count : Nat) → List Bool → Bytes
  | 0, _ => []
  | count + 1, bs => UInt8.ofNat (number (bs.take 8)) :: bytesOfBits count (bs.drop 8)

/-- The selection of bits by a table of positions, counted from one. -/
def select (table : List Nat) (bs : List Bool) : List Bool :=
  let arr := bs.toArray
  table.map fun i => arr.getD (i - 1) false

/-- Bit by bit exclusive or. -/
def xor (a b : List Bool) : List Bool := List.zipWith Bool.xor a b

/-- The order in which a block enters the rounds. -/
def initialOrder : List Nat := [
    58, 50, 42, 34, 26, 18, 10, 2, 60, 52, 44, 36, 28, 20, 12, 4, 62, 54, 46, 38, 30, 22, 14, 6,
    64, 56, 48, 40, 32, 24, 16, 8, 57, 49, 41, 33, 25, 17, 9, 1, 59, 51, 43, 35, 27, 19, 11, 3,
    61, 53, 45, 37, 29, 21, 13, 5, 63, 55, 47, 39, 31, 23, 15, 7]

/-- The order in which a block leaves the rounds. -/
def finalOrder : List Nat := [
    40, 8, 48, 16, 56, 24, 64, 32, 39, 7, 47, 15, 55, 23, 63, 31, 38, 6, 46, 14, 54, 22, 62, 30,
    37, 5, 45, 13, 53, 21, 61, 29, 36, 4, 44, 12, 52, 20, 60, 28, 35, 3, 43, 11, 51, 19, 59, 27,
    34, 2, 42, 10, 50, 18, 58, 26, 33, 1, 41, 9, 49, 17, 57, 25]

/-- The bits of a half block that meet the round key, some twice. -/
def expansion : List Nat := [
    32, 1, 2, 3, 4, 5, 4, 5, 6, 7, 8, 9, 8, 9, 10, 11, 12, 13, 12, 13, 14, 15, 16, 17, 16, 17,
    18, 19, 20, 21, 20, 21, 22, 23, 24, 25, 24, 25, 26, 27, 28, 29, 28, 29, 30, 31, 32, 1]

/-- The order of the substituted bits. -/
def roundOrder : List Nat := [
    16, 7, 20, 21, 29, 12, 28, 17, 1, 15, 23, 26, 5, 18, 31, 10, 2, 8, 24, 14, 32, 27, 3, 9, 19,
    13, 30, 6, 22, 11, 4, 25]

/-- The key bits in use, for the left half and then for the right. -/
def keyOrder : List Nat := [
    57, 49, 41, 33, 25, 17, 9, 1, 58, 50, 42, 34, 26, 18, 10, 2, 59, 51, 43, 35, 27, 19, 11, 3,
    60, 52, 44, 36, 63, 55, 47, 39, 31, 23, 15, 7, 62, 54, 46, 38, 30, 22, 14, 6, 61, 53, 45,
    37, 29, 21, 13, 5, 28, 20, 12, 4]

/-- The bits of the turned key that make a round key. -/
def roundKeyOrder : List Nat := [
    14, 17, 11, 24, 1, 5, 3, 28, 15, 6, 21, 10, 23, 19, 12, 4, 26, 8, 16, 7, 27, 20, 13, 2, 41,
    52, 31, 37, 47, 55, 30, 40, 51, 45, 33, 48, 44, 49, 39, 56, 34, 53, 46, 42, 50, 36, 29, 32]

/-- The substitution boxes, four rows of sixteen each. -/
def boxes : List (Array Nat) := [
  #[14, 4, 13, 1, 2, 15, 11, 8, 3, 10, 6, 12, 5, 9, 0, 7, 0, 15, 7, 4, 14, 2, 13, 1, 10, 6, 12,
    11, 9, 5, 3, 8, 4, 1, 14, 8, 13, 6, 2, 11, 15, 12, 9, 7, 3, 10, 5, 0, 15, 12, 8, 2, 4, 9, 1,
    7, 5, 11, 3, 14, 10, 0, 6, 13],
  #[15, 1, 8, 14, 6, 11, 3, 4, 9, 7, 2, 13, 12, 0, 5, 10, 3, 13, 4, 7, 15, 2, 8, 14, 12, 0, 1,
    10, 6, 9, 11, 5, 0, 14, 7, 11, 10, 4, 13, 1, 5, 8, 12, 6, 9, 3, 2, 15, 13, 8, 10, 1, 3, 15,
    4, 2, 11, 6, 7, 12, 0, 5, 14, 9],
  #[10, 0, 9, 14, 6, 3, 15, 5, 1, 13, 12, 7, 11, 4, 2, 8, 13, 7, 0, 9, 3, 4, 6, 10, 2, 8, 5, 14,
    12, 11, 15, 1, 13, 6, 4, 9, 8, 15, 3, 0, 11, 1, 2, 12, 5, 10, 14, 7, 1, 10, 13, 0, 6, 9, 8,
    7, 4, 15, 14, 3, 11, 5, 2, 12],
  #[7, 13, 14, 3, 0, 6, 9, 10, 1, 2, 8, 5, 11, 12, 4, 15, 13, 8, 11, 5, 6, 15, 0, 3, 4, 7, 2,
    12, 1, 10, 14, 9, 10, 6, 9, 0, 12, 11, 7, 13, 15, 1, 3, 14, 5, 2, 8, 4, 3, 15, 0, 6, 10, 1,
    13, 8, 9, 4, 5, 11, 12, 7, 2, 14],
  #[2, 12, 4, 1, 7, 10, 11, 6, 8, 5, 3, 15, 13, 0, 14, 9, 14, 11, 2, 12, 4, 7, 13, 1, 5, 0, 15,
    10, 3, 9, 8, 6, 4, 2, 1, 11, 10, 13, 7, 8, 15, 9, 12, 5, 6, 3, 0, 14, 11, 8, 12, 7, 1, 14,
    2, 13, 6, 15, 0, 9, 10, 4, 5, 3],
  #[12, 1, 10, 15, 9, 2, 6, 8, 0, 13, 3, 4, 14, 7, 5, 11, 10, 15, 4, 2, 7, 12, 9, 5, 6, 1, 13,
    14, 0, 11, 3, 8, 9, 14, 15, 5, 2, 8, 12, 3, 7, 0, 4, 10, 1, 13, 11, 6, 4, 3, 2, 12, 9, 5,
    15, 10, 11, 14, 1, 7, 6, 0, 8, 13],
  #[4, 11, 2, 14, 15, 0, 8, 13, 3, 12, 9, 7, 5, 10, 6, 1, 13, 0, 11, 7, 4, 9, 1, 10, 14, 3, 5,
    12, 2, 15, 8, 6, 1, 4, 11, 13, 12, 3, 7, 14, 10, 15, 6, 8, 0, 5, 9, 2, 6, 11, 13, 8, 1, 4,
    10, 7, 9, 5, 0, 15, 14, 2, 3, 12],
  #[13, 2, 8, 4, 6, 15, 11, 1, 10, 9, 3, 14, 5, 0, 12, 7, 1, 15, 13, 8, 10, 3, 7, 4, 12, 5, 6,
    11, 0, 14, 9, 2, 7, 11, 4, 1, 9, 12, 14, 2, 0, 6, 10, 13, 15, 3, 5, 8, 2, 1, 14, 7, 4, 10,
    8, 13, 15, 12, 9, 0, 3, 5, 6, 11]]

/-- How far the key halves turn before each round. -/
def turns : List Nat := [1, 1, 2, 2, 2, 2, 2, 2, 1, 2, 2, 2, 2, 2, 2, 1]

/-- Four bits for six: the outer two choose the row, the inner four the column. -/
def substitute (box : Array Nat) (six : List Bool) : List Bool :=
  let row := number (six.take 1 ++ six.drop 5)
  let column := number ((six.drop 1).take 4)
  let n := box.getD (16 * row + column) 0
  (List.range 4).map fun i => n.testBit (3 - i)

/-- The substitutions of consecutive groups of six bits. -/
def substituteAll : List (Array Nat) → List Bool → List Bool
  | [], _ => []
  | box :: boxes, bs => substitute box (bs.take 6) ++ substituteAll boxes (bs.drop 6)

/-- The function of a round on a half block. -/
def mix (half key : List Bool) : List Bool :=
  select roundOrder (substituteAll boxes (xor (select expansion half) key))

/-- The keys of the sixteen rounds. -/
def roundKeys (key : Bytes) : List (List Bool) :=
  let start := select keyOrder (bits key)
  let step := fun (acc : List (List Bool) × List Bool × List Bool) (n : Nat) =>
    let left := acc.2.1.drop n ++ acc.2.1.take n
    let right := acc.2.2.drop n ++ acc.2.2.take n
    (acc.1 ++ [select roundKeyOrder (left ++ right)], left, right)
  (turns.foldl step ([], start.take 28, start.drop 28)).1

/-- Encrypts a block of eight bytes under a key of eight bytes. -/
def encrypt (key block : Bytes) : Bytes :=
  let start := select initialOrder (bits block)
  let halves := (roundKeys key).foldl
    (fun (lr : List Bool × List Bool) k => (lr.2, xor lr.1 (mix lr.2 k)))
    (start.take 32, start.drop 32)
  bytesOfBits 8 (select finalOrder (halves.2 ++ halves.1))

/-- The byte with its lowest bit chosen so that the number of one bits is odd. -/
def withOddParity (b : UInt8) : UInt8 :=
  if ((bitsOfByte b).take 7).countP id % 2 == 0 then b ||| 1 else b &&& 0xfe

/-- Eight bytes whose upper seven bits are the 56 bits of a key part, in order. -/
def spread : Bytes → Bytes
  | [k0, k1, k2, k3, k4, k5, k6] =>
    [k0, (k0 <<< 7) ||| (k1 >>> 1), (k1 <<< 6) ||| (k2 >>> 2), (k2 <<< 5) ||| (k3 >>> 3),
      (k3 <<< 4) ||| (k4 >>> 4), (k4 <<< 3) ||| (k5 >>> 5), (k5 <<< 2) ||| (k6 >>> 6), k6 <<< 1]
  | _ => []

/-- The key of eight bytes made from a part of seven. -/
def keyOfSeven (part : Bytes) : Bytes := (spread part).map withOddParity

/-- Encrypts a block under a key part of seven bytes. -/
def encryptSeven (part block : Bytes) : Bytes := encrypt (keyOfSeven part) block

@[simp] theorem length_bytesOfBits (count : Nat) (bs : List Bool) :
    (bytesOfBits count bs).length = count := by
  induction count generalizing bs with
  | zero => rfl
  | succ count ih => simp [bytesOfBits, ih]

end HttpClient.Des
