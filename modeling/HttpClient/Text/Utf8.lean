import HttpClient.Bytes

/-!
# UTF-8

Encoding, and the lossy decoding in which every maximal part of a broken sequence becomes
one replacement character.
-/

namespace HttpClient.Utf8

/-- The character that stands for what cannot be decoded. -/
def replacement : Char := '\uFFFD'

/-- The bytes of a text. -/
def encode (s : String) : Bytes := s.toList.flatMap String.utf8EncodeChar

/-- Bytes after the first of a sequence. -/
def isTail (b : UInt8) : Bool := 0x80 ≤ b && b ≤ 0xBF

/-- What the second byte may be after a given first byte. -/
def isSecond (first b : UInt8) : Bool :=
  if first = 0xE0 then 0xA0 ≤ b && b ≤ 0xBF
  else if first = 0xED then 0x80 ≤ b && b ≤ 0x9F
  else if first = 0xF0 then 0x90 ≤ b && b ≤ 0xBF
  else if first = 0xF4 then 0x80 ≤ b && b ≤ 0x8F
  else isTail b

/-- How many bytes follow a first byte, if it can start a longer sequence. -/
def tailCount? (first : UInt8) : Option Nat :=
  if 0xC2 ≤ first ∧ first ≤ 0xDF then some 1
  else if 0xE0 ≤ first ∧ first ≤ 0xEF then some 2
  else if 0xF0 ≤ first ∧ first ≤ 0xF4 then some 3
  else none

/-- The payload bits of the bytes after the first, shifted onto `high`. -/
def joinTail (high : Nat) (tail : Bytes) : Nat :=
  tail.foldl (fun n b => n * 64 + b.toNat % 64) high

/-- How many of the next `count` bytes belong to the sequence begun by `first`. -/
def matching (first : UInt8) (count : Nat) (rest : Bytes) : Nat :=
  match rest with
  | [] => 0
  | b :: rest =>
    if isSecond first b then 1 + ((rest.take (count - 1)).takeWhile isTail).length else 0

/-- The characters of bytes that need not be well formed. -/
def decodeLossyChars : Bytes → List Char
  | [] => []
  | first :: rest =>
    if first < 0x80 then Char.ofNat first.toNat :: decodeLossyChars rest
    else
      match tailCount? first with
      | none => replacement :: decodeLossyChars rest
      | some count =>
        let found := matching first count rest
        let c :=
          if found = count then
            Char.ofNat (joinTail (first.toNat % Nat.pow 2 (6 - count)) (rest.take count))
          else replacement
        c :: decodeLossyChars (rest.drop found)
  termination_by bytes => bytes.length
  decreasing_by all_goals simp only [List.length_cons, List.length_drop]; omega

/-- The text of bytes that need not be well formed. -/
def decodeLossy (bytes : Bytes) : String := String.ofList (decodeLossyChars bytes)

/-- ASCII text is its own encoding. -/
theorem encode_ofList_ascii {cs : List Char} (h : ∀ c ∈ cs, c.toNat < 128) :
    encode (String.ofList cs) = cs.map fun c => UInt8.ofNat c.toNat := by
  simp only [encode, String.toList_ofList]
  induction cs with
  | nil => rfl
  | cons c rest ih =>
    have hc : c.toNat < 128 := h c (by simp)
    have he : String.utf8EncodeChar c = [UInt8.ofNat c.toNat] := by
      unfold String.utf8EncodeChar
      have : c.val.toNat ≤ 127 := Nat.le_of_lt_succ hc
      simp only [this, if_true]
      rfl
    rw [List.flatMap_cons, he, ih (fun x hx => h x (by simp [hx]))]
    rfl

end HttpClient.Utf8
