import HttpClient.Proofs.Auth.Ntlm.Buffers

/-!
# Keys and responses by a block function

A part of seven bytes becomes a key of eight: seven bits of the part and one bit of parity in each
byte. The upper bits of the key are the bits of the part in order, so no two parts have one key.
A response is made of three blocks, one for each part of the hash behind which zeros were put.
-/

namespace HttpClient

namespace Des

@[simp] theorem length_bitsOfByte (b : UInt8) : (bitsOfByte b).length = 8 := by
  simp only [bitsOfByte, List.length_map, List.length_range]

@[simp] theorem getElem_bitsOfByte (b : UInt8) (i : Nat) (h : i < (bitsOfByte b).length) :
    (bitsOfByte b)[i] = b.toNat.testBit (7 - i) := by
  simp only [bitsOfByte, List.getElem_map, List.getElem_range]

/-- A byte has no bits but eight. -/
theorem testBit_of_le (b : UInt8) {j : Nat} (h : 8 ≤ j) : b.toNat.testBit j = false :=
  Nat.testBit_lt_two_pow (Nat.lt_of_lt_of_le b.toNat_lt (Nat.pow_le_pow_right (by decide) h))

/-- Bit by bit, a byte is settled. -/
theorem bitsOfByte_injective {a b : UInt8} (h : bitsOfByte a = bitsOfByte b) : a = b := by
  refine UInt8.toNat_inj.mp (Nat.eq_of_testBit_eq fun j => ?_)
  rcases Nat.lt_or_ge j 8 with hj | hj
  · have hbit := congrArg (·[7 - j]?) h
    have hlen : 7 - j < 8 := by omega
    simpa only [List.getElem?_eq_getElem, length_bitsOfByte, hlen, getElem_bitsOfByte,
      Nat.sub_sub_self (Nat.le_of_lt_succ hj), Option.some.injEq] using hbit
  · rw [testBit_of_le a hj, testBit_of_le b hj]

theorem bits_cons (b : UInt8) (bytes : Bytes) : bits (b :: bytes) = bitsOfByte b ++ bits bytes :=
  List.flatMap_cons

theorem bits_injective {p q : Bytes} (h : bits p = bits q) : p = q := by
  have hne : ∀ (b : UInt8) (bytes : Bytes), bits (b :: bytes) ≠ [] := fun b bytes hnil => by
    have hlen := congrArg List.length hnil
    simp [bits_cons] at hlen
  induction p generalizing q with
  | nil =>
    cases q with
    | nil => rfl
    | cons b q => exact absurd h.symm (hne b q)
  | cons a p ih =>
    cases q with
    | nil => exact absurd h (hne a p)
    | cons b q =>
      rw [bits_cons, bits_cons] at h
      obtain ⟨hbyte, hrest⟩ := List.append_inj h (by rw [length_bitsOfByte, length_bitsOfByte])
      rw [bitsOfByte_injective hbyte, ih hrest]

section

variable {s t : UInt8}

theorem testBit_straddle (a b : UInt8) (hs : s.toNat < 8) (ht : t.toNat < 8) {j : Nat}
    (hj : j < 8) : ((a <<< s) ||| (b >>> t)).toNat.testBit j =
      (decide (s.toNat ≤ j) && a.toNat.testBit (j - s.toNat) ||
        b.toNat.testBit (t.toNat + j)) := by
  simp only [UInt8.toNat_or, Nat.testBit_or, UInt8.toNat_shiftLeft, UInt8.toNat_shiftRight,
    Nat.mod_eq_of_lt hs, Nat.mod_eq_of_lt ht, Nat.testBit_mod_two_pow, hj, decide_true,
    Bool.true_and, Nat.testBit_shiftLeft, Nat.testBit_shiftRight, ge_iff_le]

/-- A byte that straddles two others begins with the lower bits of the one and goes on with the
upper bits of the other. Its own lowest bit is left for the parity. -/
theorem take_straddle (a b : UInt8) (hs : s.toNat < 8) (ht : t.toNat < 8)
    (hst : s.toNat + t.toNat = 8) :
    (bitsOfByte ((a <<< s) ||| (b >>> t))).take 7 =
      (bitsOfByte a).drop s.toNat ++ (bitsOfByte b).take (s.toNat - 1) := by
  have hlen : ((bitsOfByte a).drop s.toNat).length = 8 - s.toNat := by
    rw [List.length_drop, length_bitsOfByte]
  refine List.ext_getElem ?_ fun i hi _ => ?_
  · simp only [List.length_take, List.length_append, hlen, length_bitsOfByte]
    omega
  · rw [List.length_take, length_bitsOfByte] at hi
    rw [List.getElem_take, getElem_bitsOfByte, testBit_straddle a b hs ht (by omega)]
    by_cases hfirst : i < 8 - s.toNat
    · have hb : b.toNat.testBit (t.toNat + (7 - i)) = false := testBit_of_le b (by omega)
      have ha : 7 - i - s.toNat = 7 - (s.toNat + i) := by omega
      have hshift : s.toNat ≤ 7 - i := by omega
      rw [List.getElem_append_left (by rw [hlen]; exact hfirst), List.getElem_drop,
        getElem_bitsOfByte, hb, ha]
      simp only [hshift, decide_true, Bool.true_and, Bool.or_false]
    · have hshift : ¬ s.toNat ≤ 7 - i := by omega
      have hb : 7 - (i - (8 - s.toNat)) = t.toNat + (7 - i) := by omega
      rw [List.getElem_append_right (by rw [hlen]; omega), List.getElem_take, getElem_bitsOfByte]
      simp only [hlen, hb, hshift, decide_false, Bool.false_and, Bool.false_or]

end

/-- The upper bits of the spread bytes are the bits of the part, one after the other. -/
theorem upper_spread {part : Bytes} (h : part.length = 7) :
    (spread part).flatMap (fun b => (bitsOfByte b).take 7) = bits part := by
  match part, h with
  | [k0, k1, k2, k3, k4, k5, k6], _ =>
    -- No eighth byte follows, which is as if it were zero.
    have hlast : k6 <<< 1 = (k6 <<< 1) ||| ((0 : UInt8) >>> 7) := by simp
    have hjoin : ∀ (n : Nat) (b : UInt8) (rest : List Bool),
        (bitsOfByte b).take n ++ ((bitsOfByte b).drop n ++ rest) = bitsOfByte b ++ rest :=
      fun n b rest => by rw [← List.append_assoc, List.take_append_drop]
    simp only [spread, bits, List.flatMap_cons, List.flatMap_nil, List.append_nil]
    rw [hlast, take_straddle k0 k1 (by decide) (by decide) (by decide),
      take_straddle k1 k2 (by decide) (by decide) (by decide),
      take_straddle k2 k3 (by decide) (by decide) (by decide),
      take_straddle k3 k4 (by decide) (by decide) (by decide),
      take_straddle k4 k5 (by decide) (by decide) (by decide),
      take_straddle k5 k6 (by decide) (by decide) (by decide),
      take_straddle k6 0 (by decide) (by decide) (by decide)]
    simp only [UInt8.reduceToNat, Nat.reduceSub, List.take_zero, List.append_nil,
      List.append_assoc, hjoin, List.take_append_drop]

/-- Two bytes that agree but for the lowest bit. -/
theorem bitsOfByte_eq_of_upper {b c : UInt8}
    (h : ∀ j < 8, 0 < j → c.toNat.testBit j = b.toNat.testBit j) :
    bitsOfByte c = (bitsOfByte b).take 7 ++ [c.toNat.testBit 0] := by
  have hlen : ((bitsOfByte b).take 7).length = 7 := by
    rw [List.length_take, length_bitsOfByte, Nat.min_eq_left (by decide)]
  refine List.ext_getElem (by simp [hlen]) fun i hi _ => ?_
  rw [length_bitsOfByte] at hi
  rw [getElem_bitsOfByte]
  rcases Nat.lt_or_ge i 7 with hupper | hlowest
  · rw [List.getElem_append_left (by rw [hlen]; exact hupper), List.getElem_take,
      getElem_bitsOfByte, h (7 - i) (by omega) (by omega)]
  · obtain rfl : i = 7 := by omega
    have hlast : ((bitsOfByte b).take 7).length ≤ 7 := Nat.le_of_eq hlen
    rw [List.getElem_append_right hlast]
    simp only [hlen, Nat.sub_self, List.getElem_cons_zero]

theorem bitsOfByte_or_one (b : UInt8) : bitsOfByte (b ||| 1) = (bitsOfByte b).take 7 ++ [true] := by
  have hmask : ∀ j < 8, 0 < j → Nat.testBit 1 j = false := by decide
  have hupper : ∀ j < 8, 0 < j → (b ||| 1).toNat.testBit j = b.toNat.testBit j :=
    fun j hj hpos => by
      rw [UInt8.toNat_or, Nat.testBit_or, UInt8.toNat_one, hmask j hj hpos, Bool.or_false]
  have hlowest : (b ||| 1).toNat.testBit 0 = true := by
    rw [UInt8.toNat_or, Nat.testBit_or]
    exact Bool.or_true _
  rw [bitsOfByte_eq_of_upper hupper, hlowest]

theorem bitsOfByte_and_254 (b : UInt8) :
    bitsOfByte (b &&& 0xfe) = (bitsOfByte b).take 7 ++ [false] := by
  have hmask : ∀ j < 8, 0 < j → Nat.testBit 254 j = true := by decide
  have hupper : ∀ j < 8, 0 < j → (b &&& 0xfe).toNat.testBit j = b.toNat.testBit j :=
    fun j hj hpos => by
      rw [UInt8.toNat_and, Nat.testBit_and]
      exact (congrArg (b.toNat.testBit j && ·) (hmask j hj hpos)).trans (Bool.and_true _)
  have hlowest : (b &&& 0xfe).toNat.testBit 0 = false := by
    rw [UInt8.toNat_and, Nat.testBit_and]
    exact Bool.and_false _
  rw [bitsOfByte_eq_of_upper hupper, hlowest]

/-- Only the lowest bit is chosen by the parity. -/
theorem bitsOfByte_withOddParity (b : UInt8) : ∃ lowest : Bool,
    bitsOfByte (withOddParity b) = (bitsOfByte b).take 7 ++ [lowest] ∧
      (((bitsOfByte b).take 7).countP id + lowest.toNat) % 2 = 1 := by
  unfold withOddParity
  split
  · next heven =>
    refine ⟨true, bitsOfByte_or_one b, ?_⟩
    have := beq_iff_eq.mp heven
    simp only [Bool.toNat_true]
    omega
  · next hodd =>
    refine ⟨false, bitsOfByte_and_254 b, ?_⟩
    have : ¬ ((bitsOfByte b).take 7).countP id % 2 = 0 := fun h => hodd (beq_iff_eq.mpr h)
    simp only [Bool.toNat_false]
    omega

/-- What a key has to be to carry a part of 56 bits. -/
structure Carries (key part : Bytes) : Prop where
  length : key.length = 8
  /-- The number of one bits of every byte is odd. -/
  odd : ∀ b ∈ key, (bitsOfByte b).countP id % 2 = 1
  /-- The upper seven bits of each byte make up the part, in order. -/
  upper : key.flatMap (fun b => (bitsOfByte b).take 7) = bits part

theorem carries_keyOfSeven {part : Bytes} (h : part.length = 7) :
    Carries (keyOfSeven part) part where
  length := by
    match part, h with
    | [_, _, _, _, _, _, _], _ => rfl
  odd := by
    intro byte hbyte
    obtain ⟨b, -, rfl⟩ := List.mem_map.mp hbyte
    obtain ⟨lowest, hbits, hodd⟩ := bitsOfByte_withOddParity b
    rw [hbits, List.countP_append]
    cases lowest <;> exact hodd
  upper := by
    have hkept : ∀ b, (bitsOfByte (withOddParity b)).take 7 = (bitsOfByte b).take 7 := fun b => by
      obtain ⟨lowest, hbits, -⟩ := bitsOfByte_withOddParity b
      rw [hbits]
      simp
    rw [keyOfSeven, List.flatMap_map, ← upper_spread h]
    simp only [hkept]

/-- No two parts have one key. -/
theorem Carries.part_unique {key p q : Bytes} (hp : Carries key p) (hq : Carries key q) : p = q :=
  bits_injective (hp.upper.symm.trans hq.upper)

@[simp] theorem length_encrypt (key block : Bytes) : (encrypt key block).length = 8 :=
  length_bytesOfBits 8 _

end Des

namespace Block

/-- The pieces stand in the list one behind the other. -/
theorem getElem?_pieces {α : Type} (size : Nat) {count i : Nat} (xs : List α) (h : i < count) :
    (pieces size count xs)[i]? = some ((xs.drop (size * i)).take size) := by
  induction count generalizing xs i with
  | zero => cases h
  | succ count ih =>
    cases i with
    | zero => rfl
    | succ i =>
      rw [pieces, List.getElem?_cons_succ, ih (xs.drop size) (Nat.lt_of_succ_lt_succ h),
        List.drop_drop, Nat.mul_succ, Nat.add_comm]

@[simp] theorem length_pieces {α : Type} (size count : Nat) (xs : List α) :
    (pieces size count xs).length = count := by
  induction count generalizing xs with
  | zero => rfl
  | succ count ih => rw [pieces, List.length_cons, ih]

end Block

namespace Bytes

variable {parts : List Bytes} {f : Bytes → Bytes} {width : Nat}

/-- What is made of parts, all of one width, fills whole widths. -/
theorem length_flatMap_of_width (h : ∀ part ∈ parts, (f part).length = width) :
    (parts.flatMap f).length = width * parts.length := by
  induction parts with
  | nil => rfl
  | cons part parts ih =>
    obtain ⟨hfirst, hrest⟩ := List.forall_mem_cons.mp h
    rw [List.flatMap_cons, List.length_append, hfirst, ih hrest, List.length_cons, Nat.mul_succ,
      Nat.add_comm]

/-- What is made of a part stands as many widths behind the start as parts go before it. -/
theorem slice?_flatMap_of_width (h : ∀ part ∈ parts, (f part).length = width) {i : Nat}
    {part : Bytes} (hpart : parts[i]? = some part) :
    slice? (parts.flatMap f) (width * i) width = some (f part) := by
  induction parts generalizing i with
  | nil => cases hpart
  | cons first parts ih =>
    obtain ⟨hfirst, hrest⟩ := List.forall_mem_cons.mp h
    rw [List.flatMap_cons]
    cases i with
    | zero =>
      obtain rfl := Option.some.inj hpart
      exact slice?_of_prefix [] (List.prefix_append _ _) rfl hfirst
    | succ i =>
      rw [Nat.mul_succ, Nat.add_comm]
      exact slice?_append_right (ih hrest hpart) hfirst

end Bytes

namespace Ntlm

variable {encrypt : (key block : Bytes) → Bytes} {hash challenge : Bytes}

/-- What a response is: three parts cover the hash and the zeros behind it, and each is the key for
one of the three blocks that fill the response. -/
structure IsResponse (encrypt : (key block : Bytes) → Bytes) (hash challenge response : Bytes) :
    Prop where
  covered : hash.padTo 21 = hash ++ List.replicate 5 0 ∧ (hash.padTo 21).length = 3 * 7
  filled : response.length = 3 * 8
  block : ∀ i < 3, ∃ part, (hash.padTo 21).slice? (7 * i) 7 = some part ∧
    response.slice? (8 * i) 8 = some (encrypt (Des.keyOfSeven part) challenge)

theorem isResponse_responseBy
    (hblock : ∀ key block, key.length = 8 → block.length = 8 → (encrypt key block).length = 8)
    (hhash : hash.length = 16) (hchallenge : challenge.length = 8) :
    IsResponse encrypt hash challenge (responseBy encrypt hash challenge) := by
  have hcovered : hash.padTo 21 = hash ++ List.replicate 5 0 := by
    rw [Bytes.padTo, hhash, List.take_of_length_le (by rw [hhash]; decide)]
  have hpart : ∀ i < 3, (hash.padTo 21).slice? (7 * i) 7 =
      some (((hash.padTo 21).drop (7 * i)).take 7) := fun i hi => by
    refine Bytes.slice?_of_le ?_
    rw [Bytes.length_padTo]
    omega
  have hwidth : ∀ part ∈ Block.pieces 7 3 (hash.padTo 21),
      (encrypt (Des.keyOfSeven part) challenge).length = 8 := by
    intro part hmem
    obtain ⟨i, hget⟩ := List.mem_iff_getElem?.mp hmem
    obtain ⟨hlt, -⟩ := List.getElem?_eq_some_iff.mp hget
    have hi : i < 3 := by rwa [Block.length_pieces] at hlt
    have hlen := Bytes.length_of_slice?
      ((hpart i hi).trans ((Block.getElem?_pieces 7 _ hi).symm.trans hget))
    exact hblock _ _ (Des.carries_keyOfSeven hlen).length hchallenge
  refine ⟨⟨hcovered, Bytes.length_padTo _ _⟩, ?_, fun i hi => ?_⟩
  · rw [responseBy, Bytes.length_flatMap_of_width hwidth, Block.length_pieces]
  · exact ⟨_, hpart i hi, Bytes.slice?_flatMap_of_width hwidth (Block.getElem?_pieces 7 _ hi)⟩

/-- A part of seven bytes is carried by a key of eight bytes of odd parity, and by the key of no
other part. Whatever function of blocks encrypts the challenge under the keys of a hash, DES for
one, three blocks make up the response, one for each part of the hash. -/
theorem keys_carry_parts {p q : Bytes} (hp : p.length = 7) (hq : q.length = 7)
    (hblock : ∀ key block, key.length = 8 → block.length = 8 → (encrypt key block).length = 8)
    (hhash : hash.length = 16) (hchallenge : challenge.length = 8) :
    Des.Carries (Des.keyOfSeven p) p ∧ (Des.keyOfSeven p = Des.keyOfSeven q → p = q) ∧
      IsResponse encrypt hash challenge (responseBy encrypt hash challenge) ∧
      desResponse hash challenge = responseBy Des.encrypt hash challenge := by
  have hkey := Des.carries_keyOfSeven hp
  refine ⟨hkey, fun hsame => ?_, isResponse_responseBy hblock hhash hchallenge, rfl⟩
  rw [hsame] at hkey
  exact hkey.part_unique (Des.carries_keyOfSeven hq)

/-- Two keys that differ in one bit, and a response by DES. -/
theorem neighbours_apart :
    let p : Bytes := [0xff, 0x00, 0xaa, 0x55, 0x12, 0x34, 0x56]
    let q : Bytes := [0xff, 0x00, 0xaa, 0x55, 0x12, 0x34, 0x57]
    let hash : Bytes := [0x88, 0x46, 0xf7, 0xea, 0xee, 0x8f, 0xb1, 0x17, 0xad, 0x06, 0xbd, 0xd8,
      0x30, 0xb7, 0x58, 0x6c]
    let challenge : Bytes := [0x53, 0x72, 0x76, 0x4e, 0x6f, 0x6e, 0x63, 0x65]
    p.length = 7 ∧ q.length = 7 ∧ hash.length = 16 ∧ challenge.length = 8 ∧
      Des.Carries (Des.keyOfSeven p) p ∧ Des.keyOfSeven p ≠ Des.keyOfSeven q ∧
      IsResponse Des.encrypt hash challenge (desResponse hash challenge) := by
  intro p q hash challenge
  obtain ⟨hkey, hsame, hresponse, hdes⟩ :=
    keys_carry_parts (show p.length = 7 from rfl) (show q.length = 7 from rfl)
      (fun key block _ _ => Des.length_encrypt key block) (show hash.length = 16 from rfl)
      (show challenge.length = 8 from rfl)
  exact ⟨rfl, rfl, rfl, rfl, hkey, fun h => absurd (hsame h) (by decide), hdes ▸ hresponse⟩

end Ntlm

end HttpClient
