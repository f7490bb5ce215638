import HttpClient.Text.Utf16
import HttpClient.Text.Utf8
import Mathlib.Data.List.TakeWhile

/-!
# Encoded texts are decoded again

Both lossy decoders are exact on what the encoders write: no character is lost, changed or replaced.
For each encoding it is shown that the decoder takes the units of one character from the front of
whatever follows and gives that character.
-/

namespace HttpClient

namespace Utf16

/-- Every unit fits into two bytes. -/
theorem lt_of_mem_unitsOfChar {c : Char} {n : Nat} (h : n ∈ unitsOfChar c) : n < 65536 := by
  have hvalid : c.toNat < 0xD800 ∨ 0xDFFF < c.toNat ∧ c.toNat < 0x110000 := c.valid
  simp only [unitsOfChar] at h
  split at h
  · rw [List.mem_singleton] at h
    omega
  · simp only [List.mem_cons, List.not_mem_nil, or_false] at h
    omega

/-- Units are read back from their bytes. -/
theorem unitsOfBytes_flatMap {ns : List Nat} (h : ∀ n ∈ ns, n < 65536) :
    unitsOfBytes (ns.flatMap (Bytes.ofNatLE 2)) = ns := by
  induction ns with
  | nil => rfl
  | cons n ns ih =>
    have hn := h n List.mem_cons_self
    have hunit : (UInt8.ofNat n).toNat + 256 * (UInt8.ofNat (n / 256)).toNat = n := by
      simp only [UInt8.toNat_ofNat']
      omega
    have hrest := ih fun m hm => h m (List.mem_cons_of_mem _ hm)
    rw [List.flatMap_cons]
    change ((UInt8.ofNat n).toNat + 256 * (UInt8.ofNat (n / 256)).toNat) ::
      unitsOfBytes (ns.flatMap (Bytes.ofNatLE 2)) = n :: ns
    rw [hunit, hrest]

/-- The decoder takes the one or two units of a character for that character. -/
theorem charsOfUnits_append (c : Char) (rest : List Nat) :
    charsOfUnits (unitsOfChar c ++ rest) = c :: charsOfUnits rest := by
  have hvalid : c.toNat < 0xD800 ∨ 0xDFFF < c.toNat ∧ c.toNat < 0x110000 := c.valid
  simp only [unitsOfChar]
  split
  · have hhigh : isHigh c.toNat = false := by
      simp only [isHigh, Bool.and_eq_false_iff, decide_eq_false_iff_not]
      omega
    have hlow : isLow c.toNat = false := by
      simp only [isLow, Bool.and_eq_false_iff, decide_eq_false_iff_not]
      omega
    cases rest with
    | nil => simp [charsOfUnits, hhigh, hlow]
    | cons n rest => simp [charsOfUnits, hhigh, hlow]
  · have hhigh : isHigh (0xD800 + (c.toNat - 0x10000) / 0x400) = true := by
      simp only [isHigh, Bool.and_eq_true, decide_eq_true_eq]
      omega
    have hlow : isLow (0xDC00 + (c.toNat - 0x10000) % 0x400) = true := by
      simp only [isLow, Bool.and_eq_true, decide_eq_true_eq]
      omega
    have hchar : 0x10000 + (0xD800 + (c.toNat - 0x10000) / 0x400 - 0xD800) * 0x400 +
        (0xDC00 + (c.toNat - 0x10000) % 0x400 - 0xDC00) = c.toNat := by
      omega
    simp only [List.cons_append, List.nil_append, charsOfUnits, hhigh, hlow, if_true, hchar,
      Char.ofNat_toNat]

/-- Decoding gives back the text that was encoded. -/
theorem decodeLossyLE_encodeLE (s : String) : decodeLossyLE (encodeLE s) = s := by
  have hunits : ∀ n ∈ units s, n < 65536 := by
    intro n hn
    obtain ⟨c, -, hc⟩ := List.mem_flatMap.mp hn
    exact lt_of_mem_unitsOfChar hc
  have hchars (cs : List Char) : charsOfUnits (cs.flatMap unitsOfChar) = cs := by
    induction cs with
    | nil => rfl
    | cons c cs ih => rw [List.flatMap_cons, charsOfUnits_append, ih]
  rw [decodeLossyLE, encodeLE, unitsOfBytes_flatMap hunits, units, hchars, String.ofList_toList]

end Utf16

namespace Utf8

variable {first : UInt8} {tail : Bytes}

theorem toNat_ofNat {n : Nat} (h : n < 256) : (UInt8.ofNat n).toNat = n := by
  rw [UInt8.toNat_ofNat']
  exact Nat.mod_eq_of_lt h

theorem isTail_ofNat {b : Nat} (h : 0x80 ≤ b ∧ b ≤ 0xBF) : isTail (UInt8.ofNat b) = true := by
  have hb : (UInt8.ofNat b).toNat = b := toNat_ofNat (by omega)
  simp only [isTail, Bool.and_eq_true, decide_eq_true_eq, UInt8.le_iff_toNat_le, hb]
  exact h

/-- What a second byte has to be: a byte of a tail, and after four first bytes one of some of them
only, since other bytes would write a character in too many bytes, or none. -/
theorem isSecond_ofNat {a b : Nat} (ha : a < 256) (hb : 0x80 ≤ b ∧ b ≤ 0xBF)
    (he0 : a = 0xE0 → 0xA0 ≤ b) (hed : a = 0xED → b ≤ 0x9F) (hf0 : a = 0xF0 → 0x90 ≤ b)
    (hf4 : a = 0xF4 → b ≤ 0x8F) : isSecond (UInt8.ofNat a) (UInt8.ofNat b) = true := by
  have hfirst (n : UInt8) : UInt8.ofNat a = n ↔ a = n.toNat := by
    rw [← UInt8.toNat_inj, toNat_ofNat ha]
  have hrange (low high : UInt8) : (decide (low ≤ UInt8.ofNat b) && decide (UInt8.ofNat b ≤ high)) =
      decide (low.toNat ≤ b ∧ b ≤ high.toNat) := by
    simp only [UInt8.le_iff_toNat_le, toNat_ofNat (show b < 256 by omega), Bool.decide_and]
  simp only [isSecond, isTail, hfirst, hrange, UInt8.reduceToNat]
  grind

/-- A sequence of bytes that belong together becomes one character, whatever follows. -/
theorem decodeLossyChars_sequence {second : UInt8} (rest : Bytes) (hfirst : ¬ first < 0x80)
    (hcount : tailCount? first = some (tail.length + 1)) (hsecond : isSecond first second = true)
    (htail : ∀ b ∈ tail, isTail b = true) :
    decodeLossyChars (first :: second :: (tail ++ rest)) =
      Char.ofNat (joinTail (first.toNat % Nat.pow 2 (6 - (tail.length + 1))) (second :: tail)) ::
        decodeLossyChars rest := by
  have hmatching : matching first (tail.length + 1) (second :: (tail ++ rest)) =
      tail.length + 1 := by
    have hwhole : tail.takeWhile isTail = tail := List.takeWhile_eq_self_iff.mpr htail
    simp only [matching, hsecond, if_true, Nat.add_sub_cancel, List.take_left, hwhole]
    exact Nat.add_comm _ _
  rw [decodeLossyChars, if_neg hfirst, hcount]
  simp only [hmatching, if_true, List.take_succ_cons, List.take_left, List.drop_succ_cons,
    List.drop_left]

theorem tailCount?_ofNat {a : Nat} (ha : a < 256) :
    tailCount? (UInt8.ofNat a) =
      if 0xC2 ≤ a ∧ a ≤ 0xDF then some 1
      else if 0xE0 ≤ a ∧ a ≤ 0xEF then some 2
      else if 0xF0 ≤ a ∧ a ≤ 0xF4 then some 3
      else none := by
  simp only [tailCount?, UInt8.le_iff_toNat_le, toNat_ofNat ha, UInt8.reduceToNat]

/-- A sequence given by numbers: a first byte `a`, and `b` and `ds` of which each further byte holds
the low six bits. -/
theorem decodeLossyChars_numbers {c : Char} {a : Nat} (b : Nat) (ds : List Nat) (ha : a < 256)
    (hcount : ds.length = 0 ∧ 0xC2 ≤ a ∧ a ≤ 0xDF ∨ ds.length = 1 ∧ 0xE0 ≤ a ∧ a ≤ 0xEF ∨
      ds.length = 2 ∧ 0xF0 ≤ a ∧ a ≤ 0xF4)
    (he0 : a = 0xE0 → 0x20 ≤ b % 64) (hed : a = 0xED → b % 64 < 0x20)
    (hf0 : a = 0xF0 → 0x10 ≤ b % 64) (hf4 : a = 0xF4 → b % 64 < 0x10)
    (hchar : ds.foldl (fun n d => n * 64 + d % 64) (a % Nat.pow 2 (5 - ds.length) * 64 + b % 64) =
      c.toNat) (rest : Bytes) :
    decodeLossyChars (UInt8.ofNat a :: UInt8.ofNat (b % 64 + 128) ::
      (ds.map (fun d => UInt8.ofNat (d % 64 + 128)) ++ rest)) = c :: decodeLossyChars rest := by
  have hbits (n : Nat) : (UInt8.ofNat (n % 64 + 128)).toNat % 64 = n % 64 := by
    rw [toNat_ofNat (by omega)]
    omega
  have hfirst : ¬ UInt8.ofNat a < 0x80 := by
    simp only [UInt8.lt_iff_toNat_lt, toNat_ofNat ha, UInt8.reduceToNat]
    omega
  have htails : ∀ x ∈ ds.map (fun d => UInt8.ofNat (d % 64 + 128)), isTail x = true := by
    simp only [List.forall_mem_map]
    exact fun d _ => isTail_ofNat (by omega)
  have hcounts : tailCount? (UInt8.ofNat a) =
      some ((ds.map fun d => UInt8.ofNat (d % 64 + 128)).length + 1) := by
    rw [tailCount?_ofNat ha, List.length_map]
    grind
  have hsecond : isSecond (UInt8.ofNat a) (UInt8.ofNat (b % 64 + 128)) = true :=
    isSecond_ofNat ha (by omega) (by omega) (by omega) (by omega) (by omega)
  have hnumber : joinTail ((UInt8.ofNat a).toNat % Nat.pow 2 (5 - ds.length))
      (UInt8.ofNat (b % 64 + 128) :: ds.map fun d => UInt8.ofNat (d % 64 + 128)) = c.toNat := by
    simp only [joinTail, List.foldl_cons, List.foldl_map, hbits, toNat_ofNat ha]
    exact hchar
  have hwhole := decodeLossyChars_sequence rest hfirst hcounts hsecond htails
  rw [List.length_map, Nat.add_sub_add_right 5 1 ds.length, hnumber, Char.ofNat_toNat] at hwhole
  exact hwhole

/-- The decoder takes the bytes of a character for that character. -/
theorem decodeLossyChars_append (c : Char) (rest : Bytes) :
    decodeLossyChars (String.utf8EncodeChar c ++ rest) = c :: decodeLossyChars rest := by
  have hvalid : c.toNat < 0xD800 ∨ 0xDFFF < c.toNat ∧ c.toNat < 0x110000 := c.valid
  simp only [String.utf8EncodeChar, Char.toNat_val]
  split
  · have hchar : (UInt8.ofNat c.toNat).toNat = c.toNat := toNat_ofNat (by omega)
    have hshort : UInt8.ofNat c.toNat < 0x80 := by
      simp only [UInt8.lt_iff_toNat_lt, hchar, UInt8.reduceToNat]
      omega
    rw [List.cons_append, List.nil_append, decodeLossyChars, if_pos hshort, hchar,
      Char.ofNat_toNat]
  · split
    · refine decodeLossyChars_numbers c.toNat [] (by omega)
        (Or.inl ⟨rfl, by omega, by omega⟩) (by omega) (by omega) (by omega) (by omega) ?_ rest
      simp only [List.length_nil, List.foldl_nil, Nat.reduceSub, Nat.pow_eq, Nat.reducePow]
      omega
    · split
      · refine decodeLossyChars_numbers (c.toNat / 64) [c.toNat] (by omega)
          (Or.inr (Or.inl ⟨rfl, by omega, by omega⟩)) (by omega) (by omega) (by omega) (by omega)
          ?_ rest
        simp only [List.length_cons, List.length_nil, List.foldl_cons, List.foldl_nil,
          Nat.reduceAdd, Nat.reduceSub, Nat.pow_eq, Nat.reducePow]
        omega
      · refine decodeLossyChars_numbers (c.toNat / 4096) [c.toNat / 64, c.toNat]
          (by omega) (Or.inr (Or.inr ⟨rfl, by omega, by omega⟩)) (by omega) (by omega) (by omega)
          (by omega) ?_ rest
        simp only [List.length_cons, List.length_nil, List.foldl_cons, List.foldl_nil,
          Nat.reduceAdd, Nat.reduceSub, Nat.pow_eq, Nat.reducePow]
        omega

/-- Decoding gives back the text that was encoded. -/
theorem decodeLossy_encode (s : String) : decodeLossy (encode s) = s := by
  have hchars (cs : List Char) :
      decodeLossyChars (cs.flatMap String.utf8EncodeChar) = cs := by
    induction cs with
    | nil => rw [List.flatMap_nil, decodeLossyChars]
    | cons c cs ih => rw [List.flatMap_cons, decodeLossyChars_append, ih]
  rw [decodeLossy, encode, hchars, String.ofList_toList]

end Utf8

end HttpClient
