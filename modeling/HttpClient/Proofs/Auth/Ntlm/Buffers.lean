import HttpClient.Auth.Ntlm.Message

/-!
# Numbers and payloads inside a message

A part of a byte string is found at the position behind what stands before it, and a number that was
written there is read back. A payload is found through its header: its length is written twice, then
the position where it stands.
-/

namespace HttpClient

namespace Bytes

variable {bytes front part : Bytes} {start len width n : Nat}

theorem slice?_of_le (h : start + len ≤ bytes.length) :
    bytes.slice? start len = some ((bytes.drop start).take len) := if_pos h

theorem slice?_eq_none_iff : bytes.slice? start len = none ↔ bytes.length < start + len := by
  simp only [slice?, ite_eq_right_iff, reduceCtorEq, imp_false, Nat.not_le]

theorem slice?_eq_some_iff : bytes.slice? start len = some part ↔
    start + len ≤ bytes.length ∧ (bytes.drop start).take len = part := by
  simp only [slice?, Option.ite_none_right_eq_some, Option.some.injEq]

theorem readLE?_of_le (h : start + width ≤ bytes.length) :
    bytes.readLE? start width = some (toNatLE ((bytes.drop start).take width)) := by
  rw [readLE?, slice?_of_le h, Option.map_some]

/-- What stands behind `front` is found at its end. Position and length are not written with `front`
and `part`, so that they may be given as numbers. -/
theorem slice?_of_prefix (front : Bytes) (h : front ++ part <+: bytes)
    (hstart : front.length = start) (hlen : part.length = len) :
    bytes.slice? start len = some part := by
  obtain ⟨back, rfl⟩ := h
  subst hstart hlen
  rw [slice?_eq_some_iff, List.append_assoc, List.drop_left, List.take_left]
  refine ⟨?_, rfl⟩
  simp only [List.length_append]
  omega

/-- A number is read back where it was written. -/
theorem readLE?_of_prefix (front : Bytes) (h : front ++ ofNatLE width n <+: bytes)
    (hstart : front.length = start) (hn : n < Nat.pow 256 width) :
    bytes.readLE? start width = some n := by
  rw [readLE?, slice?_of_prefix front h hstart (length_ofNatLE width n), Option.map_some,
    toNatLE_ofNatLE]
  exact congrArg some (Nat.mod_eq_of_lt hn)

/-- With more before it, a part is found that much further behind. -/
theorem slice?_append_right (h : bytes.slice? start len = some part) (hfront : front.length = n) :
    (front ++ bytes).slice? (n + start) len = some part := by
  rw [slice?_eq_some_iff] at h ⊢
  obtain ⟨hlen, rfl⟩ := h
  refine ⟨?_, ?_⟩
  · rw [List.length_append]
    omega
  · rw [← hfront, ← List.drop_drop, List.drop_left]

end Bytes

namespace Ntlm

variable {msg front payload : Bytes} {start len offset : Nat}

@[simp] theorem length_bufferHeader (len offset : Nat) : (bufferHeader len offset).length = 8 := by
  simp [bufferHeader]

/-- Both lengths and the offset are read back from a header. -/
theorem readLE?_bufferHeader (front : Bytes) (h : front ++ bufferHeader len offset <+: msg)
    (hstart : front.length = start) (hlen : len < 65536) (hoffset : offset < 0x100000000) :
    msg.readLE? start 2 = some len ∧ msg.readLE? (start + 2) 2 = some len ∧
      msg.readLE? (start + 4) 4 = some offset := by
  obtain ⟨back, rfl⟩ := h
  subst hstart
  refine ⟨Bytes.readLE?_of_prefix front ?_ rfl hlen,
    Bytes.readLE?_of_prefix (front ++ Bytes.ofNatLE 2 len) ?_ ?_ hlen,
    Bytes.readLE?_of_prefix (front ++ Bytes.ofNatLE 2 len ++ Bytes.ofNatLE 2 len)
      ?_ ?_ hoffset⟩
  all_goals simp [bufferHeader]

/-- A payload is read through the header that was written for it. -/
theorem readBuffer_bufferHeader (front : Bytes)
    (h : front ++ bufferHeader payload.length offset <+: msg) (hstart : front.length = start)
    (hlen : payload.length < 65536) (hoffset : offset < 0x100000000)
    (hpayload : msg.slice? offset payload.length = some payload) :
    readBuffer msg start = .ok payload := by
  obtain ⟨hfirst, -, hplace⟩ := readLE?_bufferHeader front h hstart hlen hoffset
  simp only [readBuffer, hfirst, hplace, hpayload]
  split
  · rename_i hempty
    rw [List.length_eq_zero_iff.mp hempty]
  · rfl

end Ntlm

end HttpClient
