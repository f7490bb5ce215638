import HttpClient.Proofs.Auth.Ntlm.Buffers
import HttpClient.Proofs.Text.Decoding

/-!
# Reading challenge messages

A byte string is read as a challenge message exactly when it is one: long enough, with the right
start and type, and with buffers that are empty or point inside. What is read are the bytes at fixed
places and those that the buffers point at, no others, so that a message assembled from parts is
taken apart into the same parts, wherever behind the header they stand.
-/

namespace HttpClient.Ntlm

variable {msg payload : Bytes} {start : Nat}

/-- The number in some bytes of a message; what lies behind its end counts as zeros. -/
def numberAt (msg : Bytes) (start width : Nat) : Nat := Bytes.toNatLE ((msg.drop start).take width)

/-- The bytes that the buffer at a position points at: it holds their length and their place. -/
def pointedAt (msg : Bytes) (start : Nat) : Bytes :=
  (msg.drop (numberAt msg (start + 4) 4)).take (numberAt msg start 2)

/-- A buffer is empty or points at bytes that all lie inside the message. -/
def PointsInside (msg : Bytes) (start : Nat) : Prop :=
  numberAt msg start 2 = 0 ∨ numberAt msg (start + 4) 4 + numberAt msg start 2 ≤ msg.length

/-- Target info is announced, and there is room for its buffer. -/
def AnnouncesInfo (msg : Bytes) : Prop :=
  hasFlag (numberAt msg 20 4) Flag.targetInfo = true ∧ 48 ≤ msg.length

/-- A byte string that is a challenge message. -/
structure IsChallenge (msg : Bytes) : Prop where
  length : 32 ≤ msg.length
  start : signature <+: msg
  type : numberAt msg 8 4 = 2
  target : PointsInside msg 12
  targetInfo : AnnouncesInfo msg → PointsInside msg 40

instance (msg : Bytes) : Decidable (AnnouncesInfo msg) := inferInstanceAs (Decidable (_ ∧ _))

/-- What a challenge message says. A payload of no bytes counts as absent. -/
def contents (msg : Bytes) : ChallengeMessage where
  flags := numberAt msg 20 4
  serverChallenge := (msg.drop 24).take 8
  target := (nonEmpty (pointedAt msg 12)).map
    (decodeText (hasFlag (numberAt msg 20 4) Flag.unicode))
  targetInfo := if AnnouncesInfo msg then nonEmpty (pointedAt msg 40) else none

/-- A buffer whose header is there is read unless it points outside the message. -/
theorem readBuffer_eq_ok_iff (hheader : start + 8 ≤ msg.length) :
    readBuffer msg start = .ok payload ↔
      PointsInside msg start ∧ payload = pointedAt msg start := by
  have hlength : msg.readLE? start 2 = some (numberAt msg start 2) :=
    Bytes.readLE?_of_le (by omega)
  have hplace : msg.readLE? (start + 4) 4 = some (numberAt msg (start + 4) 4) :=
    Bytes.readLE?_of_le (by omega)
  simp only [readBuffer, hlength, hplace, PointsInside, pointedAt]
  by_cases hempty : numberAt msg start 2 = 0
  · simp only [hempty, if_true, true_or, true_and, List.take_zero, Except.ok.injEq]
    exact eq_comm
  · rw [if_neg hempty]
    cases hslice : msg.slice? (numberAt msg (start + 4) 4) (numberAt msg start 2) with
    | none =>
      rw [Bytes.slice?_eq_none_iff] at hslice
      simp only [reduceCtorEq, false_iff, not_and]
      omega
    | some found =>
      obtain ⟨hinside, rfl⟩ := Bytes.slice?_eq_some_iff.mp hslice
      simp only [Except.ok.injEq, hinside, or_true, true_and]
      exact eq_comm

/-- The bytes of the target info, where it is announced. -/
def infoBytes (msg : Bytes) : Except Malformed Bytes :=
  if AnnouncesInfo msg then readBuffer msg 40 else .ok []

theorem infoBytes_eq_ok_iff : infoBytes msg = .ok payload ↔
    (AnnouncesInfo msg → PointsInside msg 40) ∧
      payload = if AnnouncesInfo msg then pointedAt msg 40 else [] := by
  unfold infoBytes
  split
  · rename_i hinfo
    simp only [readBuffer_eq_ok_iff hinfo.2, hinfo, forall_const]
  · rename_i hnone
    simp only [hnone, false_implies, true_and, Except.ok.injEq]
    exact eq_comm

/-- A computation of two steps succeeds when both do. -/
theorem bind_eq_ok_iff {ε α β : Type} {x : Except ε α} {f : α → Except ε β} {b : β} :
    (x >>= f) = .ok b ↔ ∃ a, x = .ok a ∧ f a = .ok b := by
  cases x with
  | error e => simp [bind, Except.bind]
  | ok a => simp [bind, Except.bind]

/-- A message that is long enough is read when its start, its type and both its buffers are. -/
theorem decode_of_length (hlength : 32 ≤ msg.length) :
    ChallengeMessage.decode msg =
      if msg.take 8 ≠ signature then .error .badSignature
      else if numberAt msg 8 4 ≠ 2 then .error .notAChallenge
      else do
        let target ← readBuffer msg 12
        let info ← infoBytes msg
        return {
          flags := numberAt msg 20 4
          serverChallenge := (msg.drop 24).take 8
          target := (nonEmpty target).map (decodeText (hasFlag (numberAt msg 20 4) Flag.unicode))
          targetInfo := nonEmpty info } := by
  have hstart : msg.slice? 0 8 = some (msg.take 8) := Bytes.slice?_of_le (by omega)
  have hkind : msg.readLE? 8 4 = some (numberAt msg 8 4) := Bytes.readLE?_of_le (by omega)
  have hflags : msg.readLE? 20 4 = some (numberAt msg 20 4) := Bytes.readLE?_of_le (by omega)
  have hserver : msg.slice? 24 8 = some ((msg.drop 24).take 8) := Bytes.slice?_of_le (by omega)
  simp only [ChallengeMessage.decode, hstart, hkind, hflags, hserver, infoBytes]
  by_cases hinfo : AnnouncesInfo msg
  · have hboth : hasFlag (numberAt msg 20 4) Flag.targetInfo = true ∧ 48 ≤ msg.length := hinfo
    simp only [if_pos hinfo, if_pos hboth]
  · have hboth : ¬ (hasFlag (numberAt msg 20 4) Flag.targetInfo = true ∧ 48 ≤ msg.length) := hinfo
    simp only [if_neg hinfo, if_neg hboth]

/-- Exactly the challenge messages are read, each as what it says. -/
theorem decode_eq_ok_iff {challenge : ChallengeMessage} :
    ChallengeMessage.decode msg = .ok challenge ↔ IsChallenge msg ∧ challenge = contents msg := by
  by_cases hlength : 32 ≤ msg.length
  · have hstart : msg.take 8 = signature ↔ signature <+: msg := by
      rw [List.prefix_iff_eq_take]
      exact eq_comm
    have hcontents : contents msg = {
        flags := numberAt msg 20 4
        serverChallenge := (msg.drop 24).take 8
        target := (nonEmpty (pointedAt msg 12)).map
          (decodeText (hasFlag (numberAt msg 20 4) Flag.unicode))
        targetInfo := nonEmpty (if AnnouncesInfo msg then pointedAt msg 40 else []) } := by
      unfold contents
      split <;> rfl
    rw [decode_of_length hlength, hcontents]
    constructor
    · intro h
      split at h
      · cases h
      · rename_i hsignature
        split at h
        · cases h
        · rename_i htype
          obtain ⟨target, htarget, h⟩ := bind_eq_ok_iff.mp h
          obtain ⟨info, hinfo, h⟩ := bind_eq_ok_iff.mp h
          obtain ⟨hinside, rfl⟩ := (readBuffer_eq_ok_iff (by omega)).mp htarget
          obtain ⟨hinfoInside, rfl⟩ := infoBytes_eq_ok_iff.mp hinfo
          exact ⟨⟨hlength, hstart.mp (not_not.mp hsignature), not_not.mp htype, hinside,
            hinfoInside⟩, (Except.ok.inj h).symm⟩
    · rintro ⟨h, rfl⟩
      rw [if_neg (not_not.mpr (hstart.mpr h.start)), if_neg (not_not.mpr h.type)]
      refine bind_eq_ok_iff.mpr ⟨_, (readBuffer_eq_ok_iff (by omega)).mpr ⟨h.target, rfl⟩, ?_⟩
      exact bind_eq_ok_iff.mpr ⟨_, infoBytes_eq_ok_iff.mpr ⟨h.targetInfo, rfl⟩, rfl⟩
  · have hserver : msg.slice? 24 8 = none := Bytes.slice?_eq_none_iff.mpr (by omega)
    have hrefused : ChallengeMessage.decode msg = .error .tooShort := by
      unfold ChallengeMessage.decode
      rw [hserver]
      split
      · rename_i hsome
        cases hsome
      · rfl
    rw [hrefused]
    constructor
    · intro h
      cases h
    · intro h
      exact absurd h.1.length hlength

/-- The bytes of a target's name, in the encoding that the flags announce. -/
def nameBytes (isUnicode : Bool) (name : String) : Bytes :=
  if isUnicode then Utf16.encodeLE name else Utf8.encode name

/-- A name is read back from its bytes. -/
theorem decodeText_nameBytes (isUnicode : Bool) (name : String) :
    decodeText isUnicode (nameBytes isUnicode name) = name := by
  cases isUnicode with
  | true => exact Utf16.decodeLossyLE_encodeLE name
  | false => exact Utf8.decodeLossy_encode name

/-- The parts of a challenge message and where they stand: behind a header of 48 bytes, of which
eight are reserved and may be anything, the two payloads stand anywhere, in any order and with
anything around them. -/
structure Assembly where
  flags : Nat
  serverChallenge : Bytes
  name : Bytes
  info : Bytes
  reserved : Bytes
  /-- All that stands behind the header. -/
  body : Bytes
  nameAt : Nat
  infoAt : Nat
  flags_lt : flags < 0x100000000
  length_serverChallenge : serverChallenge.length = 8
  length_reserved : reserved.length = 8
  length_name : name.length ≤ 65535
  length_info : info.length ≤ 65535
  name_stands : body.slice? nameAt name.length = some name
  info_stands : body.slice? infoAt info.length = some info
  nameAt_lt : 48 + nameAt < 0x100000000
  infoAt_lt : 48 + infoAt < 0x100000000

namespace Assembly

/-- The message. -/
def bytes (a : Assembly) : Bytes :=
  signature ++ Bytes.ofNatLE 4 2 ++ bufferHeader a.name.length (48 + a.nameAt)
    ++ Bytes.ofNatLE 4 a.flags ++ a.serverChallenge ++ a.reserved
    ++ bufferHeader a.info.length (48 + a.infoAt) ++ a.body

/-- What is to be read: an empty payload counts as absent, and so does target info that the flags
do not announce. -/
def challenge (a : Assembly) : ChallengeMessage where
  flags := a.flags
  serverChallenge := a.serverChallenge
  target := (nonEmpty a.name).map (decodeText (hasFlag a.flags Flag.unicode))
  targetInfo := if hasFlag a.flags Flag.targetInfo then nonEmpty a.info else none

/-- The payloads stand behind 48 bytes. -/
theorem bytes_split (a : Assembly) : ∃ header : Bytes, header.length = 48 ∧
    a.bytes = header ++ a.body := by
  refine ⟨_, ?_, rfl⟩
  have hsignature : signature.length = 8 := rfl
  simp only [List.length_append, Bytes.length_ofNatLE, length_bufferHeader, hsignature,
    a.length_serverChallenge, a.length_reserved]

/-- Both buffers are read as the payloads they were written for. -/
theorem readBuffer_bytes (a : Assembly) :
    readBuffer a.bytes 12 = .ok a.name ∧ readBuffer a.bytes 40 = .ok a.info := by
  obtain ⟨header, hlength, hbytes⟩ := a.bytes_split
  have hsignature : signature.length = 8 := rfl
  have hname : a.bytes.slice? (48 + a.nameAt) a.name.length = some a.name := by
    rw [hbytes]
    exact Bytes.slice?_append_right a.name_stands hlength
  have hinfo : a.bytes.slice? (48 + a.infoAt) a.info.length = some a.info := by
    rw [hbytes]
    exact Bytes.slice?_append_right a.info_stands hlength
  refine ⟨readBuffer_bufferHeader (signature ++ Bytes.ofNatLE 4 2) ?_ ?_
      (Nat.lt_succ_of_le a.length_name) a.nameAt_lt hname,
    readBuffer_bufferHeader (signature ++ Bytes.ofNatLE 4 2
      ++ bufferHeader a.name.length (48 + a.nameAt) ++ Bytes.ofNatLE 4 a.flags
      ++ a.serverChallenge ++ a.reserved) ?_ ?_
      (Nat.lt_succ_of_le a.length_info) a.infoAt_lt hinfo⟩
  all_goals simp [bytes, hsignature, a.length_serverChallenge, a.length_reserved]

/-- The fixed places of the header are read as they were written. -/
theorem reads_bytes (a : Assembly) :
    a.bytes.slice? 0 8 = some signature ∧ a.bytes.readLE? 8 4 = some 2 ∧
      a.bytes.readLE? 20 4 = some a.flags ∧ a.bytes.slice? 24 8 = some a.serverChallenge := by
  have hsignature : signature.length = 8 := rfl
  refine ⟨Bytes.slice?_of_prefix [] ?_ rfl hsignature,
    Bytes.readLE?_of_prefix signature ?_ hsignature (by decide),
    Bytes.readLE?_of_prefix (signature ++ Bytes.ofNatLE 4 2
      ++ bufferHeader a.name.length (48 + a.nameAt)) ?_ ?_ a.flags_lt,
    Bytes.slice?_of_prefix (signature ++ Bytes.ofNatLE 4 2
      ++ bufferHeader a.name.length (48 + a.nameAt) ++ Bytes.ofNatLE 4 a.flags) ?_ ?_
      a.length_serverChallenge⟩
  all_goals simp [bytes, hsignature]

/-- A message is taken apart into the parts it was assembled from. -/
theorem decode_bytes (a : Assembly) : ChallengeMessage.decode a.bytes = .ok a.challenge := by
  obtain ⟨hname, hinfo⟩ := a.readBuffer_bytes
  obtain ⟨hstart, hkind, hflags, hserver⟩ := a.reads_bytes
  have hlong : 48 ≤ a.bytes.length := by
    obtain ⟨header, hlength, hbytes⟩ := a.bytes_split
    rw [hbytes, List.length_append]
    omega
  simp only [ChallengeMessage.decode, hstart, hkind, hflags, hserver, hname, hinfo, hlong, and_true,
    challenge]
  cases hasFlag a.flags Flag.targetInfo <;> rfl

end Assembly

/-- A byte string is read exactly when it is a challenge message, as what it says; so a message is
taken apart into the parts it was assembled from, and names are the texts that were written. -/
theorem decode_exact :
    (∀ (msg : Bytes) (challenge : ChallengeMessage),
      ChallengeMessage.decode msg = .ok challenge ↔ IsChallenge msg ∧ challenge = contents msg) ∧
    (∀ a : Assembly, ChallengeMessage.decode a.bytes = .ok a.challenge) ∧
    ∀ (isUnicode : Bool) (name : String), decodeText isUnicode (nameBytes isUnicode name) = name :=
  ⟨fun _ _ => decode_eq_ok_iff, Assembly.decode_bytes, decodeText_nameBytes⟩

end HttpClient.Ntlm
