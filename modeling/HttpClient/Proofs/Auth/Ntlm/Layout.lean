import HttpClient.Proofs.Auth.Ntlm.Buffers

/-!
# The layout of an authenticate message

The message is a header of 72 bytes and the payloads of its six fields, one right behind the other.
Each field has a buffer in the header, and reading that buffer gives its payload back. The message
exists unless a payload is too long for a length of two bytes, and then the first such field is
named.
-/

namespace HttpClient.Ntlm

variable {field : Field} {payload : Bytes} {parts before rest : List (Field × Bytes)} {i : Nat}

/-- The payloads, back to back. -/
def joined (parts : List (Field × Bytes)) : Bytes := parts.flatMap Prod.snd

/-- The buffers of payloads that stand back to back from an offset on, whatever their lengths. -/
def buffersFrom : Nat → List (Field × Bytes) → Bytes
  | _, [] => []
  | offset, (_, payload) :: rest =>
    bufferHeader payload.length offset ++ buffersFrom (offset + payload.length) rest

/-- The first part that is too long for a length of two bytes. -/
def oversized? (parts : List (Field × Bytes)) : Option (Field × Bytes) :=
  parts.find? fun part => 65535 < part.2.length

theorem oversized?_eq_none_iff :
    oversized? parts = none ↔ ∀ part ∈ parts, part.2.length ≤ 65535 := by
  simp [oversized?]

/-- The buffers are written unless a part is too long, and then its field is named. -/
theorem bufferHeaders_eq (offset : Nat) (parts : List (Field × Bytes)) :
    bufferHeaders offset parts =
      match oversized? parts with
      | some part => .error part.1
      | none => .ok (buffersFrom offset parts) := by
  induction parts generalizing offset with
  | nil => rfl
  | cons part rest ih =>
    obtain ⟨field, payload⟩ := part
    rw [bufferHeaders]
    by_cases hfit : payload.length < 65536
    · have hskip : oversized? ((field, payload) :: rest) = oversized? rest :=
        List.find?_cons_of_neg (by simpa using Nat.le_of_lt_succ hfit)
      rw [if_pos hfit, ih, hskip]
      cases oversized? rest <;> rfl
    · have hfound : oversized? ((field, payload) :: rest) = some (field, payload) :=
        List.find?_cons_of_pos (by simpa using Nat.lt_of_not_le (by omega))
      rw [if_neg hfit, hfound]

@[simp] theorem length_buffersFrom (offset : Nat) (parts : List (Field × Bytes)) :
    (buffersFrom offset parts).length = 8 * parts.length := by
  induction parts generalizing offset with
  | nil => rfl
  | cons part rest ih =>
    rw [buffersFrom, List.length_append, length_bufferHeader, ih, List.length_cons]
    omega

/-- The buffers of later parts start behind the payloads of earlier ones. -/
theorem buffersFrom_append (offset : Nat) (before rest : List (Field × Bytes)) :
    buffersFrom offset (before ++ rest) =
      buffersFrom offset before ++ buffersFrom (offset + (joined before).length) rest := by
  induction before generalizing offset with
  | nil => rfl
  | cons part before ih =>
    have hoffset : offset + (joined (part :: before)).length =
        offset + part.2.length + (joined before).length := by
      simp only [joined, List.flatMap_cons, List.length_append]
      omega
    rw [List.cons_append, buffersFrom, ih, buffersFrom, hoffset, List.append_assoc]

theorem joined_append (before rest : List (Field × Bytes)) :
    joined (before ++ rest) = joined before ++ joined rest := List.flatMap_append

/-- Parts that all fit are short enough together for an offset of four bytes. -/
theorem length_joined_le (hfit : ∀ part ∈ parts, part.2.length ≤ 65535) :
    (joined parts).length ≤ 65535 * parts.length := by
  induction parts with
  | nil => exact Nat.le_refl _
  | cons part rest ih =>
    have hrest := ih fun p hp => hfit p (List.mem_cons_of_mem _ hp)
    have hpart := hfit part List.mem_cons_self
    simp only [joined, List.flatMap_cons, List.length_append, List.length_cons] at hrest ⊢
    omega

/-- A list falls apart at each of its members. -/
theorem split_of_getElem? (h : parts[i]? = some (field, payload)) :
    parts = parts.take i ++ (field, payload) :: parts.drop (i + 1) ∧ (parts.take i).length = i := by
  obtain ⟨hi, hpart⟩ := List.getElem?_eq_some_iff.mp h
  rw [← hpart, ← List.drop_eq_getElem_cons hi, List.take_append_drop, List.length_take]
  exact ⟨rfl, Nat.min_eq_left (Nat.le_of_lt hi)⟩

/-- The authenticate message made from parts. -/
def messageOf (parts : List (Field × Bytes)) (flags : Nat) : Bytes :=
  signature ++ Bytes.ofNatLE 4 3 ++ buffersFrom authenticateHeaderLength parts
    ++ Bytes.ofNatLE 4 flags ++ versionBytes ++ joined parts

/-- The flags of an authenticate message. -/
def authenticateFlags (challenge : ChallengeMessage) : Nat :=
  challenge.flags &&& answeredFlags ||| Flag.version

theorem authenticateFlags_lt (challenge : ChallengeMessage) :
    authenticateFlags challenge < 0x100000000 :=
  Nat.or_lt_two_pow (Nat.and_lt_two_pow challenge.flags (by decide : answeredFlags < 2 ^ 32))
    (by decide)

/-- The message is made unless a part is too long, and then its field is named. -/
theorem authenticate_eq (account : Account) (challenge : ChallengeMessage) (nonce : Bytes)
    (timestamp : Nat) :
    authenticate account challenge nonce timestamp =
      match oversized? (payloads account challenge nonce timestamp) with
      | some part => .error part.1
      | none => .ok (messageOf (payloads account challenge nonce timestamp)
          (authenticateFlags challenge)) := by
  simp only [authenticate, bufferHeaders_eq]
  cases oversized? (payloads account challenge nonce timestamp) <;> rfl

/-- What it means that a message holds parts behind a header, with these flags. -/
structure LaidOut (parts : List (Field × Bytes)) (flags : Nat) (msg : Bytes) : Prop where
  /-- The payloads fill the message behind its header. -/
  body : msg.length = 72 + (joined parts).length ∧ msg.drop 72 = joined parts
  /-- It is an authenticate message. -/
  start : msg.slice? 0 8 = some signature ∧ msg.readLE? 8 4 = some 3
  flags : msg.readLE? 60 4 = some flags
  version : msg.slice? 64 8 = some versionBytes
  /-- Each buffer gives its length twice and the place right behind all earlier payloads. -/
  header : ∀ i field payload, parts[i]? = some (field, payload) →
    msg.readLE? (12 + 8 * i) 2 = some payload.length ∧
      msg.readLE? (14 + 8 * i) 2 = some payload.length ∧
        msg.readLE? (16 + 8 * i) 4 = some (72 + (joined (parts.take i)).length)
  /-- Each payload lies inside the message, where its buffer says. -/
  inside : ∀ i field payload, parts[i]? = some (field, payload) →
    msg.slice? (72 + (joined (parts.take i)).length) payload.length = some payload
  /-- Each buffer is read as its payload. -/
  buffer : ∀ i field payload, parts[i]? = some (field, payload) →
    readBuffer msg (12 + 8 * i) = .ok payload

variable {flags : Nat}

/-- Without the payloads the message is its header. -/
theorem messageOf_split (flags : Nat) (hsix : parts.length = 6) :
    ∃ header : Bytes, header.length = 72 ∧ messageOf parts flags = header ++ joined parts := by
  refine ⟨_, ?_, rfl⟩
  have hsignature : signature.length = 8 := rfl
  have hversion : versionBytes.length = 8 := rfl
  simp only [List.length_append, Bytes.length_ofNatLE, length_buffersFrom, hsix, hsignature,
    hversion]

/-- Payloads stand back to back behind the header. -/
theorem slice?_messageOf (hsix : parts.length = 6) (hpart : parts[i]? = some (field, payload)) :
    (messageOf parts flags).slice? (72 + (joined (parts.take i)).length) payload.length =
      some payload := by
  obtain ⟨header, hlength, hmsg⟩ := messageOf_split flags hsix
  obtain ⟨hparts, -⟩ := split_of_getElem? hpart
  have hjoined : joined parts =
      joined (parts.take i) ++ payload ++ joined (parts.drop (i + 1)) := by
    conv => lhs; rw [hparts]
    rw [joined_append, List.append_assoc]
    rfl
  refine Bytes.slice?_of_prefix (header ++ joined (parts.take i)) ?_ ?_ rfl
  · rw [hmsg, hjoined]
    simp
  · rw [List.length_append, hlength]

/-- The buffer of a part stands behind those of the earlier ones. -/
theorem messageOf_buffer (flags : Nat) (hpart : parts[i]? = some (field, payload)) :
    ∃ front : Bytes, front.length = 12 + 8 * i ∧
      front ++ bufferHeader payload.length (72 + (joined (parts.take i)).length) <+:
        messageOf parts flags := by
  obtain ⟨hparts, hi⟩ := split_of_getElem? hpart
  have hbuffers : buffersFrom 72 parts = buffersFrom 72 (parts.take i) ++
      (bufferHeader payload.length (72 + (joined (parts.take i)).length) ++
        buffersFrom (72 + (joined (parts.take i)).length + payload.length)
          (parts.drop (i + 1))) := by
    conv => lhs; rw [hparts]
    rw [buffersFrom_append, buffersFrom]
  have hsignature : signature.length = 8 := rfl
  refine ⟨signature ++ Bytes.ofNatLE 4 3 ++ buffersFrom 72 (parts.take i), ?_, ?_⟩
  · simp only [List.length_append, Bytes.length_ofNatLE, length_buffersFrom, hi, hsignature]
  · rw [messageOf, authenticateHeaderLength, hbuffers]
    simp

/-- Six parts that all fit are laid out as they should be. -/
theorem laidOut_messageOf (hsix : parts.length = 6) (hfit : ∀ part ∈ parts, part.2.length ≤ 65535)
    (hflags : flags < 0x100000000) : LaidOut parts flags (messageOf parts flags) := by
  obtain ⟨header, hlength, hmsg⟩ := messageOf_split flags hsix
  have hsignature : signature.length = 8 := rfl
  have hversion : versionBytes.length = 8 := rfl
  have hbuffers : (signature ++ Bytes.ofNatLE 4 3 ++ buffersFrom 72 parts).length = 60 := by
    simp only [List.length_append, Bytes.length_ofNatLE, length_buffersFrom, hsix, hsignature]
  have hshort : ∀ {i : Nat} {field : Field} {payload : Bytes},
      parts[i]? = some (field, payload) → payload.length < 65536 :=
    fun hpart => Nat.lt_succ_of_le (hfit _ (List.mem_of_getElem? hpart))
  have hoffset (i : Nat) : 72 + (joined (parts.take i)).length < 0x100000000 := by
    have htaken : (joined (parts.take i)).length ≤ 65535 * (parts.take i).length :=
      length_joined_le fun part hpart => hfit part (List.mem_of_mem_take hpart)
    have hcount := List.length_take_le' i parts
    omega
  constructor
  case body =>
    rw [hmsg, List.length_append, hlength, ← hlength, List.drop_left]
    exact ⟨rfl, rfl⟩
  case start =>
    refine ⟨Bytes.slice?_of_prefix [] ?_ rfl hsignature,
      Bytes.readLE?_of_prefix signature ?_ hsignature (by decide)⟩
    all_goals simp [messageOf]
  case flags =>
    refine Bytes.readLE?_of_prefix (signature ++ Bytes.ofNatLE 4 3 ++ buffersFrom 72 parts)
      ?_ hbuffers hflags
    simp [messageOf, authenticateHeaderLength]
  case version =>
    refine Bytes.slice?_of_prefix (signature ++ Bytes.ofNatLE 4 3 ++ buffersFrom 72 parts
      ++ Bytes.ofNatLE 4 flags) (List.prefix_append _ _) ?_ hversion
    rw [List.length_append, hbuffers, Bytes.length_ofNatLE]
  case header =>
    intro i field payload hpart
    obtain ⟨front, hfront, hprefix⟩ := messageOf_buffer flags hpart
    have hreads := readLE?_bufferHeader front hprefix hfront (hshort hpart) (hoffset i)
    rwa [show 12 + 8 * i + 2 = 14 + 8 * i by omega,
      show 12 + 8 * i + 4 = 16 + 8 * i by omega] at hreads
  case inside => exact fun i field payload hpart => slice?_messageOf hsix hpart
  case buffer =>
    intro i field payload hpart
    obtain ⟨front, hfront, hprefix⟩ := messageOf_buffer flags hpart
    exact readBuffer_bufferHeader front hprefix hfront (hshort hpart) (hoffset i)
      (slice?_messageOf hsix hpart)

/-- A message that was made is laid out as it should be. -/
theorem laidOut_of_authenticate {account : Account} {challenge : ChallengeMessage}
    {nonce msg : Bytes} {timestamp : Nat}
    (h : authenticate account challenge nonce timestamp = .ok msg) :
    LaidOut (payloads account challenge nonce timestamp) (authenticateFlags challenge) msg := by
  rw [authenticate_eq] at h
  split at h
  · cases h
  · rename_i hfit
    cases h
    exact laidOut_messageOf rfl (oversized?_eq_none_iff.mp hfit) (authenticateFlags_lt challenge)

/-- An authenticate message is refused, naming the first field that is too long, or it has the six
payloads back to back behind its header, each of them read through the buffer of its field. -/
theorem authenticate_layout (account : Account) (challenge : ChallengeMessage) (nonce : Bytes)
    (timestamp : Nat) :
    let parts := payloads account challenge nonce timestamp
    parts.map Prod.fst =
        [.lmResponse, .ntResponse, .domain, .user, .workstation, .sessionKey] ∧
      parts[5]? = some (.sessionKey, []) ∧
      match parts.find? fun part => 65535 < part.2.length with
      | some part => authenticate account challenge nonce timestamp = .error part.1
      | none => ∃ msg, authenticate account challenge nonce timestamp = .ok msg ∧
          LaidOut parts (challenge.flags &&& answeredFlags ||| Flag.version) msg := by
  intro parts
  refine ⟨rfl, rfl, ?_⟩
  change match oversized? parts with | some _ => _ | none => _
  have heq := authenticate_eq account challenge nonce timestamp
  cases hlong : oversized? parts with
  | some part =>
    rw [hlong] at heq
    exact heq
  | none =>
    rw [hlong] at heq
    exact ⟨_, heq, laidOut_messageOf rfl (oversized?_eq_none_iff.mp hlong)
      (authenticateFlags_lt challenge)⟩

end HttpClient.Ntlm
