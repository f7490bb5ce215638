import HttpClient.Proofs.Auth.Ntlm.Layout
import HttpClient.Proofs.Text.Decoding

/-!
# Verifying an authenticate message

A server that knows the password makes the digest of a response of the second version again, from
the user name that the message carries, a domain and the data behind the digest. The NT response is
made with the domain of the account as it is and the LM response with all of it in upper case, but
the message carries only its first label, in upper case. For that domain the digests are the same
ones when the domain of the account has that form already.
-/

namespace HttpClient.Ntlm

/-- What a server needs of an authenticate message. -/
structure Answer where
  lmResponse : Bytes
  ntResponse : Bytes
  domain : Bytes
  user : Bytes
  deriving DecidableEq, Repr

namespace Answer

/-- Reads an answer through its buffers. -/
def read (msg : Bytes) : Except Malformed Answer := do
  let lmResponse ← readBuffer msg 12
  let ntResponse ← readBuffer msg 20
  let domain ← readBuffer msg 28
  let user ← readBuffer msg 36
  return { lmResponse, ntResponse, domain, user }

/-- An answer is read from a message that holds its parts. -/
theorem read_of_laidOut {msg lm nt domain user workstation : Bytes} {flags : Nat}
    (h : LaidOut [(.lmResponse, lm), (.ntResponse, nt), (.domain, domain), (.user, user),
      (.workstation, workstation), (.sessionKey, [])] flags msg) :
    read msg = .ok { lmResponse := lm, ntResponse := nt, domain := domain, user := user } := by
  have hlm : readBuffer msg 12 = .ok lm := h.buffer 0 .lmResponse _ rfl
  have hnt : readBuffer msg 20 = .ok nt := h.buffer 1 .ntResponse _ rfl
  have hdomain : readBuffer msg 28 = .ok domain := h.buffer 2 .domain _ rfl
  have huser : readBuffer msg 36 = .ok user := h.buffer 3 .user _ rfl
  rw [read, hlm, hnt, hdomain, huser]
  rfl

/-- The digest over both sides' data that a server makes itself when it takes these bytes for the
domain. -/
def recompute (a : Answer) (password : String) (serverChallenge domain data : Bytes) : Bytes :=
  let key := Hmac.md5 (ntHash password)
    (Utf16.encodeLE (UpperCase.ofString (Utf16.decodeLossyLE a.user)) ++ domain)
  Hmac.md5 key (serverChallenge ++ data)

/-- True of a response, a digest and the data that it was made over, that the server accepts. -/
def Verifies (a : Answer) (password : String) (serverChallenge domain response : Bytes) : Prop :=
  response.take 16 = a.recompute password serverChallenge domain (response.drop 16)

instance (a : Answer) (password : String) (serverChallenge domain response : Bytes) :
    Decidable (a.Verifies password serverChallenge domain response) :=
  inferInstanceAs (Decidable (_ = _))

/-- The digest made for the user of an answer and a domain is accepted for this domain. -/
theorem verifies_v2Response {a : Answer} {user : String} (huser : a.user = Utf16.encodeLE user)
    (password : String) (serverChallenge domain data : Bytes) :
    a.Verifies password serverChallenge domain
      (v2Response (Hmac.md5 (ntHash password) (Utf16.encodeLE (UpperCase.ofString user) ++ domain))
        serverChallenge data) := by
  rw [Verifies, v2Response, List.take_left' (Hmac.length_md5 _ _),
    List.drop_left' (Hmac.length_md5 _ _), recompute, huser, Utf16.decodeLossyLE_encodeLE]

end Answer

variable {account : Account} {challenge : ChallengeMessage} {nonce msg info : Bytes}
  {timestamp : Nat}

/-- The domain of an account; the empty one where there is none. -/
def Account.ownDomain (account : Account) : String := account.domain.getD ""

/-- The domain that a message carries: its first label in upper case. -/
def Account.sentDomain (account : Account) : String :=
  UpperCase.ofString (stripSuffix account.ownDomain)

/-- The answer that an account gives to a challenge with target info. -/
def answerOf (account : Account) (serverChallenge nonce info : Bytes) (timestamp : Nat) :
    Answer where
  lmResponse :=
    v2Response (lmv2Hash (ntHash account.password) account.user account.ownDomain) serverChallenge
      nonce
  ntResponse :=
    v2Response (v2Hash (ntHash account.password) account.user account.ownDomain) serverChallenge
      (v2Blob nonce info timestamp)
  domain := Utf16.encodeLE account.sentDomain
  user := Utf16.encodeLE account.user

/-- The domain field of an account, where texts are UTF-16. -/
theorem encode_sentDomain (account : Account) :
    (account.domain.map fun d => Utf16.encodeLE (UpperCase.ofString (stripSuffix d))).getD [] =
      Utf16.encodeLE account.sentDomain := by
  cases hdomain : account.domain with
  | none =>
    have hsent : account.sentDomain = "" := by
      rw [Account.sentDomain, Account.ownDomain, hdomain]
      rfl
    rw [hsent]
    rfl
  | some d => rw [Account.sentDomain, Account.ownDomain, hdomain, Option.map_some,
      Option.getD_some, Option.getD_some]

/-- The server reads the answer that was given. -/
theorem read_of_authenticate (hinfo : challenge.targetInfo = some info)
    (hunicode : hasFlag challenge.flags Flag.unicode = true)
    (hmsg : authenticate account challenge nonce timestamp = .ok msg) :
    Answer.read msg = .ok (answerOf account challenge.serverChallenge nonce info timestamp) := by
  have hlaid := laidOut_of_authenticate hmsg
  simp only [payloads, responses, hinfo, encodeText, hunicode, if_true, encode_sentDomain] at hlaid
  rw [answerOf, Account.ownDomain]
  exact Answer.read_of_laidOut hlaid

/-- The NT response is accepted for the domain of the account as it is. -/
theorem verifies_ntResponse (account : Account) (serverChallenge nonce info : Bytes)
    (timestamp : Nat) :
    let answer := answerOf account serverChallenge nonce info timestamp
    answer.Verifies account.password serverChallenge (Utf16.encodeLE account.ownDomain)
      answer.ntResponse :=
  Answer.verifies_v2Response rfl account.password serverChallenge _ (v2Blob nonce info timestamp)

/-- A server reads user name, domain and responses of an answer to a challenge with target info, and
accepts the NT response for the domain of the account as it is. For the domain that the message
carries it accepts it when that is the same one. -/
theorem authenticate_verifies (hinfo : challenge.targetInfo.isSome = true)
    (hunicode : hasFlag challenge.flags Flag.unicode = true)
    (hmsg : authenticate account challenge nonce timestamp = .ok msg) :
    ∃ answer, Answer.read msg = .ok answer ∧
      answer.user = Utf16.encodeLE account.user ∧
      answer.domain = Utf16.encodeLE account.sentDomain ∧
      answer.Verifies account.password challenge.serverChallenge
        (Utf16.encodeLE account.ownDomain) answer.ntResponse ∧
      (account.sentDomain = account.ownDomain →
        answer.Verifies account.password challenge.serverChallenge answer.domain
          answer.ntResponse) := by
  obtain ⟨info, hinfo⟩ := Option.isSome_iff_exists.mp hinfo
  have hverifies := verifies_ntResponse account challenge.serverChallenge nonce info timestamp
  -- Not by `rfl`, which would compare both texts by computing them.
  have hdomain : (answerOf account challenge.serverChallenge nonce info timestamp).domain =
      Utf16.encodeLE account.sentDomain := by rw [answerOf]
  refine ⟨_, read_of_authenticate hinfo hunicode hmsg, rfl, hdomain, hverifies, fun hsame => ?_⟩
  rw [hdomain, hsame]
  exact hverifies

/-- A challenge that asks for the second version. -/
def infoChallenge : ChallengeMessage where
  flags := 0x00800201
  serverChallenge := [0x53, 0x72, 0x76, 0x4E, 0x6F, 0x6E, 0x63, 0x65]
  target := none
  targetInfo := some [0, 0, 0, 0]

/-- An account in a domain. -/
def memberOf (domain : String) : Account where
  domain := some domain
  workstation := none
  user := "Zaphod"
  password := "Beeblebrox"

/-- What a member of a domain sends in answer to the challenge. -/
def memberMessage (domain : String) : Except Field Bytes :=
  authenticate (memberOf domain) infoChallenge [1, 2, 3, 4, 5, 6, 7, 8] 42

theorem exists_of_isOk {result : Except Field Bytes} (h : result.isOk = true) :
    ∃ msg, result = .ok msg := by
  cases result with
  | ok msg => exact ⟨msg, rfl⟩
  | error field => cases h

/-- The answer of a member of a domain in one label and upper case is accepted. -/
theorem upperCase_domain_verifies : ∃ msg answer, memberMessage "URSA-MINOR" = .ok msg ∧
    Answer.read msg = .ok answer ∧
      answer.Verifies "Beeblebrox" infoChallenge.serverChallenge answer.domain
        answer.ntResponse := by
  obtain ⟨msg, hmsg⟩ := exists_of_isOk
    (show (memberMessage "URSA-MINOR").isOk = true by decide +kernel)
  have hsame : (memberOf "URSA-MINOR").sentDomain = (memberOf "URSA-MINOR").ownDomain := by
    decide +kernel
  obtain ⟨answer, hread, -, -, -, hverifies⟩ :=
    authenticate_verifies (show infoChallenge.targetInfo.isSome = true from rfl)
      (by decide +kernel) hmsg
  exact ⟨msg, answer, hmsg, hread, hverifies hsame⟩

/-- A domain with a suffix goes into the response as it is, but the message does not carry the
suffix. -/
theorem suffixed_domain_not_verified :
    ¬ ∀ (account : Account) (challenge : ChallengeMessage) (nonce : Bytes) (timestamp : Nat)
        (msg : Bytes), challenge.targetInfo.isSome = true →
      hasFlag challenge.flags Flag.unicode = true →
      authenticate account challenge nonce timestamp = .ok msg →
        ∃ answer, Answer.read msg = .ok answer ∧
          answer.Verifies account.password challenge.serverChallenge answer.domain
            answer.ntResponse := by
  intro hall
  obtain ⟨msg, hmsg⟩ := exists_of_isOk
    (show (memberMessage "URSA-MINOR.EXAMPLE").isOk = true by decide +kernel)
  obtain ⟨answer, hread, hverifies⟩ := hall _ infoChallenge _ _ msg rfl (by decide +kernel) hmsg
  have hanswer := read_of_authenticate rfl (by decide +kernel) hmsg
  obtain rfl := Except.ok.inj (hread.symm.trans hanswer)
  exact absurd hverifies (by decide +kernel)

end HttpClient.Ntlm
