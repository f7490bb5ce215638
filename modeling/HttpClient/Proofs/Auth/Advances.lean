import HttpClient.Auth.Negotiator

/-!
# What challenges do

For each scheme it is said once what a challenge can do to the state of authentication: which answer
it gets, in which states, and where it leads. The messages of an NTLM handshake can be told apart
by the headers that carry them, as an authenticate message is longer than the negotiate message.
-/

namespace HttpClient

/-- A text takes at least a byte for each of its characters. -/
theorem Utf8.length_le_length_encode (s : String) :
    s.toList.length ≤ (Utf8.encode s).length := by
  rw [encode]
  induction s.toList with
  | nil => exact Nat.le_refl _
  | cons c cs ih =>
    have hhead := c.utf8Size_pos
    rw [List.flatMap_cons, List.length_append, String.length_utf8EncodeChar, List.length_cons]
    omega

/-- Base64 makes nothing shorter. -/
theorem Base64.length_le_length_encodeChars (bytes : Bytes) :
    bytes.length ≤ (Base64.encodeChars bytes).length := by
  fun_induction Base64.encodeChars bytes with
  | case1 => exact Nat.le_refl _
  | case2 a => exact Nat.le_add_left _ _
  | case3 a b => exact Nat.le_add_left _ _
  | case4 a b c rest ih =>
    simp only [List.length_cons]
    omega

/-- A header with a token is no shorter than the token. -/
theorem Credentials.length_le_length_token (scheme : String) (bytes : Bytes) :
    scheme.toList.length + 1 + bytes.length ≤ (Credentials.token scheme bytes).bytes.length := by
  have htext := Utf8.length_le_length_encode (scheme ++ " " ++ Base64.encode bytes)
  have hbase := Base64.length_le_length_encodeChars bytes
  simp only [String.toList_append, List.length_append, Base64.encode, String.toList_ofList] at htext
  have hblank : (" " : String).toList.length = 1 := rfl
  simp only [Credentials.token, Base64.encode]
  omega

namespace Ntlm

/-- The headers of payloads have eight bytes each. -/
theorem length_bufferHeaders (parts : List (Field × Bytes)) :
    ∀ (offset : Nat) (headers : Bytes), bufferHeaders offset parts = .ok headers →
      headers.length = 8 * parts.length := by
  induction parts with
  | nil =>
    intro offset headers h
    cases h
    rfl
  | cons part parts ih =>
    intro offset headers h
    obtain ⟨field, payload⟩ := part
    rw [bufferHeaders] at h
    split at h
    · cases hmore : bufferHeaders (offset + payload.length) parts with
      | error field =>
        rw [hmore] at h
        cases h
      | ok more =>
        rw [hmore] at h
        obtain rfl : bufferHeader payload.length offset ++ more = headers := by
          simpa [bind, Except.bind, pure, Except.pure] using h
        have hrest := ih _ _ hmore
        simp only [List.length_append, bufferHeader, Bytes.length_ofNatLE, hrest, List.length_cons]
        omega
    · cases h

/-- What stands before the payloads of an authenticate message is there in any case. -/
theorem length_authenticate {account : Account} {challenge : ChallengeMessage} {nonce : Bytes}
    {timestamp : Nat} {message : Bytes}
    (h : authenticate account challenge nonce timestamp = .ok message) :
    authenticateHeaderLength ≤ message.length := by
  unfold authenticate at h
  cases hheaders : bufferHeaders authenticateHeaderLength
      (payloads account challenge nonce timestamp) with
  | error field =>
    simp only [hheaders] at h
    cases h
  | ok headers =>
    have hlength := length_bufferHeaders _ _ _ hheaders
    have hsix : (payloads account challenge nonce timestamp).length = 6 := rfl
    rw [hsix] at hlength
    simp only [hheaders, bind, Except.bind, pure, Except.pure, Except.ok.injEq] at h
    subst h
    simp only [List.length_append, Bytes.length_ofNatLE, hlength, authenticateHeaderLength]
    have hsignature : signature.length = 8 := rfl
    have hversion : versionBytes.length = 8 := rfl
    omega

/-- The header with the negotiate message. -/
def negotiateHeader : HeaderValue := Credentials.token "NTLM" negotiate

/-- A header with an authenticate message. -/
def IsAuthenticate (header : HeaderValue) : Prop :=
  ∃ account challenge nonce timestamp message,
    authenticate account challenge nonce timestamp = .ok message ∧
      header = Credentials.token "NTLM" message

/-- The two messages are told apart by their length. -/
theorem not_isAuthenticate_negotiateHeader : ¬ IsAuthenticate negotiateHeader := by
  rintro ⟨account, challenge, nonce, timestamp, message, hmessage, heq⟩
  have hlength := length_authenticate hmessage
  have htoken := Credentials.length_le_length_token "NTLM" message
  have hshort : negotiateHeader.bytes.length = 61 := by decide +kernel
  have hscheme : ("NTLM" : String).toList.length = 4 := rfl
  rw [← heq] at htoken
  simp only [authenticateHeaderLength] at hlength
  omega

end Ntlm

namespace NtlmAuth

variable {n m : NtlmAuth} {challenges : List Challenge} {realm : Realm} {supply rest : Supply}
  {action : NextAction}

/-- All that challenges can do to a handshake. -/
inductive Advances (n : NtlmAuth) (challenges : List Challenge) : NextAction → NtlmAuth → Prop
  /-- The handshake ends. -/
  | fail (failure : Failure) : Advances n challenges (.fail failure) { n with stage := .failed }
  /-- A challenge without a token starts the handshake. -/
  | start {c : Challenge} (hfind : Challenge.find? challenges "NTLM" = some c)
    (htoken : c.token = none) (hstage : n.stage = .initial) :
    Advances n challenges (.retry Ntlm.negotiateHeader true) { n with stage := .negotiated }
  /-- A challenge without a token starts the handshake once more. -/
  | restart {c : Challenge} (hfind : Challenge.find? challenges "NTLM" = some c)
    (htoken : c.token = none) (hstage : n.stage = .authenticated) (hfirst : n.restarted = false) :
    Advances n challenges (.retry Ntlm.negotiateHeader true)
      { stage := .negotiated, restarted := true }
  /-- The challenge message is answered. -/
  | answer {header : HeaderValue} (hstage : n.stage = .negotiated)
    (hheader : Ntlm.IsAuthenticate header) :
    Advances n challenges (.retry header true) { n with stage := .answered }

/-- Answering a challenge message succeeds or ends the handshake. -/
private theorem advances_authenticate {token : String} (hstage : n.stage = .negotiated)
    (h : n.authenticate token realm supply = (action, m, rest)) :
    n.Advances challenges action m := by
  simp only [authenticate, NtlmAuth.fail] at h
  split at h
  · simp only [Prod.mk.injEq] at h
    obtain ⟨rfl, rfl, -⟩ := h
    exact .fail _
  · split at h
    · simp only [Prod.mk.injEq] at h
      obtain ⟨rfl, rfl, -⟩ := h
      exact .fail _
    · split at h
      · simp only [Prod.mk.injEq] at h
        obtain ⟨rfl, rfl, -⟩ := h
        exact .fail _
      · rename_i message hmessage
        simp only [Prod.mk.injEq] at h
        obtain ⟨rfl, rfl, -⟩ := h
        exact .answer hstage ⟨_, _, _, _, message, hmessage, rfl⟩

/-- A handshake advances with every challenge. -/
theorem advances_onChallenge (h : n.onChallenge challenges realm supply = (action, m, rest)) :
    n.Advances challenges action m := by
  have hstop {failure : Failure} (heq : (NextAction.fail failure, { n with stage := .failed },
      supply) = (action, m, rest)) : n.Advances challenges action m := by
    simp only [Prod.mk.injEq] at heq
    obtain ⟨rfl, rfl, -⟩ := heq
    exact .fail failure
  simp only [onChallenge, NtlmAuth.fail, negotiate] at h
  cases hfind : Challenge.find? challenges "NTLM" with
  | none =>
    simp only [hfind] at h
    exact hstop h
  | some c =>
    simp only [hfind] at h
    split at h
    case h_1 hstage htoken =>
      simp only [Prod.mk.injEq] at h
      obtain ⟨rfl, rfl, -⟩ := h
      exact .start hfind htoken hstage
    case h_2 => exact hstop h
    case h_3 hstage htoken => exact advances_authenticate hstage h
    case h_4 => exact hstop h
    case h_5 hstage htoken =>
      split at h
      · exact hstop h
      · rename_i hfirst
        simp only [Prod.mk.injEq] at h
        obtain ⟨rfl, rfl, -⟩ := h
        exact .restart hfind htoken hstage (Bool.not_eq_true _ ▸ hfirst)
    all_goals exact hstop h

end NtlmAuth

namespace DigestAuth

variable {d e : DigestAuth} {challenges : List Challenge} {realm : Realm} {request : AuthRequest}
  {supply rest : Supply} {action : NextAction}

/-- All that challenges can do to a digest. -/
inductive Advances (d : DigestAuth) (challenges : List Challenge) :
    NextAction → DigestAuth → Prop
  /-- It is given up; a stale challenge may have been noted. -/
  | fail {staleRetried : Bool} (failure : Failure)
    (hnoted : d.staleRetried = true → staleRetried = true) :
    Advances d challenges (.fail failure) { d with staleRetried := staleRetried }
  /-- It is made for the first time. -/
  | answer {header : HeaderValue} {params : Option Digest.Params} {nc : UInt32}
    (hunsent : d.sent = false) :
    Advances d challenges (.retry header true)
      { d with params := params, nc := nc, sent := true }
  /-- It is made anew for a stale challenge. -/
  | renew {c : Challenge} {header : HeaderValue} {params : Option Digest.Params} {nc : UInt32}
    (hfind : Challenge.find? challenges "Digest" = some c)
    (hstale : (c.param? "stale").any (Ascii.sameLetters · "true") = true)
    (hsent : d.sent = true) (hfirst : d.staleRetried = false) :
    Advances d challenges (.retry header true)
      { params := params, nc := nc, sent := true, staleRetried := true }

/-- A challenge is refused, or it is answered afresh: the first time, or once more when it is
stale. -/
theorem onChallenge_cases (d : DigestAuth) (challenges : List Challenge) (realm : Realm)
    (request : AuthRequest) (supply : Supply) :
    (∃ failure, d.onChallenge challenges realm request supply = (.fail failure, d, supply)) ∨
      ∃ c params, Challenge.find? challenges "Digest" = some c ∧
        Digest.Params.ofChallenge c = .ok params ∧
        (d.sent = false ∧ d.onChallenge challenges realm request supply =
            d.answerFresh params realm request supply ∨
          d.sent = true ∧ d.staleRetried = false ∧
            (c.param? "stale").any (Ascii.sameLetters · "true") = true ∧
            d.onChallenge challenges realm request supply =
              { d with staleRetried := true }.answerFresh params realm request supply) := by
  unfold onChallenge
  cases hfind : Challenge.find? challenges "Digest" with
  | none => exact Or.inl ⟨_, rfl⟩
  | some c =>
    cases hparams : Digest.Params.ofChallenge c with
    | error failure => exact Or.inl ⟨failure, by simp only [hparams]⟩
    | ok params =>
      simp only [hparams]
      by_cases hsent : d.sent = true
      · rw [if_pos hsent]
        split
        · rename_i hstale
          rw [Bool.and_eq_true, Bool.not_eq_true'] at hstale
          exact Or.inr ⟨c, params, rfl, hparams, Or.inr ⟨hsent, hstale.2, hstale.1, rfl⟩⟩
        · exact Or.inl ⟨_, rfl⟩
      · rw [if_neg hsent]
        exact Or.inr ⟨c, params, rfl, hparams, Or.inl ⟨Bool.eq_false_iff.mpr hsent, rfl⟩⟩

/-- A digest advances with every challenge. -/
theorem advances_onChallenge
    (h : d.onChallenge challenges realm request supply = (action, e, rest)) :
    d.Advances challenges action e := by
  rcases d.onChallenge_cases challenges realm request supply with ⟨failure, hrefuse⟩ |
    ⟨c, params, hfind, -, ⟨hunsent, hanswer⟩ | ⟨hsent, hfirst, hstale, hanswer⟩⟩
  · rw [hrefuse, Prod.mk.injEq, Prod.mk.injEq] at h
    obtain ⟨rfl, rfl, -⟩ := h
    exact .fail failure id
  · rw [hanswer, answerFresh] at h
    split at h <;> obtain ⟨rfl, rfl, -⟩ := h
    · exact .fail .entropy id
    · exact .answer hunsent
  · rw [hanswer, answerFresh] at h
    split at h <;> obtain ⟨rfl, rfl, -⟩ := h
    · exact .fail .entropy fun _ => rfl
    · exact .renew hfind hstale hsent hfirst

end DigestAuth

namespace NegotiateAuth

variable {n m : NegotiateAuth} {challenges : List Challenge} {source : TokenSource}
  {request : AuthRequest} {supply rest : Supply} {action : NextAction}

/-- All that challenges can do to an exchange of tokens. -/
inductive Advances (n : NegotiateAuth) : NextAction → NegotiateAuth → Prop
  /-- The exchange is given up. -/
  | fail (failure : Failure) : Advances n (.fail failure) ⟨.failed⟩
  /-- The first token is sent, perhaps not for the first time. -/
  | start {header : HeaderValue} (hstage : n.stage = .initial ∨ n.stage = .established) :
    Advances n (.retry header true) ⟨.tokenSent⟩
  /-- A token of the server is answered. -/
  | next {header : HeaderValue} (hstage : n.stage = .tokenSent) :
    Advances n (.retry header true) n

/-- The first token is sent, or the exchange is given up. -/
private theorem preempt_cases (n : NegotiateAuth) (source : TokenSource) (request : AuthRequest)
    (supply : Supply) :
    (∃ header left, n.preempt source request supply = (.ok header, ⟨.tokenSent⟩, left)) ∨
      ∃ failure left, n.preempt source request supply = (.error failure, ⟨.failed⟩, left) := by
  rcases hfirst : supply.initialToken source request.host with ⟨_ | token, left⟩
  · refine Or.inr ⟨.violation "SPNEGO provider failed to produce a token", left, ?_⟩
    simp only [preempt, hfirst]
  · refine Or.inl ⟨header token, left, ?_⟩
    simp only [preempt, hfirst]

/-- An exchange of tokens advances with every challenge that a source of tokens can answer. -/
theorem advances_onChallenge
    (h : n.onChallenge challenges source request supply = (action, m, rest)) :
    n.Advances action m := by
  have hstop {failure : Failure} {left : Supply}
      (heq : (NextAction.fail failure, (⟨.failed⟩ : NegotiateAuth), left) = (action, m, rest)) :
      n.Advances action m := by
    simp only [Prod.mk.injEq] at heq
    obtain ⟨rfl, rfl, -⟩ := heq
    exact .fail failure
  have hstart (hstage : n.stage = .initial ∨ n.stage = .established) {header : HeaderValue}
      {left : Supply} (heq : (NextAction.retry header true, (⟨.tokenSent⟩ : NegotiateAuth), left) =
        (action, m, rest)) : n.Advances action m := by
    simp only [Prod.mk.injEq] at heq
    obtain ⟨rfl, rfl, -⟩ := heq
    exact .start hstage
  unfold onChallenge at h
  dsimp only at h
  split at h
  · exact hstop h
  · split at h
    case h_1 hstage =>
      obtain ⟨header, left, hfirst⟩ | ⟨failure, left, hfirst⟩ :=
        n.preempt_cases source request supply
      · rw [hfirst] at h
        exact hstart (Or.inl hstage) h
      · rw [hfirst] at h
        exact hstop h
    case h_2 hstage htoken =>
      obtain ⟨header, left, hfirst⟩ | ⟨failure, left, hfirst⟩ :=
        n.preempt_cases source request supply
      · rw [hfirst] at h
        exact hstart (Or.inr hstage) h
      · rw [hfirst] at h
        exact hstop h
    case h_3 token hstage htoken =>
      unfold continueWith at h
      split at h
      · exact hstop h
      · split at h
        · simp only [Prod.mk.injEq] at h
          obtain ⟨rfl, rfl, -⟩ := h
          exact .next hstage
        · exact hstop h
        · exact hstop h
    all_goals exact hstop h

end NegotiateAuth

end HttpClient
