import HttpClient.Proofs.Auth.Rounds

/-!
# Handshakes that start anew

The state of a handshake stays with its connection, and later requests go on from it. Where nothing
failed the state tells which message was sent last: after a negotiate message it waits for the
answer, also when the response was no challenge, and a challenge that asks for a new handshake ends
it. After any other credentials, or none, such a challenge starts the handshake.
-/

namespace HttpClient

/-- The credentials that a request is sent again with. -/
def NextAction.credentials? : NextAction → Option HeaderValue
  | .retry header _ => some header
  | .fail _ | .done => none

namespace Negotiator

/-- The credentials that an event sends. -/
def sends? (n : Negotiator) : AuthEvent → Option HeaderValue
  | .preempt realm request supply =>
    if n.shouldPreempt realm then (n.preempt realm request supply).1.toOption.join
    else Option.none
  | .challenge challenges realm request supply =>
    (n.onChallenge challenges realm request supply).1.credentials?
  | .success => Option.none

/-- The credentials that a list of events sends, in order. -/
def sent : Negotiator → List AuthEvent → List HeaderValue
  | _, [] => []
  | n, event :: events => (n.sends? event).toList ++ (n.meet event).sent events

/-- What is sent last is sent by the last event that sends anything. -/
theorem getLast?_sent_cons (n : Negotiator) (event : AuthEvent) (events : List AuthEvent)
    (last : Option HeaderValue) :
    (n.sent (event :: events)).getLast?.or last =
      ((n.meet event).sent events).getLast?.or ((n.sends? event).or last) := by
  rw [sent, List.getLast?_append, Option.or_assoc]
  cases n.sends? event with
  | none => rfl
  | some header => rfl

end Negotiator

namespace NtlmAuth

variable {s t : NtlmAuth} {last : Option HeaderValue} {challenges : List Challenge}
  {action : NextAction}

/-- Where a handshake stands that did not fail, when these were the last credentials. -/
structure Follows (s : NtlmAuth) (last : Option HeaderValue) : Prop where
  lives : s.stage ≠ .challenged ∧ s.stage ≠ .failed
  /-- It waits for the server exactly when the negotiate message was the last. -/
  negotiated : s.stage = .negotiated ↔ last = some Ntlm.negotiateHeader
  fresh : s.stage = .authenticated → s.restarted = false

theorem Follows.initial : NtlmAuth.Follows {} none where
  lives := by simp
  negotiated := by simp
  fresh := by simp

/-- A negotiate message is on its way. -/
theorem Follows.of_negotiated (hstage : s.stage = .negotiated) :
    s.Follows (some Ntlm.negotiateHeader) where
  lives := by simp [hstage]
  negotiated := by simp [hstage]
  fresh := by simp [hstage]

/-- A response that is no challenge sends nothing and completes the handshake it answers. -/
theorem Follows.onSuccess (h : s.Follows last) : s.onSuccess.Follows last := by
  unfold NtlmAuth.onSuccess
  split
  · rename_i hstage
    have hother : last ≠ some Ntlm.negotiateHeader := by
      intro hlast
      have hnegotiated := h.negotiated.mpr hlast
      rw [hstage] at hnegotiated
      cases hnegotiated
    constructor
    case lives => simp
    case negotiated => simp [hother]
    case fresh => exact fun _ => rfl
  · exact h

/-- After a response that is no challenge no answer is awaited. -/
theorem stage_onSuccess_ne_answered (s : NtlmAuth) : s.onSuccess.stage ≠ .answered := by
  unfold onSuccess
  split
  · simp
  · assumption

/-- Challenges that do not end the handshake have it follow what they are answered with. -/
theorem Follows.of_advances (h : s.Advances challenges action t)
    (hgood : ∀ failure, action ≠ .fail failure) : t.Follows (action.credentials?.or last) := by
  cases h with
  | fail failure => exact absurd rfl (hgood failure)
  | start _ _ _ => exact .of_negotiated rfl
  | restart _ _ _ _ => exact .of_negotiated rfl
  | @answer header _ hheader =>
    have hother : header ≠ Ntlm.negotiateHeader := by
      rintro rfl
      exact Ntlm.not_isAuthenticate_negotiateHeader hheader
    constructor
    case lives => simp
    case negotiated => simp [NextAction.credentials?, hother]
    case fresh => simp

/-- A challenge without a token is answered by the negotiate message, unless that was the last. -/
theorem Follows.onChallenge {c : Challenge} (h : s.Follows last) (hunanswered : s.stage ≠ .answered)
    (hfind : Challenge.find? challenges "NTLM" = some c) (htoken : c.token = none) (realm : Realm)
    (supply : Supply) :
    (s.onChallenge challenges realm supply).1 =
      if last = some Ntlm.negotiateHeader then
        .fail (.violation "NTLM challenge without a Type 2 message")
      else .retry Ntlm.negotiateHeader true := by
  have hnegotiated := h.negotiated
  simp only [NtlmAuth.onChallenge, hfind, htoken]
  cases hstage : s.stage with
  | challenged => exact absurd hstage h.lives.1
  | failed => exact absurd hstage h.lives.2
  | answered => exact absurd hstage hunanswered
  | negotiated =>
    rw [if_pos (hnegotiated.mp hstage)]
    rfl
  | initial =>
    have hother : last ≠ some Ntlm.negotiateHeader := by simpa [hstage] using hnegotiated
    rw [if_neg hother]
    rfl
  | authenticated =>
    have hother : last ≠ some Ntlm.negotiateHeader := by simpa [hstage] using hnegotiated
    rw [if_neg hother, h.fresh hstage]
    rfl

end NtlmAuth

namespace Negotiator

variable {s : NtlmAuth} {last : Option HeaderValue}

/-- An event that does not end a handshake sends what it then follows. -/
theorem follows_meet {event : AuthEvent} (h : s.Follows last)
    (hgood : ∀ r ∈ (ntlm s).round? event, ¬ r.IsFail) :
    ∃ t, (ntlm s).meet event = ntlm t ∧ t.Follows (((ntlm s).sends? event).or last) := by
  cases event with
  | preempt realm request supply =>
    rw [meet, sends?]
    split
    · exact ⟨_, rfl, .of_negotiated rfl⟩
    · exact ⟨s, rfl, h⟩
  | success => exact ⟨s.onSuccess, rfl, h.onSuccess⟩
  | challenge challenges realm request supply =>
    have hround := mem_round? (ntlm s) challenges realm request supply
    obtain ⟨t, hmeet, hadvances⟩ := advances_ntlm hround
    refine ⟨t, hmeet, .of_advances hadvances ?_⟩
    intro failure hfail
    exact hgood _ hround ⟨failure, hfail⟩

/-- A handshake in which nothing fails follows the credentials that were sent last. -/
theorem follows_after (events : List AuthEvent) :
    ∀ (s : NtlmAuth) (last : Option HeaderValue), s.Follows last →
      (∀ r ∈ (ntlm s).rounds events, ¬ r.IsFail) →
        ∃ t, (ntlm s).after events = ntlm t ∧
          t.Follows (((ntlm s).sent events).getLast?.or last) := by
  induction events with
  | nil =>
    intro s last h _
    exact ⟨s, rfl, h⟩
  | cons event events ih =>
    intro s last h hgood
    simp only [rounds, List.forall_mem_append, Option.mem_toList] at hgood
    obtain ⟨t, hmeet, ht⟩ := follows_meet h hgood.1
    rw [hmeet] at hgood
    rw [getLast?_sent_cons, after, List.foldl_cons, hmeet]
    exact ih t _ ht hgood.2

/-- After a response that is no challenge, a challenge without a token starts a new handshake,
unless the last credentials were a negotiate message: its answer is still awaited, and the challenge
is refused. -/
theorem bare_challenge_after_success (events : List AuthEvent)
    (hgood : ∀ r ∈ (ntlm {}).rounds events, ¬ r.IsFail) {challenges : List Challenge}
    {c : Challenge} (hfind : Challenge.find? challenges "NTLM" = some c)
    (htoken : c.token = Option.none) (realm : Realm) (request : AuthRequest) (supply : Supply) :
    (((ntlm {}).after (events ++ [.success])).onChallenge challenges realm request supply).1 =
      if ((ntlm {}).sent events).getLast? = some Ntlm.negotiateHeader then
        .fail (.violation "NTLM challenge without a Type 2 message")
      else .retry Ntlm.negotiateHeader true := by
  obtain ⟨s, hafter, hs⟩ := follows_after events {} Option.none .initial hgood
  rw [Option.or_none] at hs
  have hsuccess : (ntlm {}).after (events ++ [.success]) = ntlm s.onSuccess := by
    rw [after, List.foldl_append]
    exact congrArg onSuccess hafter
  rw [hsuccess]
  exact hs.onSuccess.onChallenge s.stage_onSuccess_ne_answered hfind htoken realm supply

/-- An account that sends its first message unasked. -/
def eagerAccount : Realm :=
  { scheme := .ntlm, principal := "Zaphod", password := "Beeblebrox", preemptive := true }

/-- The request that the account is used for. -/
def plainRequest : AuthRequest := { method := "GET", uri := "/", host := "h.example" }

/-- A challenge that asks for a handshake. -/
def bareChallenge : Challenge := { scheme := "NTLM" }

/-- A handshake up to its last message. -/
def handshake : List AuthEvent :=
  [.challenge [bareChallenge] eagerAccount plainRequest {},
    .challenge
      [{ bareChallenge with
          token := some "TlRMTVNTUAACAAAAAAAAACgAAAABggAAU3J2Tm9uY2UAAAAAAAAAAA==" }]
      eagerAccount plainRequest { nonces := [[0, 1, 2, 3, 4, 5, 6, 7]] }]

/-- A connection that is authenticated can be authenticated once more. -/
theorem handshake_restarts :
    (∀ r ∈ (ntlm {}).rounds handshake, ¬ r.IsFail) ∧
      Challenge.find? [bareChallenge] "NTLM" = some bareChallenge ∧
      (((ntlm {}).after (handshake ++ [.success])).onChallenge [bareChallenge] eagerAccount
        plainRequest {}).1 = .retry Ntlm.negotiateHeader true := by
  have hgood : ∀ r ∈ (ntlm {}).rounds handshake, ¬ r.IsFail := by decide +kernel
  have hfind : Challenge.find? [bareChallenge] "NTLM" = some bareChallenge := by decide +kernel
  -- The last message is too long to be evaluated, but the stage tells that it is another one.
  have hanswered : (ntlm {}).after handshake = ntlm { stage := .answered } := by decide +kernel
  obtain ⟨s, hafter, hs⟩ := follows_after handshake {} Option.none .initial hgood
  obtain rfl : s = { stage := .answered } := ntlm.inj (hafter.symm.trans hanswered)
  have hlast : ((ntlm {}).sent handshake).getLast? ≠ some Ntlm.negotiateHeader := by
    simpa using hs.negotiated
  refine ⟨hgood, hfind, ?_⟩
  rw [bare_challenge_after_success handshake hgood hfind rfl, if_neg hlast]

/-- A message sent unasked to a server that does not want it leaves the connection in a state in
which the handshake cannot start. -/
theorem unasked_message_blocks_handshake :
    ¬ ∀ (events : List AuthEvent) (challenges : List Challenge) (realm : Realm)
        (request : AuthRequest) (supply : Supply) (c : Challenge),
      (∀ r ∈ (ntlm {}).rounds events, ¬ r.IsFail) → events.getLast? = some .success →
        Challenge.find? challenges "NTLM" = some c → c.token = Option.none →
          (((ntlm {}).after events).onChallenge challenges realm request supply).1 =
            .retry Ntlm.negotiateHeader true := by
  intro hall
  have hretry := hall [.preempt eagerAccount plainRequest {}, .success] [bareChallenge] eagerAccount
    plainRequest {} bareChallenge (by decide +kernel) rfl (by decide +kernel) rfl
  have hrefused : (((ntlm {}).after
      [.preempt eagerAccount plainRequest {}, .success]).onChallenge [bareChallenge] eagerAccount
        plainRequest {}).1 = .fail (.violation "NTLM challenge without a Type 2 message") := by
    decide +kernel
  rw [hrefused] at hretry
  cases hretry

end Negotiator

end HttpClient
