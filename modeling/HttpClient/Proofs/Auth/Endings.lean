import HttpClient.Proofs.Auth.Rounds

/-!
# Authentication comes to an end

No server can keep a client sending credentials. A digest that was sent is only made anew for a
stale challenge, a handshake ends with its authenticate message, and a connection on which NTLM or
Negotiate was given up stays so while nothing is sent unasked.
-/

namespace HttpClient

/-- A realm of the Negotiate scheme comes with a source of tokens. -/
def Realm.IsComplete (realm : Realm) : Prop :=
  realm.scheme = .negotiate → realm.tokens.isSome = true

namespace Negotiator

variable {n : Negotiator} {event : AuthEvent} {r : AuthRound}

/-- The digest was sent. -/
def HasSentDigest : Negotiator → Prop
  | .digest d => d.sent = true
  | _ => False

/-- No challenge brings the handshake further. -/
def IsSpent : Negotiator → Prop
  | .ntlm s => s.stage = .challenged ∨ s.stage = .answered ∨ s.stage = .failed
  | _ => False

/-- The connection was given up. -/
def HasFailed : Negotiator → Prop
  | .ntlm s => s.stage = .failed
  | .negotiate s => s.stage = .failed
  | _ => False

/-! ### A digest that was sent -/

/-- A retry sends the digest. -/
theorem hasSentDigest_of_retry (hscheme : n.scheme? = some .digest) (hr : r ∈ n.round? event)
    (hretry : r.IsRetry) : (n.meet event).HasSentDigest := by
  obtain ⟨header, keep, haction⟩ := hretry
  cases n with
  | none | basic | ntlm | negotiate => cases hscheme
  | digest d =>
    obtain ⟨e, hmeet, hadvances⟩ := advances_digest hr
    rw [haction] at hadvances
    rw [hmeet]
    cases hadvances with
    | answer hunsent => exact rfl
    | renew hfind hstale hsent hfirst => exact rfl

/-- No challenge takes a digest back. -/
private theorem sent_of_advances {d e : DigestAuth} {challenges : List Challenge}
    {action : NextAction} (hsent : d.sent = true) (h : d.Advances challenges action e) :
    e.sent = true := by
  cases h with
  | fail failure hnoted => exact hsent
  | answer hunsent => rfl
  | renew hfind hstale _ hfirst => rfl

theorem HasSentDigest.meet (h : n.HasSentDigest) (hsuccess : event.isSuccess = false) :
    (n.meet event).HasSentDigest := by
  cases n with
  | none | basic | ntlm | negotiate => exact h.elim
  | digest d =>
    have hsent : d.sent = true := h
    cases event with
    | success => cases hsuccess
    | preempt realm request supply =>
      rw [Negotiator.meet]
      split
      · simp only [preempt, DigestAuth.preempt]
        split
        · exact hsent
        · split
          · exact hsent
          · exact rfl
      · exact hsent
    | challenge challenges realm request supply =>
      have hround := mem_round? (.digest d) challenges realm request supply
      obtain ⟨e, hmeet, hadvances⟩ := advances_digest hround
      rw [hmeet]
      exact sent_of_advances hsent hadvances

/-- A digest that was sent is only made anew for a stale challenge. -/
theorem HasSentDigest.isStale (h : n.HasSentDigest) (hr : r ∈ n.round? event)
    (hretry : r.IsRetry) : r.IsStale := by
  obtain ⟨header, keep, haction⟩ := hretry
  cases n with
  | none | basic | ntlm | negotiate => exact h.elim
  | digest d =>
    have hsent : d.sent = true := h
    obtain ⟨e, -, hadvances⟩ := advances_digest hr
    rw [haction] at hadvances
    cases hadvances with
    | answer hunsent =>
      rw [hsent] at hunsent
      cases hunsent
    | renew hfind hstale _ hfirst => exact ⟨_, hfind, hstale⟩

/-! ### A handshake that is spent -/

/-- A spent handshake can only fail. -/
private theorem fail_of_isSpent {s t : NtlmAuth} {challenges : List Challenge} {action : NextAction}
    (h : IsSpent (.ntlm s)) (hadvances : s.Advances challenges action t) :
    t.stage = .failed ∧ ∃ failure, action = .fail failure := by
  have hstages : s.stage = .challenged ∨ s.stage = .answered ∨ s.stage = .failed := h
  cases hadvances with
  | fail failure => exact ⟨rfl, failure, rfl⟩
  | start _ _ hstage => simp [hstage] at hstages
  | restart _ _ hstage _ => simp [hstage] at hstages
  | answer hstage _ => simp [hstage] at hstages

/-- The authenticate message is the last of a handshake. -/
theorem isSpent_of_isAuthenticate (hscheme : n.scheme? = some .ntlm) (hr : r ∈ n.round? event)
    (hmessage : r.IsAuthenticate) : (n.meet event).IsSpent := by
  obtain ⟨header, keep, hheader, haction⟩ := hmessage
  cases n with
  | none | basic | digest | negotiate => cases hscheme
  | ntlm s =>
    obtain ⟨t, hmeet, hadvances⟩ := advances_ntlm hr
    rw [haction] at hadvances
    rw [hmeet]
    cases hadvances with
    | start _ _ _ => exact absurd hheader Ntlm.not_isAuthenticate_negotiateHeader
    | restart _ _ _ _ => exact absurd hheader Ntlm.not_isAuthenticate_negotiateHeader
    | answer _ _ => exact Or.inr (Or.inl rfl)

theorem IsSpent.meet (h : n.IsSpent) (hsuccess : event.isSuccess = false) :
    (n.meet event).IsSpent := by
  cases n with
  | none | basic | digest | negotiate => exact h.elim
  | ntlm s =>
    cases event with
    | success => cases hsuccess
    | preempt realm request supply =>
      have hstages : s.stage = .challenged ∨ s.stage = .answered ∨ s.stage = .failed := h
      rw [Negotiator.meet]
      split
      · rename_i hshould
        unfold shouldPreempt at hshould
        rw [Bool.and_eq_true, decide_eq_true_eq] at hshould
        simp [hshould.2] at hstages
      · exact h
    | challenge challenges realm request supply =>
      have hround := mem_round? (.ntlm s) challenges realm request supply
      obtain ⟨t, hmeet, hadvances⟩ := advances_ntlm hround
      rw [hmeet]
      exact Or.inr (Or.inr (fail_of_isSpent h hadvances).1)

theorem IsSpent.isFail (h : n.IsSpent) (hr : r ∈ n.round? event) : r.IsFail := by
  cases n with
  | none | basic | digest | negotiate => exact h.elim
  | ntlm s =>
    obtain ⟨t, -, hadvances⟩ := advances_ntlm hr
    exact (fail_of_isSpent h hadvances).2

/-! ### A connection that was given up -/

/-- A failed exchange of tokens can only fail. -/
private theorem fail_of_failed {s t : NegotiateAuth} {action : NextAction}
    (hstage : s.stage = .failed) (hadvances : s.Advances action t) :
    t.stage = .failed ∧ ∃ failure, action = .fail failure := by
  cases hadvances with
  | fail failure => exact ⟨rfl, failure, rfl⟩
  | start hstart => simp [hstage] at hstart
  | next hsent =>
    rw [hstage] at hsent
    cases hsent

/-- Giving up a round gives up the connection, where a source of tokens is at hand. -/
theorem hasFailed_of_isFail {scheme : AuthScheme} (hscheme : n.scheme? = some scheme)
    (hscoped : scheme.isConnectionScoped = true) (hr : r ∈ n.round? event)
    (hsource : scheme = .negotiate → r.realm.tokens.isSome = true) (hfail : r.IsFail) :
    (n.meet event).HasFailed := by
  obtain ⟨failure, haction⟩ := hfail
  cases n with
  | none => cases hscheme
  | basic | digest =>
    cases Option.some.inj hscheme
    cases hscoped
  | ntlm s =>
    obtain ⟨t, hmeet, hadvances⟩ := advances_ntlm hr
    rw [haction] at hadvances
    rw [hmeet]
    cases hadvances with
    | fail failure => exact rfl
  | negotiate s =>
    obtain ⟨t, hmeet, hadvances | ⟨hnone, -, -⟩⟩ := advances_negotiate hr
    · rw [haction] at hadvances
      rw [hmeet]
      cases hadvances with
      | fail failure => exact rfl
    · have hsome := hsource (Option.some.inj hscheme).symm
      rw [hnone] at hsome
      cases hsome

theorem HasFailed.meet (h : n.HasFailed) (hpreempt : event.isPreempt = false) :
    (n.meet event).HasFailed := by
  cases n with
  | none | basic | digest => exact h.elim
  | ntlm s =>
    have hstage : s.stage = .failed := h
    cases event with
    | preempt => cases hpreempt
    | success =>
      simp only [Negotiator.meet, onSuccess, NtlmAuth.onSuccess, hstage, reduceCtorEq, if_false]
      exact hstage
    | challenge challenges realm request supply =>
      have hround := mem_round? (.ntlm s) challenges realm request supply
      obtain ⟨t, hmeet, hadvances⟩ := advances_ntlm hround
      rw [hmeet]
      exact (fail_of_isSpent (Or.inr (Or.inr hstage)) hadvances).1
  | negotiate s =>
    have hstage : s.stage = .failed := h
    cases event with
    | preempt => cases hpreempt
    | success =>
      simp only [Negotiator.meet, onSuccess, NegotiateAuth.onSuccess, hstage, reduceCtorEq,
        if_false]
      exact hstage
    | challenge challenges realm request supply =>
      have hround := mem_round? (.negotiate s) challenges realm request supply
      obtain ⟨t, hmeet, hadvances | ⟨-, -, rfl⟩⟩ := advances_negotiate hround
      · rw [hmeet]
        exact (fail_of_failed hstage hadvances).1
      · rw [hmeet]
        exact hstage

theorem HasFailed.isFail (h : n.HasFailed) (hr : r ∈ n.round? event) : r.IsFail := by
  cases n with
  | none | basic | digest => exact h.elim
  | ntlm s =>
    obtain ⟨t, -, hadvances⟩ := advances_ntlm hr
    exact (fail_of_isSpent (Or.inr (Or.inr h)) hadvances).2
  | negotiate s =>
    obtain ⟨t, -, hadvances | ⟨-, hfail, -⟩⟩ := advances_negotiate hr
    · exact (fail_of_failed h hadvances).2
    · exact hfail

/-! ### All rounds -/

/-- What holds of the rounds of a list of events, whatever state they begin in. -/
structure Ends (n : Negotiator) (events : List AuthEvent) : Prop where
  /-- Until a response is no challenge a password is sent again at most once. -/
  basic : n.scheme? = some .basic → .success ∉ events → retries (n.rounds events) ≤ 1
  digest : n.scheme? = some .digest → .success ∉ events → retries (n.rounds events) ≤ 2
  /-- A digest is made a second time only for a stale challenge. -/
  stale : n.scheme? = some .digest → .success ∉ events →
    (n.rounds events).Pairwise fun earlier later =>
      earlier.IsRetry → later.IsRetry → later.IsStale
  ntlm : n.scheme? = some .ntlm → .success ∉ events → retries (n.rounds events) ≤ 2
  /-- After the authenticate message every challenge is the end. -/
  answered : n.scheme? = some .ntlm → .success ∉ events →
    (n.rounds events).Pairwise fun earlier later => earlier.IsAuthenticate → later.IsFail
  /-- Where a connection was given up for a realm of its scheme it stays so, also when responses in
  between are no challenges, as long as nothing is sent unasked. -/
  failed : ∀ scheme, n.scheme? = some scheme → scheme.isConnectionScoped = true →
    (∀ event ∈ events, event.isPreempt = false) →
      (n.rounds events).Pairwise fun earlier later =>
        earlier.realm.scheme = scheme ∧ earlier.realm.IsComplete ∧ earlier.IsFail → later.IsFail

/-- Where no response is a success no event is one. -/
private theorem isSuccess_of_notMem {events : List AuthEvent} (h : .success ∉ events) :
    ∀ event ∈ events, event.isSuccess = false := by
  intro event hevent
  cases event with
  | success => exact absurd hevent h
  | preempt | challenge => rfl

/-- An event changes no scheme. -/
private theorem scheme_stays {scheme : AuthScheme} (h : n.scheme? = some scheme) :
    (n.meet event).scheme? = some scheme := by
  rwa [scheme?_meet]

/-- Authentication ends: until a response is no challenge a password is sent again at most once, a
digest and a handshake at most twice, and what is given up stays given up. -/
theorem authentication_ends (n : Negotiator) (events : List AuthEvent) : n.Ends events := by
  have hretries (hscheme : n.scheme? ≠ some .negotiate) (hsuccess : .success ∉ events) :
      retries (n.rounds events) ≤ n.retriesLeft :=
    retries_rounds_le events (isSuccess_of_notMem hsuccess) n hscheme
  constructor
  case basic =>
    intro hscheme hsuccess
    cases n with
    | basic b => exact Nat.le_trans (hretries nofun hsuccess) b.retriesLeft_le
    | none | digest | ntlm | negotiate => cases hscheme
  case digest =>
    intro hscheme hsuccess
    cases n with
    | digest d => exact Nat.le_trans (hretries nofun hsuccess) d.retriesLeft_le
    | none | basic | ntlm | negotiate => cases hscheme
  case stale =>
    intro hscheme hsuccess
    exact rounds_pairwise scheme_stays hasSentDigest_of_retry HasSentDigest.meet
      HasSentDigest.isStale events (isSuccess_of_notMem hsuccess) n hscheme
  case ntlm =>
    intro hscheme hsuccess
    cases n with
    | ntlm s => exact Nat.le_trans (hretries nofun hsuccess) s.retriesLeft_le
    | none | basic | digest | negotiate => cases hscheme
  case answered =>
    intro hscheme hsuccess
    exact rounds_pairwise scheme_stays isSpent_of_isAuthenticate IsSpent.meet IsSpent.isFail
      events (isSuccess_of_notMem hsuccess) n hscheme
  case failed =>
    intro scheme hscheme hscoped hpreempt
    refine rounds_pairwise (S := fun n => n.scheme? = some scheme) scheme_stays ?_ HasFailed.meet
      HasFailed.isFail events hpreempt n hscheme
    rintro n event r hn hr ⟨hrealm, hcomplete, hfail⟩
    exact hasFailed_of_isFail hn hscoped hr (fun h => hcomplete (hrealm.trans h)) hfail

/-- Of three stale challenges the last is refused. -/
example :
    let stale : AuthEvent := .challenge
      [{ scheme := "Digest", params := [("realm", "r"), ("nonce", "n"), ("stale", "true")] }]
      { scheme := .digest } { method := "GET", uri := "/", host := "h.example" }
      { nonces := [[0, 1, 2, 3, 4, 5, 6, 7]] }
    retries ((digest {}).rounds [stale, stale, stale]) = 2 := by decide +kernel

end Negotiator

end HttpClient
