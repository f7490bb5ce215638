import HttpClient.Proofs.Auth.Advances
import HttpClient.Proofs.Auth.Schemes

/-!
# Rounds of authentication

Challenges come round after round, with requests and other responses in between. What one round
does to a state is carried over to any list of events: what a state says of its next round holds of
all rounds while it is kept, and every retry is taken from those that are left.
-/

namespace HttpClient

/-- What happens to a state of authentication. What is drawn from outside may be different each
time. -/
inductive AuthEvent
  /-- A request is made, with credentials unasked where the state wants that. -/
  | preempt (realm : Realm) (request : AuthRequest) (supply : Supply)
  | challenge (challenges : List Challenge) (realm : Realm) (request : AuthRequest)
    (supply : Supply)
  /-- A response is no challenge. -/
  | success

/-- True for the event that may send credentials unasked. -/
def AuthEvent.isPreempt : AuthEvent → Bool
  | .preempt .. => true
  | _ => false

/-- True for a response that is no challenge. -/
def AuthEvent.isSuccess : AuthEvent → Bool
  | .success => true
  | _ => false

/-- How many times a request is sent again. -/
def NextAction.retries : NextAction → Nat
  | .retry .. => 1
  | .fail _ | .done => 0

/-- Challenges that came, and what they were answered with. -/
structure AuthRound where
  challenges : List Challenge
  realm : Realm
  action : NextAction

namespace AuthRound

/-- The request is sent again. -/
def IsRetry (r : AuthRound) : Prop := ∃ header keep, r.action = .retry header keep

/-- Authentication is given up. -/
def IsFail (r : AuthRound) : Prop := ∃ failure, r.action = .fail failure

instance (r : AuthRound) : Decidable r.IsFail :=
  match h : r.action with
  | .fail failure => .isTrue ⟨failure, h⟩
  | .retry .. | .done => .isFalse fun ⟨_, hfail⟩ => nomatch h.symm.trans hfail

/-- The first Digest challenge is marked stale. -/
def IsStale (r : AuthRound) : Prop :=
  ∃ c, Challenge.find? r.challenges "Digest" = some c ∧
    (c.param? "stale").any (Ascii.sameLetters · "true") = true

/-- An authenticate message is sent. -/
def IsAuthenticate (r : AuthRound) : Prop :=
  ∃ header keep, Ntlm.IsAuthenticate header ∧ r.action = .retry header keep

end AuthRound

namespace Negotiator

/-- The state after an event. -/
def meet (n : Negotiator) : AuthEvent → Negotiator
  | .preempt realm request supply =>
    if n.shouldPreempt realm then (n.preempt realm request supply).2.1 else n
  | .challenge challenges realm request supply =>
    (n.onChallenge challenges realm request supply).2.1
  | .success => n.onSuccess

/-- The state after a list of events. -/
def after (n : Negotiator) (events : List AuthEvent) : Negotiator := events.foldl meet n

/-- The round that an event is. -/
def round? (n : Negotiator) : AuthEvent → Option AuthRound
  | .challenge challenges realm request supply =>
    some ⟨challenges, realm, (n.onChallenge challenges realm request supply).1⟩
  | _ => Option.none

/-- The rounds of a list of events, in order. -/
def rounds : Negotiator → List AuthEvent → List AuthRound
  | _, [] => []
  | n, event :: events => (n.round? event).toList ++ (n.meet event).rounds events

variable {n : Negotiator} {event : AuthEvent} {r : AuthRound}

@[simp] theorem scheme?_meet (n : Negotiator) (event : AuthEvent) :
    (n.meet event).scheme? = n.scheme? := by
  cases event with
  | preempt realm request supply =>
    rw [meet]
    split
    · exact scheme?_preempt n realm request supply
    · rfl
  | challenge challenges realm request supply =>
    exact scheme?_onChallenge n challenges realm request supply
  | success => exact scheme?_onSuccess n

/-- Challenges make a round. -/
theorem mem_round? (n : Negotiator) (challenges : List Challenge) (realm : Realm)
    (request : AuthRequest) (supply : Supply) :
    ⟨challenges, realm, (n.onChallenge challenges realm request supply).1⟩ ∈
      n.round? (.challenge challenges realm request supply) :=
  Option.mem_some_self _

/-- Only challenges make a round. -/
theorem challenge_of_round? (h : r ∈ n.round? event) : ∃ challenges realm request supply,
    event = .challenge challenges realm request supply ∧
      r = ⟨challenges, realm, (n.onChallenge challenges realm request supply).1⟩ := by
  cases event with
  | preempt | success => cases h
  | challenge challenges realm request supply =>
    exact ⟨challenges, realm, request, supply, rfl, (Option.some.inj h).symm⟩

/-- A round of a digest. -/
theorem advances_digest {d : DigestAuth} (h : r ∈ (digest d).round? event) :
    ∃ e, (digest d).meet event = digest e ∧ d.Advances r.challenges r.action e := by
  obtain ⟨challenges, realm, request, supply, rfl, rfl⟩ := challenge_of_round? h
  exact ⟨_, rfl, DigestAuth.advances_onChallenge rfl⟩

/-- A round of a handshake. -/
theorem advances_ntlm {s : NtlmAuth} (h : r ∈ (ntlm s).round? event) :
    ∃ t, (ntlm s).meet event = ntlm t ∧ s.Advances r.challenges r.action t := by
  obtain ⟨challenges, realm, request, supply, rfl, rfl⟩ := challenge_of_round? h
  exact ⟨_, rfl, NtlmAuth.advances_onChallenge rfl⟩

/-- A round of an exchange of tokens; without a source of tokens it is given up at once. -/
theorem advances_negotiate {s : NegotiateAuth} (h : r ∈ (negotiate s).round? event) :
    ∃ t, (negotiate s).meet event = negotiate t ∧
      (s.Advances r.action t ∨ r.realm.tokens = Option.none ∧ r.IsFail ∧ t = s) := by
  obtain ⟨challenges, realm, request, supply, rfl, rfl⟩ := challenge_of_round? h
  cases htokens : realm.tokens with
  | none =>
    refine ⟨s, ?_, Or.inr ⟨rfl, ?_, rfl⟩⟩
    · simp only [meet, onChallenge, tokenSource, htokens]
    · simp only [AuthRound.IsFail, onChallenge, tokenSource, htokens]
      exact ⟨_, rfl⟩
  | some source =>
    simp only [meet, onChallenge, tokenSource, htokens]
    exact ⟨_, rfl, Or.inl (NegotiateAuth.advances_onChallenge rfl)⟩

/-! ### From one round to all -/

section

variable {S P : Negotiator → Prop} {trigger outcome : AuthRound → Prop} {allowed : AuthEvent → Prop}

/-- What a state says of its next round it says of all, while it is kept. -/
theorem rounds_forall (hkeep : ∀ {n event}, P n → allowed event → P (n.meet event))
    (hround : ∀ {n event r}, P n → r ∈ n.round? event → outcome r) (events : List AuthEvent)
    (hallowed : ∀ event ∈ events, allowed event) :
    ∀ n : Negotiator, P n → ∀ r ∈ n.rounds events, outcome r := by
  induction events with
  | nil =>
    intro n _ r hr
    exact absurd hr List.not_mem_nil
  | cons event events ih =>
    intro n hn r hr
    rw [List.forall_mem_cons] at hallowed
    rw [rounds, List.mem_append, Option.mem_toList] at hr
    rcases hr with hnow | hlater
    · exact hround hn hnow
    · exact ih hallowed.2 _ (hkeep hn hallowed.1) r hlater

/-- Where a round of one kind leads to a state that is kept, all later rounds are as that state
says. -/
theorem rounds_pairwise (hstay : ∀ {n event}, S n → S (n.meet event))
    (hlead : ∀ {n event r}, S n → r ∈ n.round? event → trigger r → P (n.meet event))
    (hkeep : ∀ {n event}, P n → allowed event → P (n.meet event))
    (hround : ∀ {n event r}, P n → r ∈ n.round? event → outcome r) (events : List AuthEvent)
    (hallowed : ∀ event ∈ events, allowed event) :
    ∀ n : Negotiator, S n →
      (n.rounds events).Pairwise fun earlier later => trigger earlier → outcome later := by
  induction events with
  | nil =>
    intro n _
    exact List.Pairwise.nil
  | cons event events ih =>
    intro n hn
    rw [List.forall_mem_cons] at hallowed
    rw [rounds, List.pairwise_append]
    refine ⟨?_, ih hallowed.2 _ (hstay hn), ?_⟩
    · cases n.round? event with
      | none => exact List.Pairwise.nil
      | some r => exact List.pairwise_singleton _ _
    · intro earlier hearlier later hlater htrigger
      rw [Option.mem_toList] at hearlier
      have hstart := hlead hn hearlier htrigger
      exact rounds_forall hkeep hround events hallowed.2 _ hstart later hlater

end

end Negotiator

/-! ### How many retries there are -/

/-- How many retries are left to a password. -/
def BasicAuth.retriesLeft (b : BasicAuth) : Nat := if b.sent then 0 else 1

/-- How many retries are left to a digest. -/
def DigestAuth.retriesLeft (d : DigestAuth) : Nat :=
  (if d.sent then 0 else 1) + if d.staleRetried then 0 else 1

/-- How many retries are left to a handshake. -/
def NtlmAuth.retriesLeft (n : NtlmAuth) : Nat :=
  match n.stage with
  | .initial => 2
  | .negotiated => 1
  | .authenticated => if n.restarted then 0 else 2
  | .challenged | .answered | .failed => 0

theorem BasicAuth.retriesLeft_le (b : BasicAuth) : b.retriesLeft ≤ 1 := by
  unfold retriesLeft
  split <;> omega

theorem DigestAuth.retriesLeft_le (d : DigestAuth) : d.retriesLeft ≤ 2 := by
  unfold retriesLeft
  split <;> split <;> omega

theorem NtlmAuth.retriesLeft_le (n : NtlmAuth) : n.retriesLeft ≤ 2 := by
  unfold retriesLeft
  split <;> (try split) <;> omega

theorem BasicAuth.retries_onChallenge (b : BasicAuth) (challenges : List Challenge)
    (realm : Realm) :
    (b.onChallenge challenges realm).1.retries + (b.onChallenge challenges realm).2.retriesLeft ≤
      b.retriesLeft := by
  unfold onChallenge
  split
  · exact Nat.le_of_eq (Nat.zero_add _)
  · by_cases hsent : b.sent = true
    · rw [if_pos hsent]
      exact Nat.le_of_eq (Nat.zero_add _)
    · simp [retriesLeft, hsent, NextAction.retries]

theorem DigestAuth.Advances.retries {d e : DigestAuth} {challenges : List Challenge}
    {action : NextAction} (h : d.Advances challenges action e) :
    action.retries + e.retriesLeft ≤ d.retriesLeft := by
  cases h with
  | @fail staleRetried failure hnoted =>
    have hbound : (if staleRetried = true then 0 else 1) ≤
        if d.staleRetried = true then 0 else 1 := by
      by_cases hstale : d.staleRetried = true
      · rw [if_pos (hnoted hstale)]
        exact Nat.zero_le _
      · rw [if_neg hstale]
        split <;> omega
    simp only [NextAction.retries, retriesLeft]
    omega
  | answer hunsent => simp [NextAction.retries, retriesLeft, hunsent]
  | renew hfind hstale hsent hfirst => simp [NextAction.retries, retriesLeft, hsent, hfirst]

/-- A digest that is sent unasked brings no retries back. -/
theorem DigestAuth.retriesLeft_preempt_le (d : DigestAuth) (realm : Realm) (request : AuthRequest)
    (supply : Supply) : (d.preempt realm request supply).2.1.retriesLeft ≤ d.retriesLeft := by
  unfold preempt
  split
  · exact Nat.le_refl _
  · split
    · exact Nat.le_refl _
    · simp only [retriesLeft, if_true]
      omega

theorem NtlmAuth.Advances.retries {n m : NtlmAuth} {challenges : List Challenge}
    {action : NextAction} (h : n.Advances challenges action m) :
    action.retries + m.retriesLeft ≤ n.retriesLeft := by
  cases h with
  | fail failure => exact Nat.zero_le _
  | start hfind htoken hstage => simp [NextAction.retries, retriesLeft, hstage]
  | restart hfind htoken hstage hfirst => simp [NextAction.retries, retriesLeft, hstage, hfirst]
  | answer hstage hheader => simp [NextAction.retries, retriesLeft, hstage]

namespace Negotiator

/-- How many retries are left until the next response that is no challenge. An exchange of tokens
has no bound of its own. -/
def retriesLeft : Negotiator → Nat
  | .basic b => b.retriesLeft
  | .digest d => d.retriesLeft
  | .ntlm n => n.retriesLeft
  | .none | .negotiate _ => 0

/-- How many times a request is sent again in a list of rounds. -/
def retries : List AuthRound → Nat
  | [] => 0
  | r :: rounds => r.action.retries + retries rounds

theorem retries_append (earlier later : List AuthRound) :
    retries (earlier ++ later) = retries earlier + retries later := by
  induction earlier with
  | nil => exact (Nat.zero_add _).symm
  | cons r earlier ih => rw [List.cons_append, retries, retries, ih, Nat.add_assoc]

/-- A retry is taken from those that are left. -/
theorem retries_meet (n : Negotiator) (event : AuthEvent) (hscheme : n.scheme? ≠ some .negotiate)
    (hsuccess : event.isSuccess = false) :
    retries (n.round? event).toList + (n.meet event).retriesLeft ≤ n.retriesLeft := by
  cases event with
  | success => cases hsuccess
  | preempt realm request supply =>
    have hnone : retries (n.round? (.preempt realm request supply)).toList = 0 := rfl
    rw [hnone, Nat.zero_add, meet]
    split
    · rename_i hshould
      unfold shouldPreempt at hshould
      rw [Bool.and_eq_true] at hshould
      cases n with
      | none => exact Nat.le_refl _
      | basic b => exact Nat.zero_le _
      | digest d => exact d.retriesLeft_preempt_le realm request supply
      | ntlm s =>
        -- What is sent unasked takes the place of the first retry.
        have hstage : s.stage = .initial := by simpa using hshould.2
        simp [preempt, retriesLeft, NtlmAuth.retriesLeft, NtlmAuth.negotiate, hstage]
      | negotiate s => exact absurd rfl hscheme
    · exact Nat.le_refl _
  | challenge challenges realm request supply =>
    have hround : retries (n.round? (.challenge challenges realm request supply)).toList =
        (n.onChallenge challenges realm request supply).1.retries := Nat.add_zero _
    rw [hround, meet]
    cases n with
    | none => exact Nat.le_refl _
    | basic b => exact b.retries_onChallenge challenges realm
    | digest d => exact (DigestAuth.advances_onChallenge rfl).retries
    | ntlm s => exact (NtlmAuth.advances_onChallenge rfl).retries
    | negotiate s => exact absurd rfl hscheme

/-- Until a response is no challenge there are no more retries than are left. -/
theorem retries_rounds_le (events : List AuthEvent)
    (hsuccess : ∀ event ∈ events, event.isSuccess = false) :
    ∀ n : Negotiator, n.scheme? ≠ some .negotiate → retries (n.rounds events) ≤ n.retriesLeft := by
  induction events with
  | nil =>
    intro n _
    exact Nat.zero_le _
  | cons event events ih =>
    intro n hscheme
    rw [List.forall_mem_cons] at hsuccess
    have hnow := n.retries_meet event hscheme hsuccess.1
    have hlater := ih hsuccess.2 (n.meet event) (by rwa [scheme?_meet])
    rw [rounds, retries_append]
    omega

end Negotiator

end HttpClient
