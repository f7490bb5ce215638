import HttpClient.Proofs.Auth.Digest.Verification
import HttpClient.Proofs.Auth.Restarts

/-!
# Nonce counts

A server that counts the uses of its nonces takes a header for a replay when the count in it was
there before. A digest counts the headers since the last challenge that it answered. So as long as
no two of the challenges it answered have the same nonce, each header carries the number of headers
for its nonce. Where a nonce is answered once more the count starts over, and only there is a count
used twice for a nonce.
-/

namespace HttpClient

namespace Digest

variable {answers : List Answer} {a : Answer}

/-- How many answers were made for a nonce. -/
def uses (nonce : String) (answers : List Answer) : Nat :=
  answers.countP fun a => a.params.nonce = nonce

theorem uses_append (nonce : String) (earlier later : List Answer) :
    uses nonce (earlier ++ later) = uses nonce earlier + uses nonce later :=
  List.countP_append

theorem uses_self (a : Answer) : uses a.params.nonce [a] = 1 :=
  List.countP_cons_of_pos (decide_eq_true rfl)

theorem uses_le_length (nonce : String) (answers : List Answer) :
    uses nonce answers ≤ answers.length :=
  List.countP_le_length

theorem uses_eq_zero {nonce : String} (h : ∀ a ∈ answers, a.params.nonce ≠ nonce) :
    uses nonce answers = 0 :=
  List.countP_eq_zero.mpr fun a ha => by simpa using h a ha

/-- Every answer carries the number of answers for its nonce up to there, itself included. -/
def CountsUp (answers : List Answer) : Prop :=
  ∀ before a after, answers = before ++ a :: after →
    a.nc.toNat = uses a.params.nonce (before ++ [a])

theorem countsUp_nil : CountsUp [] :=
  fun _ _ _ h => absurd h.symm (List.append_ne_nil_of_right_ne_nil _ (List.cons_ne_nil _ _))

theorem countsUp_concat : CountsUp (answers ++ [a]) ↔
    CountsUp answers ∧ a.nc.toNat = uses a.params.nonce (answers ++ [a]) := by
  constructor
  · intro h
    refine ⟨?_, h answers a [] rfl⟩
    rintro before b after rfl
    exact h before b (after ++ [a]) (by simp)
  · rintro ⟨hbefore, hlast⟩ before b after heq
    rcases after.eq_nil_or_concat with rfl | ⟨rest, c, rfl⟩
    · obtain ⟨rfl, hb⟩ := List.append_inj' heq rfl
      obtain rfl := List.singleton_inj.mp hb
      exact hlast
    · rw [List.concat_eq_append, ← List.cons_append, ← List.append_assoc] at heq
      exact hbefore before b rest (List.append_inj' heq rfl).1

/-- Where every answer carries the number of its use, no number is used twice for a nonce. -/
theorem CountsUp.pairwise (h : CountsUp answers) :
    answers.Pairwise fun earlier later =>
      earlier.params.nonce = later.params.nonce → earlier.nc ≠ later.nc := by
  induction answers using List.reverseRecOn with
  | nil => exact List.Pairwise.nil
  | append_singleton answers a ih =>
    obtain ⟨hbefore, hlast⟩ := countsUp_concat.mp h
    rw [List.pairwise_append]
    refine ⟨ih hbefore, List.pairwise_singleton _ _, ?_⟩
    intro b hb c hc hnonce hnc
    obtain rfl := List.mem_singleton.mp hc
    obtain ⟨before, after, rfl⟩ := List.append_of_mem hb
    have hearlier := hbefore before b after rfl
    rw [uses_append, uses_self, List.append_cons before b after, uses_append] at hlast
    rw [hnonce, hnc] at hearlier
    omega

theorem mem_fields_count (h : a.params.qopAuth = true) : ("nc", countText a.nc) ∈ a.fields := by
  simp [Answer.fields, h]

theorem nonce_of_ofChallenge {c : Challenge} {params : Params}
    (h : Params.ofChallenge c = .ok params) : c.param? "nonce" = some params.nonce := by
  unfold Params.ofChallenge at h
  split at h
  · cases h
  · rename_i nonce hnonce
    simp only [bind, Except.bind, pure, Except.pure] at h
    split at h
    · cases h
    · split at h
      · cases h
      · cases h
        exact hnonce

end Digest

/-- The nonce of the challenge that a request is sent again for. -/
def AuthRound.nonce? (r : AuthRound) : Option String :=
  match r.action with
  | .retry .. => (Challenge.find? r.challenges "Digest").bind (·.param? "nonce")
  | .fail _ | .done => none

/-- What a header is made from that an event sends on the way to this state: the challenge and the
count are those that are kept. -/
def DigestAuth.answer? (d : DigestAuth) : AuthEvent → Option Digest.Answer
  | .preempt realm request supply | .challenge _ realm request supply => do
    let params ← d.params
    let nonce ← supply.draw.1
    return { params, realm, request, nc := d.nc, cnonce := Hex.encode nonce }
  | .success => none

namespace Negotiator

/-- What the Digest header is made from that an event sends. -/
def answer? (n : Negotiator) (event : AuthEvent) : Option Digest.Answer :=
  match n.sends? event, n.meet event with
  | some _, .digest d => d.answer? event
  | _, _ => Option.none

/-- What the Digest headers are made from that a list of events sends, in order. -/
def answers : Negotiator → List AuthEvent → List Digest.Answer
  | _, [] => []
  | n, event :: events => (n.answer? event).toList ++ (n.meet event).answers events

end Negotiator

namespace DigestAuth

variable {d e : DigestAuth} {answer : Option Digest.Answer} {nonce : Option String}
  {nonces : List String} {answers : List Digest.Answer}

/-- All that an event can do to the challenge that is kept and to its count, with the answer that
is sent and the nonce of the challenge that it is for. -/
inductive Counting (d : DigestAuth) : Option Digest.Answer → Option String → DigestAuth → Prop
  /-- Nothing is sent. -/
  | silent {e : DigestAuth} (hparams : e.params = d.params) (hnc : e.nc = d.nc) :
    Counting d none none e
  /-- An answer to the challenge that is kept counts on. -/
  | unasked {e : DigestAuth} {a : Digest.Answer} (hkept : d.params = some a.params)
    (hparams : e.params = some a.params) (hnc : e.nc = d.nc + 1) (ha : a.nc = e.nc) :
    Counting d (some a) none e
  /-- An answer to a challenge that comes counts from one. -/
  | asked {e : DigestAuth} {a : Digest.Answer} (hparams : e.params = some a.params)
    (hnc : e.nc = 1) (ha : a.nc = e.nc) :
    Counting d (some a) (some a.params.nonce) e

/-- A digest with the nonces it answered and the answers it gave so far. -/
structure Counts (d : DigestAuth) (nonces : List String) (answers : List Digest.Answer) : Prop where
  countsUp : Digest.CountsUp answers
  known : ∀ a ∈ answers, a.params.nonce ∈ nonces
  /-- The count that is kept is that of the nonce that is kept. -/
  current : ∀ params, d.params = some params →
    params.nonce ∈ nonces ∧ d.nc.toNat = Digest.uses params.nonce answers

theorem Counts.initial : Counts {} [] [] where
  countsUp := Digest.countsUp_nil
  known := List.forall_mem_nil _
  current := nofun

/-- What is sent next carries the number of its use, unless it is for a nonce that came before. -/
theorem Counts.step (h : d.Counts nonces answers) (hcounting : d.Counting answer nonce e)
    (hfew : (answers ++ answer.toList).length < UInt32.size)
    (hfresh : (nonces ++ nonce.toList).Nodup) :
    e.Counts (nonces ++ nonce.toList) (answers ++ answer.toList) := by
  cases hcounting with
  | silent hparams hnc =>
    simp only [Option.toList_none, List.append_nil]
    exact ⟨h.countsUp, h.known, by rw [hparams, hnc]; exact h.current⟩
  | @unasked _ a hkept hparams hnc ha =>
    obtain ⟨hnonce, hcount⟩ := h.current _ hkept
    rw [Option.toList_some, List.length_append, List.length_singleton, UInt32.size] at hfew
    have hle := Digest.uses_le_length a.params.nonce answers
    have hnext : e.nc.toNat = Digest.uses a.params.nonce (answers ++ [a]) := by
      rw [Digest.uses_append, Digest.uses_self, hnc, UInt32.toNat_add, UInt32.toNat_one, hcount]
      omega
    simp only [Option.toList_none, List.append_nil, Option.toList_some]
    refine ⟨Digest.countsUp_concat.mpr ⟨h.countsUp, ha ▸ hnext⟩, ?_, ?_⟩
    · exact List.forall_mem_append.mpr ⟨h.known, List.forall_mem_singleton.mpr hnonce⟩
    · intro params hsome
      obtain rfl := Option.some.inj (hparams.symm.trans hsome)
      exact ⟨hnonce, hnext⟩
  | @asked _ a hparams hnc ha =>
    simp only [Option.toList_some] at hfresh ⊢
    have hnew : a.params.nonce ∉ nonces := by
      intro hmem
      exact (List.nodup_append.mp hfresh).2.2 _ hmem _ (List.mem_singleton_self _) rfl
    have hunused : Digest.uses a.params.nonce answers = 0 := by
      refine Digest.uses_eq_zero fun b hb hnonce => hnew ?_
      rw [← hnonce]
      exact h.known b hb
    have hfirst : e.nc.toNat = Digest.uses a.params.nonce (answers ++ [a]) := by
      rw [Digest.uses_append, Digest.uses_self, hunused, hnc]
      rfl
    refine ⟨Digest.countsUp_concat.mpr ⟨h.countsUp, ha ▸ hfirst⟩, ?_, ?_⟩
    · refine List.forall_mem_append.mpr ⟨fun b hb => ?_, List.forall_mem_singleton.mpr ?_⟩
      · exact List.mem_append_left _ (h.known b hb)
      · exact List.mem_append_right _ (List.mem_singleton_self _)
    · intro params hsome
      obtain rfl := Option.some.inj (hparams.symm.trans hsome)
      exact ⟨List.mem_append_right _ (List.mem_singleton_self _), hfirst⟩

end DigestAuth

namespace DigestAuth

variable {realm : Realm} {request : AuthRequest} {supply : Supply} {a : Digest.Answer}

/-- An answer is made for the challenge that is kept, or none is sent. -/
theorem preempt_cases (d : DigestAuth) (realm : Realm) (request : AuthRequest) (supply : Supply) :
    (∃ result rest, result.toOption.join = none ∧
        d.preempt realm request supply = (result, d, rest)) ∨
      ∃ a e rest, d.preempt realm request supply = (.ok (some a.header), e, rest) ∧
        e.answer? (.preempt realm request supply) = some a ∧
        d.Counting (some a) none e := by
  unfold preempt
  cases hparams : d.params with
  | none => exact Or.inl ⟨_, _, rfl, rfl⟩
  | some params =>
    match hdraw : supply.draw with
    | (none, rest) => exact Or.inl ⟨_, _, rfl, rfl⟩
    | (some nonce, rest) =>
      refine Or.inr ⟨⟨params, realm, request, d.nc + 1, Hex.encode nonce⟩,
        { d with nc := d.nc + 1, sent := true }, rest, ?_, ?_, .unasked hparams hparams rfl rfl⟩
      · simp only [← hparams]
        rfl
      · simp [answer?, hparams, hdraw]

/-- An answer is made for the challenge that came, or none is sent. -/
theorem answerFresh_cases (d : DigestAuth) (params : Digest.Params) (challenges : List Challenge)
    (realm : Realm) (request : AuthRequest) (supply : Supply) :
    (∃ failure rest, d.answerFresh params realm request supply = (.fail failure, d, rest)) ∨
      ∃ a e rest, d.answerFresh params realm request supply = (.retry a.header true, e, rest) ∧
        e.answer? (.challenge challenges realm request supply) = some a ∧
        a.params = params ∧ e.params = some a.params ∧ e.nc = 1 ∧ a.nc = e.nc := by
  unfold answerFresh
  match hdraw : supply.draw with
  | (none, rest) => exact Or.inl ⟨_, _, rfl⟩
  | (some nonce, rest) =>
    refine Or.inr ⟨⟨params, realm, request, 1, Hex.encode nonce⟩, _, rest, rfl, ?_, rfl, rfl, rfl,
      rfl⟩
    simp [answer?, hdraw]

end DigestAuth

namespace Negotiator

variable {d e : DigestAuth} {event : AuthEvent} {a : Digest.Answer}

/-- An event leads a digest to a digest, what it sends is made from the answer it gives, and that is
counted. -/
def IsCounted (d : DigestAuth) (event : AuthEvent) : Prop :=
  ∃ e, (digest d).meet event = digest e ∧
    (digest d).sends? event = ((digest d).answer? event).map Digest.Answer.header ∧
    d.Counting ((digest d).answer? event) (((digest d).round? event).bind AuthRound.nonce?) e

theorem IsCounted.of_silent (hmeet : (digest d).meet event = digest e)
    (hsends : (digest d).sends? event = Option.none)
    (hround : ((digest d).round? event).bind AuthRound.nonce? = Option.none)
    (hparams : e.params = d.params) (hnc : e.nc = d.nc) : IsCounted d event := by
  have hanswer : (digest d).answer? event = Option.none := by simp only [answer?, hsends]
  refine ⟨e, hmeet, by rw [hsends, hanswer, Option.map_none], ?_⟩
  rw [hanswer, hround]
  exact .silent hparams hnc

theorem IsCounted.of_sent (hmeet : (digest d).meet event = digest e)
    (hsends : (digest d).sends? event = some a.header) (hmade : e.answer? event = some a)
    (hcounting : d.Counting (some a) (((digest d).round? event).bind AuthRound.nonce?) e) :
    IsCounted d event := by
  have hanswer : (digest d).answer? event = some a := by simp only [answer?, hsends, hmeet, hmade]
  exact ⟨e, hmeet, by rw [hsends, hanswer, Option.map_some], by rwa [hanswer]⟩

/-- Credentials sent unasked are counted on. -/
theorem isCounted_preempt (d : DigestAuth) (realm : Realm) (request : AuthRequest)
    (supply : Supply) : IsCounted d (.preempt realm request supply) := by
  by_cases hshould : (digest d).shouldPreempt realm = true
  · have hto {result : Except Failure (Option HeaderValue)} {e : DigestAuth} {rest : Supply}
        (h : d.preempt realm request supply = (result, e, rest)) :
        (digest d).meet (.preempt realm request supply) = digest e ∧
          (digest d).sends? (.preempt realm request supply) = result.toOption.join := by
      simp only [meet, sends?, hshould, if_true, preempt, h, and_self]
    rcases d.preempt_cases realm request supply with ⟨result, rest, hnone, heq⟩ |
      ⟨a, e, rest, heq, hmade, hcounting⟩
    · exact .of_silent (hto heq).1 ((hto heq).2.trans hnone) rfl rfl rfl
    · exact .of_sent (hto heq).1 (hto heq).2 hmade hcounting
  · exact .of_silent (if_neg hshould) (if_neg hshould) rfl rfl rfl

/-- An answer to a challenge counts from one. -/
theorem isCounted_challenge (d : DigestAuth) (challenges : List Challenge) (realm : Realm)
    (request : AuthRequest) (supply : Supply) :
    IsCounted d (.challenge challenges realm request supply) := by
  have hto {action : NextAction} {e : DigestAuth} {rest : Supply}
      (h : d.onChallenge challenges realm request supply = (action, e, rest)) :
      (digest d).meet (.challenge challenges realm request supply) = digest e ∧
        (digest d).sends? (.challenge challenges realm request supply) = action.credentials? ∧
        ((digest d).round? (.challenge challenges realm request supply)).bind AuthRound.nonce? =
          AuthRound.nonce? ⟨challenges, realm, action⟩ := by
    simp only [meet, sends?, round?, onChallenge, h, Option.bind_some, and_self]
  rcases d.onChallenge_cases challenges realm request supply with ⟨failure, hrefuse⟩ |
    ⟨c, params, hfind, hread, hfresh⟩
  · obtain ⟨hmeet, hsends, hround⟩ := hto hrefuse
    exact .of_silent hmeet hsends hround rfl rfl
  · -- Apart from the note of a stale challenge it is answered in the state that was there.
    obtain ⟨t, htparams, htnc, hanswer⟩ : ∃ t : DigestAuth, t.params = d.params ∧ t.nc = d.nc ∧
        d.onChallenge challenges realm request supply =
          t.answerFresh params realm request supply := by
      obtain ⟨-, heq⟩ | ⟨-, -, -, heq⟩ := hfresh
      · exact ⟨d, rfl, rfl, heq⟩
      · exact ⟨{ d with staleRetried := true }, rfl, rfl, heq⟩
    rcases t.answerFresh_cases params challenges realm request supply with
      ⟨failure, rest, hfail⟩ | ⟨a, e, rest, hretry, hmade, rfl, hparams, hnc, ha⟩
    · obtain ⟨hmeet, hsends, hround⟩ := hto (hanswer.trans hfail)
      exact .of_silent hmeet hsends hround htparams htnc
    · obtain ⟨hmeet, hsends, hround⟩ := hto (hanswer.trans hretry)
      have hnonce : AuthRound.nonce? ⟨challenges, realm, .retry a.header true⟩ =
          some a.params.nonce := by
        simp only [AuthRound.nonce?, hfind, Option.bind_some, Digest.nonce_of_ofChallenge hread]
      refine .of_sent hmeet hsends hmade ?_
      rw [hround, hnonce]
      exact .asked hparams hnc ha

theorem isCounted (d : DigestAuth) (event : AuthEvent) : IsCounted d event := by
  cases event with
  | success => exact ⟨d.onSuccess, rfl, rfl, .silent rfl rfl⟩
  | preempt realm request supply => exact isCounted_preempt d realm request supply
  | challenge challenges realm request supply =>
    exact isCounted_challenge d challenges realm request supply

/-- The nonces of the challenges that were answered, in order. -/
def nonces (n : Negotiator) (events : List AuthEvent) : List String :=
  (n.rounds events).filterMap AuthRound.nonce?

theorem nonces_cons (n : Negotiator) (event : AuthEvent) (events : List AuthEvent) :
    n.nonces (event :: events) =
      ((n.round? event).bind AuthRound.nonce?).toList ++ (n.meet event).nonces events := by
  rw [nonces, rounds, List.filterMap_append, nonces]
  cases n.round? event with
  | none => rfl
  | some r =>
    rw [Option.toList_some, Option.bind_some, List.filterMap_cons, List.filterMap_nil]
    cases r.nonce? <;> rfl

/-- The headers that are sent are those of the answers. -/
theorem sent_eq_map_answers (events : List AuthEvent) : ∀ d : DigestAuth,
    (digest d).sent events = ((digest d).answers events).map Digest.Answer.header := by
  induction events with
  | nil => exact fun _ => rfl
  | cons event events ih =>
    intro d
    obtain ⟨e, hmeet, hsends, -⟩ := isCounted d event
    rw [sent, answers, hmeet, ih e, hsends, List.map_append, Option.toList_map]

/-- While the nonces are new, each header is counted for its nonce. -/
theorem counts_after (events : List AuthEvent) :
    ∀ (d : DigestAuth) (nonces : List String) (answers : List Digest.Answer),
      d.Counts nonces answers → (answers ++ (digest d).answers events).length < UInt32.size →
        (nonces ++ (digest d).nonces events).Nodup →
          ∃ e, (digest d).after events = digest e ∧
            e.Counts (nonces ++ (digest d).nonces events)
              (answers ++ (digest d).answers events) := by
  induction events with
  | nil =>
    intro d nonces answers h _ _
    refine ⟨d, rfl, ?_⟩
    simpa [Negotiator.nonces, Negotiator.answers, rounds] using h
  | cons event events ih =>
    intro d nonces answers h hfew hfresh
    obtain ⟨e, hmeet, -, hcounting⟩ := isCounted d event
    rw [Negotiator.answers, ← List.append_assoc, hmeet] at hfew
    rw [nonces_cons, ← List.append_assoc, hmeet] at hfresh
    have hnow := h.step hcounting
      (Nat.lt_of_le_of_lt (List.sublist_append_left _ _).length_le hfew)
      (hfresh.sublist (List.sublist_append_left _ _))
    rw [nonces_cons, Negotiator.answers, ← List.append_assoc, ← List.append_assoc, after,
      List.foldl_cons, hmeet]
    exact ih e _ _ hnow hfew hfresh

/-- Each challenge that is answered has an answer of its own, with the count one. -/
theorem exists_asked (events : List AuthEvent) : ∀ d : DigestAuth, ∃ asked : List Digest.Answer,
    asked.Sublist ((digest d).answers events) ∧
      asked.map (fun a => a.params.nonce) = (digest d).nonces events ∧ ∀ a ∈ asked, a.nc = 1 := by
  induction events with
  | nil => exact fun _ => ⟨[], List.Sublist.slnil, rfl, List.forall_mem_nil _⟩
  | cons event events ih =>
    intro d
    obtain ⟨e, hmeet, -, hcounting⟩ := isCounted d event
    obtain ⟨asked, hsub, hnonces, hone⟩ := ih e
    rw [answers, nonces_cons, hmeet, ← hnonces]
    revert hcounting
    generalize (digest d).answer? event = answer
    generalize ((digest d).round? event).bind AuthRound.nonce? = nonce
    intro hcounting
    cases hcounting with
    | silent => exact ⟨asked, hsub, rfl, hone⟩
    | unasked => exact ⟨asked, hsub.cons _, rfl, hone⟩
    | @asked _ a hparams hnc ha =>
      exact ⟨a :: asked, hsub.cons_cons a, rfl, List.forall_mem_cons.mpr ⟨ha.trans hnc, hone⟩⟩

/-- A count is used twice for a nonce exactly where a nonce is answered twice. -/
theorem pairwise_answers_iff (events : List AuthEvent)
    (hfew : ((digest {}).answers events).length < UInt32.size) :
    (((digest {}).answers events).Pairwise fun earlier later =>
        earlier.params.nonce = later.params.nonce → earlier.nc ≠ later.nc) ↔
      ((digest {}).nonces events).Nodup := by
  constructor
  · intro h
    obtain ⟨asked, hsub, hnonces, hone⟩ := exists_asked events {}
    rw [← hnonces, List.Nodup, List.pairwise_map]
    refine (h.sublist hsub).imp_of_mem ?_
    intro earlier later hearlier hlater hdiffer hsame
    exact hdiffer hsame ((hone earlier hearlier).trans (hone later hlater).symm)
  · intro hfresh
    obtain ⟨e, -, hcounts⟩ := counts_after events {} [] [] .initial hfew hfresh
    exact hcounts.countsUp.pairwise

/-- As long as no two challenges that a digest answered have the same nonce, each header it sends
carries the number of its headers for that nonce up to there, and no count is used twice for a
nonce. -/
theorem counts_of_fresh_nonces (events : List AuthEvent)
    (hfew : ((digest {}).sent events).length < UInt32.size)
    (hfresh : ((digest {}).nonces events).Nodup) :
    (digest {}).sent events = ((digest {}).answers events).map Digest.Answer.header ∧
      (∀ before a after, (digest {}).answers events = before ++ a :: after →
        a.nc.toNat = Digest.uses a.params.nonce (before ++ [a]) ∧
          (a.params.qopAuth = true →
            ("nc", Hex.ofNat 8 (Digest.uses a.params.nonce (before ++ [a]))) ∈ a.fields)) ∧
      ((digest {}).answers events).Pairwise fun earlier later =>
        earlier.params.nonce = later.params.nonce → earlier.nc ≠ later.nc := by
  have hsent := sent_eq_map_answers events {}
  rw [hsent, List.length_map] at hfew
  obtain ⟨e, -, hcounts⟩ := counts_after events {} [] [] .initial hfew hfresh
  refine ⟨hsent, ?_, (pairwise_answers_iff events hfew).mpr hfresh⟩
  intro before a after hsplit
  have hcount := hcounts.countsUp before a after hsplit
  refine ⟨hcount, fun hqop => ?_⟩
  rw [← hcount]
  exact Digest.mem_fields_count hqop

/-- An account that sends credentials unasked once there was a challenge. -/
def countedAccount : Realm :=
  { scheme := .digest, principal := "u", password := "p", preemptive := true }

/-- A challenge with a nonce that is counted. -/
def countedChallenge (nonce : String) (stale : Bool) (cnonce : Bytes) : AuthEvent :=
  .challenge
    [{ scheme := "Digest"
       params := [("realm", "r"), ("nonce", nonce), ("qop", "auth"), ("stale", toString stale)] }]
    countedAccount plainRequest { nonces := [cnonce] }

/-- Credentials sent unasked. -/
def countedRequest (cnonce : Bytes) : AuthEvent :=
  .preempt countedAccount plainRequest { nonces := [cnonce] }

/-- A server gives out a nonce and later, as that is stale, another one. -/
def renewedNonce : List AuthEvent :=
  [countedChallenge "m" false [0], .success, countedRequest [1], .success, countedRequest [2],
    countedChallenge "n" true [3], .success, countedRequest [4]]

/-- Each nonce has its own count. -/
theorem renewedNonce_counts :
    ((digest {}).sent renewedNonce).length < UInt32.size ∧ ((digest {}).nonces renewedNonce).Nodup ∧
      ((digest {}).answers renewedNonce).map (fun a => (a.params.nonce, a.nc)) =
        [("m", 1), ("m", 2), ("m", 3), ("n", 1), ("n", 2)] ∧
      ((digest {}).answers renewedNonce).Pairwise fun earlier later =>
        earlier.params.nonce = later.params.nonce → earlier.nc ≠ later.nc := by
  have hcounts : ((digest {}).answers renewedNonce).map (fun a => (a.params.nonce, a.nc)) =
      [("m", 1), ("m", 2), ("m", 3), ("n", 1), ("n", 2)] := by decide +kernel
  have hfew : ((digest {}).sent renewedNonce).length < UInt32.size := by
    have hlength := congrArg List.length hcounts
    rw [List.length_map] at hlength
    rw [sent_eq_map_answers, List.length_map, hlength]
    decide
  have hfresh : ((digest {}).nonces renewedNonce).Nodup := by decide +kernel
  exact ⟨hfew, hfresh, hcounts, (counts_of_fresh_nonces renewedNonce hfew hfresh).2.2⟩

/-- A server gives out the same nonce for two requests. -/
def repeatedNonce : List AuthEvent :=
  [countedChallenge "n" false [0], .success, countedChallenge "n" false [1]]

/-- The count starts over: both headers carry the same nonce with the count one. -/
theorem repeatedNonce_repeats_count :
    ((digest {}).sent repeatedNonce).map
        (fun header => (Digest.evidence? header).map fun e => (e.nonce, e.qop, e.nc)) =
      [some ("n", some "auth", some "00000001"), some ("n", some "auth", some "00000001")] ∧
      ¬ ((digest {}).answers repeatedNonce).Pairwise fun earlier later =>
        earlier.params.nonce = later.params.nonce → earlier.nc ≠ later.nc := by
  have hlegal : ∀ a ∈ (digest {}).answers repeatedNonce, a.IsLegal ∧ a.IsPlain := by
    decide +kernel
  have hread : ((digest {}).answers repeatedNonce).map
      (fun a => some (a.evidence.nonce, a.evidence.qop, a.evidence.nc)) =
        [some ("n", some "auth", some "00000001"), some ("n", some "auth", some "00000001")] := by
    decide +kernel
  refine ⟨?_, by decide +kernel⟩
  rw [sent_eq_map_answers, List.map_map, ← hread]
  refine List.map_congr_left fun a ha => ?_
  obtain ⟨ha, hplain⟩ := hlegal a ha
  rw [Function.comp_apply, Digest.Answer.evidence?_header ha hplain, Option.map_some]

end Negotiator

end HttpClient
