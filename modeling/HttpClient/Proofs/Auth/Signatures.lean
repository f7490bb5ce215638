import HttpClient.Proofs.Auth.Schemes

/-!
# Credentials that are made for one request

A Digest header proves a secret for one method and one URI. Every header that a Digest state makes,
unasked or for a challenge, is for the request that it is asked for; and a state that would send
something unasked has something to send.
-/

namespace HttpClient

/-- Credentials of a realm are good for a method and a URI. Those of Digest are made for just these;
to the other schemes it is all one. -/
def Realm.Signs (realm : Realm) (method : Method) (uri : String) (header : HeaderValue) : Prop :=
  realm.scheme = .digest → ∃ params host nc cnonce,
    header = Digest.header params realm ⟨method, uri, host⟩ nc cnonce

namespace DigestAuth

variable {d e : DigestAuth} {params : Digest.Params} {challenges : List Challenge} {realm : Realm}
  {request : AuthRequest} {supply rest : Supply} {header : HeaderValue} {keep : Bool}

/-- What answers a challenge that can be answered is made for the request. -/
theorem made_of_answerFresh
    (h : d.answerFresh params realm request supply = (.retry header keep, e, rest)) :
    ∃ nc cnonce, header = Digest.header params realm request nc cnonce := by
  unfold answerFresh at h
  split at h
  · cases h
  · simp only [Prod.mk.injEq, NextAction.retry.injEq] at h
    exact ⟨_, _, h.1.1.symm⟩

/-- What answers a challenge is made for the request. -/
theorem made_of_onChallenge
    (h : d.onChallenge challenges realm request supply = (.retry header keep, e, rest)) :
    ∃ params nc cnonce, header = Digest.header params realm request nc cnonce := by
  rcases d.onChallenge_cases challenges realm request supply with ⟨failure, hrefuse⟩ |
    ⟨c, params, -, -, ⟨-, hanswer⟩ | ⟨-, -, -, hanswer⟩⟩
  · rw [hrefuse] at h
    cases h
  · exact ⟨params, made_of_answerFresh (hanswer.symm.trans h)⟩
  · exact ⟨params, made_of_answerFresh (hanswer.symm.trans h)⟩

/-- What is sent unasked is made for the request. -/
theorem made_of_preempt (h : d.preempt realm request supply = (.ok (some header), e, rest)) :
    ∃ params nc cnonce, header = Digest.header params realm request nc cnonce := by
  unfold preempt at h
  split at h
  · cases h
  · rename_i params _
    split at h
    · cases h
    · simp only [Prod.mk.injEq, Except.ok.injEq, Option.some.injEq] at h
      exact ⟨params, _, _, h.1.symm⟩

end DigestAuth

namespace Negotiator

variable {n m : Negotiator} {challenges : List Challenge} {realm : Realm} {request : AuthRequest}
  {supply rest : Supply} {header : HeaderValue} {keep : Bool}

/-- An answer to a challenge is good for the request. -/
theorem signs_of_onChallenge (hscheme : n.scheme? = some realm.scheme)
    (h : n.onChallenge challenges realm request supply = (.retry header keep, m, rest)) :
    realm.Signs request.method request.uri header := by
  intro hdigest
  rw [hdigest] at hscheme
  cases n with
  | none | basic | ntlm | negotiate => cases hscheme
  | digest state =>
    rcases hanswer : state.onChallenge challenges realm request supply with ⟨action, next, left⟩
    simp only [onChallenge, hanswer, Prod.mk.injEq] at h
    obtain ⟨rfl, -, rfl⟩ := h
    obtain ⟨params, nc, cnonce, hmade⟩ := DigestAuth.made_of_onChallenge hanswer
    exact ⟨params, request.host, nc, cnonce, hmade⟩

/-- What is sent unasked is good for the request. -/
theorem signs_of_preempt (hscheme : n.scheme? = some realm.scheme)
    (h : n.preempt realm request supply = (.ok (some header), m, rest)) :
    realm.Signs request.method request.uri header := by
  intro hdigest
  rw [hdigest] at hscheme
  cases n with
  | none | basic | ntlm | negotiate => cases hscheme
  | digest state =>
    rcases hanswer : state.preempt realm request supply with ⟨result, next, left⟩
    simp only [preempt, hanswer, Prod.mk.injEq] at h
    obtain ⟨rfl, -, rfl⟩ := h
    obtain ⟨params, nc, cnonce, hmade⟩ := DigestAuth.made_of_preempt hanswer
    exact ⟨params, request.host, nc, cnonce, hmade⟩

/-- Where something is to be sent unasked there is something to send. -/
theorem isSome_of_preempt {value : Option HeaderValue} (hshould : n.shouldPreempt realm = true)
    (h : n.preempt realm request supply = (.ok value, m, rest)) :
    ∃ header, value = some header := by
  unfold shouldPreempt at hshould
  rw [Bool.and_eq_true] at hshould
  cases n with
  | none => cases hshould.2
  | basic | ntlm =>
    simp only [preempt, Prod.mk.injEq, Except.ok.injEq] at h
    exact ⟨_, h.1.symm⟩
  | digest state =>
    obtain ⟨params, hparams⟩ := Option.isSome_iff_exists.mp hshould.2
    rcases hfirst : state.preempt realm request supply with ⟨result, next, left⟩
    simp only [preempt, hfirst, Prod.mk.injEq] at h
    obtain ⟨rfl, -, -⟩ := h
    simp only [DigestAuth.preempt, hparams] at hfirst
    split at hfirst
    · cases hfirst
    · simp only [Prod.mk.injEq, Except.ok.injEq] at hfirst
      exact ⟨_, hfirst.1.symm⟩
  | negotiate state =>
    simp only [preempt] at h
    split at h
    · cases h
    · rename_i source _
      rcases hfirst : state.preempt source request supply with ⟨result, next, left⟩
      simp only [hfirst, Prod.mk.injEq] at h
      cases result with
      | error failure => cases h.1
      | ok header => exact ⟨header, (Except.ok.inj h.1).symm⟩

end Negotiator

end HttpClient
