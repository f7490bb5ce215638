import HttpClient.Auth.Arena
import HttpClient.Proofs.Auth.Advances

/-!
# Schemes that bind to a connection

A negotiator state stays with the scheme that it began in, whatever it is used for. An answer to a
challenge always asks for the connection to be kept; and what the arena hands out for a connection
was parked under its number.
-/

namespace HttpClient

/-- True for a scheme that authenticates connections, not requests. -/
def AuthScheme.isConnectionScoped : AuthScheme → Bool
  | ntlm | negotiate => true
  | basic | digest => false

/-- A user name and a password are for the connection of the challenge. -/
theorem BasicAuth.keep_onChallenge {b d : BasicAuth} {challenges : List Challenge} {realm : Realm}
    {header : HeaderValue} {keep : Bool}
    (h : b.onChallenge challenges realm = (.retry header keep, d)) : keep = true := by
  unfold onChallenge at h
  split at h
  · cases h
  · split at h
    · cases h
    · simp only [Prod.mk.injEq, NextAction.retry.injEq] at h
      exact h.1.2.symm

/-- A digest is for the connection of the challenge. -/
theorem DigestAuth.keep_onChallenge {d e : DigestAuth} {challenges : List Challenge}
    {realm : Realm} {request : AuthRequest} {supply rest : Supply} {header : HeaderValue}
    {keep : Bool}
    (h : d.onChallenge challenges realm request supply = (.retry header keep, e, rest)) :
    keep = true := by
  cases advances_onChallenge h with
  | answer | renew => rfl

namespace NtlmAuth

variable {n m : NtlmAuth} {challenges : List Challenge} {realm : Realm} {supply rest : Supply}
  {header : HeaderValue} {keep : Bool}

/-- An answer in an NTLM handshake is for the connection of the challenge. -/
theorem keep_onChallenge
    (h : n.onChallenge challenges realm supply = (.retry header keep, m, rest)) : keep = true := by
  cases advances_onChallenge h with
  | start | restart | answer => rfl

end NtlmAuth

namespace NegotiateAuth

variable {n m : NegotiateAuth} {challenges : List Challenge} {source : TokenSource}
  {request : AuthRequest} {supply rest : Supply} {header : HeaderValue} {keep : Bool}

/-- An answer in an exchange of tokens is for the connection of the challenge. -/
theorem keep_onChallenge
    (h : n.onChallenge challenges source request supply = (.retry header keep, m, rest)) :
    keep = true := by
  cases advances_onChallenge h with
  | start | next => rfl

end NegotiateAuth

namespace Negotiator

variable {n : Negotiator} {scheme : AuthScheme} {realm : Realm} {request : AuthRequest}
  {supply : Supply}

/-- The scheme of a state. -/
def scheme? : Negotiator → Option AuthScheme
  | none => Option.none
  | basic _ => some .basic
  | digest _ => some .digest
  | ntlm _ => some .ntlm
  | negotiate _ => some .negotiate

@[simp] theorem scheme?_ofScheme (scheme : AuthScheme) :
    (ofScheme scheme).scheme? = some scheme := by
  cases scheme <;> rfl

/-- A state belongs to its connection where its scheme says so. -/
theorem isConnectionScoped_of_scheme (h : n.scheme? = some scheme) :
    n.isConnectionScoped = scheme.isConnectionScoped := by
  cases n with
  | none => cases h
  | basic | digest | ntlm | negotiate =>
    obtain rfl := Option.some.inj h
    rfl

@[simp] theorem scheme?_preempt (n : Negotiator) (realm : Realm) (request : AuthRequest)
    (supply : Supply) : (n.preempt realm request supply).2.1.scheme? = n.scheme? := by
  cases n with
  | none | basic | digest | ntlm => rfl
  | negotiate state =>
    unfold preempt
    dsimp only
    split <;> rfl

@[simp] theorem scheme?_onChallenge (n : Negotiator) (challenges : List Challenge) (realm : Realm)
    (request : AuthRequest) (supply : Supply) :
    (n.onChallenge challenges realm request supply).2.1.scheme? = n.scheme? := by
  cases n with
  | none | basic | digest | ntlm => rfl
  | negotiate state =>
    unfold onChallenge
    dsimp only
    split <;> rfl

@[simp] theorem scheme?_onSuccess (n : Negotiator) : n.onSuccess.scheme? = n.scheme? := by
  cases n <;> rfl

/-- What a challenge is answered with asks for the connection to be kept, whatever the scheme. -/
theorem keep_of_onChallenge {m : Negotiator} {challenges : List Challenge} {rest : Supply}
    {header : HeaderValue} {keep : Bool}
    (h : n.onChallenge challenges realm request supply = (.retry header keep, m, rest)) :
    keep = true := by
  cases n with
  | none => cases h
  | basic state =>
    rcases hanswer : state.onChallenge challenges realm with ⟨action, next⟩
    simp only [onChallenge, hanswer, Prod.mk.injEq] at h
    obtain ⟨rfl, -, rfl⟩ := h
    exact BasicAuth.keep_onChallenge hanswer
  | digest state =>
    rcases hanswer : state.onChallenge challenges realm request supply with ⟨action, next, left⟩
    simp only [onChallenge, hanswer, Prod.mk.injEq] at h
    obtain ⟨rfl, -, rfl⟩ := h
    exact DigestAuth.keep_onChallenge hanswer
  | ntlm state =>
    rcases hanswer : state.onChallenge challenges realm supply with ⟨action, next, left⟩
    simp only [onChallenge, hanswer, Prod.mk.injEq] at h
    obtain ⟨rfl, -, rfl⟩ := h
    exact NtlmAuth.keep_onChallenge hanswer
  | negotiate state =>
    unfold onChallenge at h
    dsimp only at h
    split at h
    · cases h
    · rename_i source _
      rcases hanswer : state.onChallenge challenges source request supply with
        ⟨action, next, left⟩
      simp only [hanswer, Prod.mk.injEq] at h
      obtain ⟨rfl, -, rfl⟩ := h
      exact NegotiateAuth.keep_onChallenge hanswer

end Negotiator

namespace Arena

variable {a b : Arena} {conn : ConnId} {key : RealmKey} {stored : Option Negotiator} {e : Parked}

/-- Taking the entry of a connection leaves those of others. -/
theorem mem_of_take (h : a.take conn key = (stored, b)) (he : e ∈ b.entries) :
    e ∈ a.entries ∧ e.conn ≠ conn := by
  unfold take at h
  cases hfind : a.find? conn with
  | some found =>
    simp only [hfind, Prod.mk.injEq] at h
    rw [← h.2] at he
    obtain ⟨hmem, hne⟩ := List.mem_filter.mp he
    exact ⟨hmem, bne_iff_ne.mp hne⟩
  | none =>
    simp only [hfind, Prod.mk.injEq] at h
    rw [← h.2] at he
    have hne := List.find?_eq_none.mp hfind e he
    exact ⟨he, fun hconn => hne (beq_iff_eq.mpr hconn)⟩

theorem sublist_take (h : a.take conn key = (stored, b)) : b.entries.Sublist a.entries := by
  unfold take at h
  split at h <;> obtain ⟨-, rfl⟩ := Prod.mk.inj h
  · exact List.filter_sublist
  · exact List.Sublist.refl _

/-- What is handed over was parked for the same connection and the same realm. -/
theorem stored_of_take {n : Negotiator} (h : a.take conn key = (some n, b)) :
    ⟨conn, key, n⟩ ∈ a.entries := by
  unfold take at h
  cases hfind : a.find? conn with
  | none => simp [hfind] at h
  | some found =>
    simp only [hfind, Prod.mk.injEq, Option.ite_none_right_eq_some, Option.some.injEq] at h
    obtain ⟨⟨rfl, rfl⟩, -⟩ := h
    unfold find? at hfind
    have hconn := List.find?_some hfind
    obtain rfl : found.conn = conn := beq_iff_eq.mp hconn
    exact List.mem_of_find?_eq_some hfind

/-- What is there after parking was there for other connections, or is what was parked. -/
theorem mem_put {n : Negotiator} (he : e ∈ (a.put conn key n).entries) :
    (e ∈ a.entries ∧ e.conn ≠ conn) ∨ e = ⟨conn, key, n⟩ := by
  rcases List.mem_append.mp he with hold | hnew
  · obtain ⟨hmem, hne⟩ := List.mem_filter.mp hold
    exact Or.inl ⟨hmem, bne_iff_ne.mp hne⟩
  · exact Or.inr (List.mem_singleton.mp hnew)

end Arena

end HttpClient
