import HttpClient.Auth.Basic
import HttpClient.Auth.Digest
import HttpClient.Auth.Ntlm.Handshake
import HttpClient.Auth.Negotiate

/-!
# Negotiators

The state of authentication for one realm, whatever its scheme: whether the next request
carries credentials unasked, what a challenge is answered with, and what any other response
means. The state of NTLM and Negotiate belongs to the connection it was reached on.
-/

namespace HttpClient

/-- The state of authentication. -/
inductive Negotiator
  | none
  | basic (state : BasicAuth)
  | digest (state : DigestAuth)
  | ntlm (state : NtlmAuth)
  | negotiate (state : NegotiateAuth)
  deriving DecidableEq, Repr

namespace Negotiator

/-- The state in which a scheme begins. -/
def ofScheme : AuthScheme → Negotiator
  | .basic => .basic {}
  | .digest => .digest {}
  | .ntlm => .ntlm {}
  | .negotiate => .negotiate {}

/-- The state in which a realm begins; without a realm nothing is negotiated. -/
def ofRealm (realm : Option Realm) : Negotiator :=
  match realm with
  | Option.none => .none
  | some realm => ofScheme realm.scheme

/-- True when the next request carries credentials unasked. -/
def shouldPreempt (n : Negotiator) (realm : Realm) : Bool :=
  realm.preemptive &&
    match n with
    | .none => false
    | .basic _ => true
    | .digest state => state.params.isSome
    | .ntlm state => state.stage = .initial
    | .negotiate state => state.stage ≠ .established

/-- The source of tokens of a realm. -/
def tokenSource (realm : Realm) : Except Failure TokenSource :=
  match realm.tokens with
  | some source => .ok source
  | Option.none => .error (.violation "no SPNEGO provider configured")

/-- Credentials sent before they are asked for, if there are any. -/
def preempt (n : Negotiator) (realm : Realm) (request : AuthRequest) (supply : Supply) :
    Except Failure (Option HeaderValue) × Negotiator × Supply :=
  match n with
  | .none => (.ok Option.none, n, supply)
  | .basic state => let (header, state) := state.preempt realm; (.ok header, .basic state, supply)
  | .digest state =>
    let (result, state, supply) := state.preempt realm request supply
    (result, .digest state, supply)
  | .ntlm state => let (header, state) := state.negotiate; (.ok header, .ntlm state, supply)
  | .negotiate state =>
    match tokenSource realm with
    | .error failure => (.error failure, n, supply)
    | .ok source =>
      let (result, state, supply) := state.preempt source request supply
      (result.map some, .negotiate state, supply)

/-- The answer to challenges. -/
def onChallenge (n : Negotiator) (challenges : List Challenge) (realm : Realm)
    (request : AuthRequest) (supply : Supply) : NextAction × Negotiator × Supply :=
  match n with
  | .none => (.done, n, supply)
  | .basic state =>
    let (action, state) := state.onChallenge challenges realm
    (action, .basic state, supply)
  | .digest state =>
    let (action, state, supply) := state.onChallenge challenges realm request supply
    (action, .digest state, supply)
  | .ntlm state =>
    let (action, state, supply) := state.onChallenge challenges realm supply
    (action, .ntlm state, supply)
  | .negotiate state =>
    match tokenSource realm with
    | .error failure => (.fail failure, n, supply)
    | .ok source =>
      let (action, state, supply) := state.onChallenge challenges source request supply
      (action, .negotiate state, supply)

/-- A response that was no challenge. -/
def onSuccess (n : Negotiator) : Negotiator :=
  match n with
  | .none => .none
  | .basic _ => .basic {}
  | .digest state => .digest state.onSuccess
  | .ntlm state => .ntlm state.onSuccess
  | .negotiate state => .negotiate state.onSuccess

/-- True when the state belongs to the connection it was reached on. -/
def isConnectionScoped (n : Negotiator) : Bool :=
  match n with
  | .ntlm _ | .negotiate _ => true
  | _ => false

end Negotiator

end HttpClient
