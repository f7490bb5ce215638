import HttpClient.Auth.Challenge
import HttpClient.Auth.Credentials
import HttpClient.Auth.Realm

/-!
# Negotiate authentication

Tokens from a source outside are exchanged with the server. Like NTLM, the exchange belongs to
one connection.
-/

namespace HttpClient

/-- Where an exchange of tokens stands. -/
inductive NegotiateStage
  | initial
  | tokenSent
  | established
  | failed
  deriving DecidableEq, Repr

/-- The name of a stage in reports. -/
def NegotiateStage.name : NegotiateStage → String
  | initial => "Init"
  | tokenSent => "TokenSent"
  | established => "Established"
  | failed => "Failed"

/-- An exchange of tokens. -/
structure NegotiateAuth where
  stage : NegotiateStage := .initial
  deriving DecidableEq, Repr

namespace NegotiateAuth

/-- The header with a token. -/
def header (token : Bytes) : HeaderValue := Credentials.token "Negotiate" token

/-- Sends the first token. -/
def preempt (_ : NegotiateAuth) (source : TokenSource) (request : AuthRequest) (supply : Supply) :
    Except Failure HeaderValue × NegotiateAuth × Supply :=
  match supply.initialToken source request.host with
  | (some token, supply) => (.ok (header token), ⟨.tokenSent⟩, supply)
  | (none, supply) =>
    (.error (.violation "SPNEGO provider failed to produce a token"), ⟨.failed⟩, supply)

/-- Answers a token of the server. -/
def continueWith (n : NegotiateAuth) (source : TokenSource) (request : AuthRequest)
    (token : String) (supply : Supply) : NextAction × NegotiateAuth × Supply :=
  match Base64.decode? token with
  | none => (.fail (.violation "malformed Negotiate token"), ⟨.failed⟩, supply)
  | some server =>
    match supply.nextToken source request.host server with
    | (.token next, supply) => (.retry (header next) true, n, supply)
    | (.complete, supply) => (.fail (.rejected "Negotiate context rejected"), ⟨.failed⟩, supply)
    | (.refused, supply) =>
      (.fail (.violation "SPNEGO provider rejected server token"), ⟨.failed⟩, supply)

/-- The answer to challenges: the first Negotiate challenge decides. -/
def onChallenge (n : NegotiateAuth) (challenges : List Challenge) (source : TokenSource)
    (request : AuthRequest) (supply : Supply) : NextAction × NegotiateAuth × Supply :=
  let start :=
    match n.preempt source request supply with
    | (.ok header, n, supply) => (NextAction.retry header true, n, supply)
    | (.error failure, n, supply) => (.fail failure, n, supply)
  match Challenge.find? challenges "Negotiate" with
  | none => (.fail (.violation "no Negotiate challenge offered"), ⟨.failed⟩, supply)
  | some challenge =>
    match n.stage, challenge.token with
    | .initial, _ | .established, none => start
    | .tokenSent, some token => n.continueWith source request token supply
    | .tokenSent, none | .established, some _ | .failed, _ =>
      (.fail (.rejected "Negotiate credentials rejected"), ⟨.failed⟩, supply)

/-- A response that was no challenge completes the exchange after a token was sent. -/
def onSuccess (n : NegotiateAuth) : NegotiateAuth :=
  if n.stage = .tokenSent then ⟨.established⟩ else n

end NegotiateAuth

end HttpClient
