import HttpClient.Auth.Challenge
import HttpClient.Auth.Credentials
import HttpClient.Auth.Ntlm.Message
import HttpClient.Auth.Realm

/-!
# The NTLM handshake

Three messages authenticate a connection, not a request: the answer must travel on the
connection that received the challenge, and once it is accepted, later requests there need no
handshake. An authenticated connection may be authenticated once more.
-/

namespace HttpClient

/-- Where a handshake stands on its connection. -/
inductive NtlmStage
  | initial
  | negotiated
  | challenged
  | answered
  | authenticated
  | failed
  deriving DecidableEq, Repr

/-- The name of a stage in reports. -/
def NtlmStage.name : NtlmStage → String
  | initial => "Init"
  | negotiated => "Type1Sent"
  | challenged => "Type2Received"
  | answered => "Type3Sent"
  | authenticated => "Authenticated"
  | failed => "Failed"

/-- An NTLM handshake. -/
structure NtlmAuth where
  stage : NtlmStage := .initial
  restarted : Bool := false
  deriving DecidableEq, Repr

namespace NtlmAuth

/-- The account of a realm. -/
def account (realm : Realm) : Ntlm.Account :=
  { domain := realm.domain
    workstation := realm.workstation
    user := realm.principal
    password := realm.password }

/-- Sends the negotiate message. -/
def negotiate (n : NtlmAuth) : HeaderValue × NtlmAuth :=
  (Credentials.token "NTLM" Ntlm.negotiate, { n with stage := .negotiated })

/-- Ends the handshake. -/
def fail (n : NtlmAuth) (failure : Failure) : NextAction × NtlmAuth :=
  (.fail failure, { n with stage := .failed })

/-- The challenge message in a token. -/
def readToken (token : String) : Except Failure Ntlm.ChallengeMessage :=
  match Base64.decode? token with
  | none => .error (.violation "NTLM Type 2 is not base64")
  | some bytes =>
    match Ntlm.ChallengeMessage.decode bytes with
    | .error _ => .error (.violation "malformed NTLM Type 2 message")
    | .ok challenge => .ok challenge

/-- Answers a challenge message. The client nonce is drawn before the answer is made. -/
def authenticate (n : NtlmAuth) (token : String) (realm : Realm) (supply : Supply) :
    NextAction × NtlmAuth × Supply :=
  match readToken token with
  | .error failure => let (action, n) := n.fail failure; (action, n, supply)
  | .ok challenge =>
    match supply.draw with
    | (none, supply) => let (action, n) := n.fail .entropy; (action, n, supply)
    | (some nonce, supply) =>
      let answer :=
        Ntlm.authenticate (account realm) challenge nonce (Ntlm.filetime supply.unixMillis)
      match answer with
      | .error _ =>
        let (action, n) := n.fail (.violation "NTLM Type 3 message cannot be encoded")
        (action, n, supply)
      | .ok message =>
        (.retry (Credentials.token "NTLM" message) true, { n with stage := .answered }, supply)

/-- The answer to challenges: the first NTLM challenge decides. -/
def onChallenge (n : NtlmAuth) (challenges : List Challenge) (realm : Realm) (supply : Supply) :
    NextAction × NtlmAuth × Supply :=
  let stop := fun (failure : Failure) =>
    let (action, n) := n.fail failure
    (action, n, supply)
  let start := fun (n : NtlmAuth) =>
    let (header, n) := n.negotiate
    (NextAction.retry header true, n, supply)
  match Challenge.find? challenges "NTLM" with
  | none => stop (.violation "no NTLM challenge offered")
  | some challenge =>
    match n.stage, challenge.token with
    | .initial, none => start n
    | .initial, some _ => stop (.violation "NTLM challenge before negotiate")
    | .negotiated, some token => n.authenticate token realm supply
    | .negotiated, none => stop (.violation "NTLM challenge without a Type 2 message")
    | .authenticated, none =>
      if n.restarted then stop (.rejected "NTLM authentication failed")
      else start { n with restarted := true }
    | .challenged, _ | .answered, _ => stop (.rejected "NTLM credentials rejected")
    | .authenticated, some _ | .failed, _ => stop (.rejected "NTLM authentication failed")

/-- A response that was no challenge completes the handshake after the answer. -/
def onSuccess (n : NtlmAuth) : NtlmAuth :=
  if n.stage = .answered then { stage := .authenticated, restarted := false } else n

end NtlmAuth

end HttpClient
