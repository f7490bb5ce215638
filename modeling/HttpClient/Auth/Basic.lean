import HttpClient.Auth.Challenge
import HttpClient.Auth.Credentials
import HttpClient.Auth.Realm

/-!
# Basic authentication

User name and password are sent at most once a round: a second challenge means refusal.
-/

namespace HttpClient

/-- Where Basic authentication stands. -/
structure BasicAuth where
  sent : Bool := false
  deriving DecidableEq, Repr

namespace BasicAuth

/-- The credentials of a realm. -/
def credentials (realm : Realm) : HeaderValue :=
  Credentials.basic realm.principal (some realm.password)

/-- Credentials sent before they are asked for. -/
def preempt (_ : BasicAuth) (realm : Realm) : HeaderValue × BasicAuth :=
  (credentials realm, { sent := true })

/-- The answer to challenges. -/
def onChallenge (b : BasicAuth) (challenges : List Challenge) (realm : Realm) :
    NextAction × BasicAuth :=
  if !challenges.any (·.is "Basic") then
    (.fail (.violation "no Basic challenge offered"), b)
  else if b.sent then (.fail (.rejected "Basic credentials rejected"), b)
  else (.retry (credentials realm) true, { sent := true })

end BasicAuth

end HttpClient
