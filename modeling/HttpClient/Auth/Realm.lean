import HttpClient.Error
import HttpClient.Header.Fields

/-!
# Realms

A realm carries credentials, the scheme to present them with, and whom they are for. Realms of
the Negotiate scheme take their tokens from a source outside; `Supply` is all that answering
challenges draws from outside: random nonces, the wall clock and those tokens.
-/

namespace HttpClient

/-- An authentication scheme. -/
inductive AuthScheme
  | basic
  | digest
  | ntlm
  | negotiate
  deriving DecidableEq, Repr

/-- The name of a scheme in texts made for people. -/
def AuthScheme.name : AuthScheme → String
  | basic => "Basic"
  | digest => "Digest"
  | ntlm => "Ntlm"
  | negotiate => "Spnego"

/-- Whom credentials are for. -/
inductive AuthTarget
  | origin
  | proxy
  deriving DecidableEq, Repr

namespace AuthTarget

/-- The name in texts made for people. -/
def name : AuthTarget → String
  | origin => "Origin"
  | proxy => "Proxy"

/-- The status of a response that asks for credentials. -/
def challengeStatus : AuthTarget → Status
  | origin => 401
  | proxy => 407

/-- The header that holds the challenges. -/
def challengeHeader : AuthTarget → String
  | origin => "www-authenticate"
  | proxy => "proxy-authenticate"

/-- The header that carries the credentials. -/
def credentialsHeader : AuthTarget → String
  | origin => "authorization"
  | proxy => "proxy-authorization"

end AuthTarget

/-- What a token source answers to a token of the server. -/
inductive TokenReply
  | token (bytes : Bytes)
  /-- The exchange is complete and nothing more is sent. -/
  | complete
  | refused
  deriving DecidableEq, Repr

/-- Supplies the tokens of the Negotiate scheme. -/
structure TokenSource where
  /-- Tells sources apart. -/
  key : Nat
  /-- The first token for a host, if one can be made. -/
  initial : (host : String) → Option Bytes
  /-- The answer to a server token after some earlier ones. -/
  next : (earlier : Nat) → (host : String) → (server : Bytes) → TokenReply

/-- Credentials and the scheme to present them with. -/
structure Realm where
  scheme : AuthScheme
  principal : String := ""
  password : String := ""
  /-- Send credentials before they are asked for. -/
  preemptive : Bool := false
  domain : Option String := none
  workstation : Option String := none
  target : AuthTarget := .origin
  tokens : Option TokenSource := none

/-- What tells the realms of stored negotiations apart. -/
structure RealmKey where
  scheme : AuthScheme
  principal : String
  target : AuthTarget
  deriving DecidableEq, Repr

/-- The key of a realm. -/
def Realm.key (r : Realm) : RealmKey := ⟨r.scheme, r.principal, r.target⟩

/-- The request that credentials are made for. -/
structure AuthRequest where
  method : Method
  /-- Path and query, as sent on the request line. -/
  uri : String
  host : String
  deriving DecidableEq, Repr

/-- A call to a token source. -/
inductive TokenCall
  | initial (source : Nat) (host : String)
  | next (source : Nat) (host : String) (server : Bytes)
  deriving DecidableEq, Repr

/-- What answering challenges draws from outside. -/
structure Supply where
  /-- Nonces of eight random bytes that are still to be drawn. -/
  nonces : List Bytes := []
  /-- The wall clock, in milliseconds since 1970. -/
  unixMillis : Nat := 0
  /-- The calls made to token sources, oldest first. -/
  calls : List TokenCall := []
  deriving Repr

namespace Supply

/-- The next nonce. -/
def draw (s : Supply) : Option Bytes × Supply :=
  match s.nonces with
  | [] => (none, s)
  | nonce :: rest => (some nonce, { s with nonces := rest })

/-- How many server tokens a source has answered. -/
def answered (s : Supply) (source : Nat) : Nat :=
  s.calls.countP fun call =>
    match call with
    | .next key _ _ => key == source
    | .initial _ _ => false

/-- Asks a source for its first token. -/
def initialToken (s : Supply) (source : TokenSource) (host : String) : Option Bytes × Supply :=
  (source.initial host, { s with calls := s.calls ++ [.initial source.key host] })

/-- Asks a source for the answer to a server token. -/
def nextToken (s : Supply) (source : TokenSource) (host : String) (server : Bytes) :
    TokenReply × Supply :=
  (source.next (s.answered source.key) host server,
    { s with calls := s.calls ++ [.next source.key host server] })

end Supply

/-- What to do after a challenge. -/
inductive NextAction
  /-- Send the request again with these credentials. -/
  | retry (header : HeaderValue) (keepConnection : Bool)
  | fail (failure : Failure)
  /-- The response is for the caller. -/
  | done
  deriving DecidableEq, Repr

end HttpClient
