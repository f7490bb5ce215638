import HttpClient.Auth.Challenge
import HttpClient.Auth.Credentials
import HttpClient.Auth.Realm
import HttpClient.Crypto.Md5
import HttpClient.Text.Hex

/-!
# Digest authentication

The algorithms MD5 and MD5-sess, with protection `auth` or without one. The last challenge is
kept, so that later requests can be sent with credentials and the next nonce count.
-/

namespace HttpClient

namespace Digest

/-- How the secret is hashed. -/
inductive Algorithm
  | md5
  | md5Sess
  deriving DecidableEq, Repr

/-- The name of an algorithm. -/
def Algorithm.name : Algorithm → String
  | md5 => "MD5"
  | md5Sess => "MD5-sess"

/-- The algorithm of this name in any letter case. -/
def Algorithm.parse? (name : String) : Option Algorithm :=
  if Ascii.sameLetters name "MD5" then some md5
  else if Ascii.sameLetters name "MD5-sess" then some md5Sess
  else none

/-- What a challenge asks for. -/
structure Params where
  realm : String
  nonce : String
  opaqueText : Option String
  algorithm : Algorithm
  /-- The protection `auth` is in use, with nonce counts. -/
  qopAuth : Bool
  deriving DecidableEq, Repr

/-- True when a list of protections names `auth`. -/
def offersAuth (qop : String) : Bool :=
  (Ascii.splitAt ',' qop.toList).any fun piece =>
    Ascii.sameLetters (String.ofList (Ascii.trimBy Char.isWhitespace piece)) "auth"

/-- The algorithm of a challenge, MD5 where it names none. -/
def readAlgorithm (c : Challenge) : Except Failure Algorithm :=
  match c.param? "algorithm" with
  | none => .ok .md5
  | some name =>
    match Algorithm.parse? name with
    | some algorithm => .ok algorithm
    | none => .error (.violation "unsupported Digest algorithm")

/-- True when a challenge offers the protection `auth`, false when it offers none. -/
def readQop (c : Challenge) : Except Failure Bool :=
  match c.param? "qop" with
  | none => .ok false
  | some qop => if offersAuth qop then .ok true else .error (.violation "unsupported Digest qop")

/-- What a challenge asks for, if it can be answered. -/
def Params.ofChallenge (c : Challenge) : Except Failure Params :=
  match c.param? "nonce" with
  | none => .error (.violation "Digest challenge without nonce")
  | some nonce => do
    let algorithm ← readAlgorithm c
    let qopAuth ← readQop c
    return {
      realm := (c.param? "realm").getD ""
      nonce := nonce
      opaqueText := c.param? "opaque"
      algorithm := algorithm
      qopAuth := qopAuth }

/-- The MD5 digest of a text in hexadecimal digits. -/
def hash (text : String) : String := Hex.encode (Md5.hash (Utf8.encode text))

/-- Texts with colons between them. -/
def joinColon (parts : List String) : String := String.intercalate ":" parts

/-- A nonce count in eight hexadecimal digits. -/
def countText (nc : UInt32) : String := Hex.ofNat 8 nc.toNat

/-- The hash of user name, realm and password, bound to the nonces for MD5-sess. -/
def secret (params : Params) (realm : Realm) (cnonce : String) : String :=
  let ha1 := hash (joinColon [realm.principal, params.realm, realm.password])
  match params.algorithm with
  | .md5 => ha1
  | .md5Sess => hash (joinColon [ha1, params.nonce, cnonce])

/-- The proof that the secret is known. -/
def response (params : Params) (realm : Realm) (request : AuthRequest) (nc : UInt32)
    (cnonce : String) : String :=
  let ha1 := secret params realm cnonce
  let ha2 := hash (joinColon [request.method, request.uri])
  if params.qopAuth then
    hash (joinColon [ha1, params.nonce, countText nc, cnonce, "auth", ha2])
  else hash (joinColon [ha1, params.nonce, ha2])

/-- The parameters of a credentials header. -/
def answer (params : Params) (realm : Realm) (request : AuthRequest) (nc : UInt32)
    (cnonce : String) : List Credentials.Param :=
  [.quoted "username" realm.principal,
    .quoted "realm" params.realm,
    .quoted "nonce" params.nonce,
    .quoted "uri" request.uri,
    .enclosed "response" (response params realm request nc cnonce),
    .plain "algorithm" params.algorithm.name]
  ++ (params.opaqueText.map (Credentials.Param.quoted "opaque")).toList
  ++ (if params.qopAuth then
      [.plain "qop" "auth", .plain "nc" (countText nc), .enclosed "cnonce" cnonce]
    else [])

/-- The text of a credentials header. -/
def headerText (params : Params) (realm : Realm) (request : AuthRequest) (nc : UInt32)
    (cnonce : String) : String :=
  Credentials.render "Digest" (answer params realm request nc cnonce)

/-- The value of a credentials header; only the scheme where the text is no header value. -/
def header (params : Params) (realm : Realm) (request : AuthRequest) (nc : UInt32)
    (cnonce : String) : HeaderValue :=
  match HeaderValue.ofBytes (Utf8.encode (headerText params realm request nc cnonce)) with
  | .ok value => value.hidden
  | .error _ => (HeaderValue.ofAscii "Digest").hidden

end Digest

/-- Where Digest authentication stands. -/
structure DigestAuth where
  /-- The last challenge that was answered. -/
  params : Option Digest.Params := none
  /-- How many headers were made for its nonce. -/
  nc : UInt32 := 0
  sent : Bool := false
  staleRetried : Bool := false
  deriving DecidableEq, Repr

namespace DigestAuth

/-- Credentials sent before they are asked for, once a challenge has been seen. -/
def preempt (d : DigestAuth) (realm : Realm) (request : AuthRequest) (supply : Supply) :
    Except Failure (Option HeaderValue) × DigestAuth × Supply :=
  match d.params with
  | none => (.ok none, d, supply)
  | some params =>
    match supply.draw with
    | (none, supply) => (.error .entropy, d, supply)
    | (some nonce, supply) =>
      let nc := d.nc + 1
      (.ok (some (Digest.header params realm request nc (Hex.encode nonce))),
        { d with nc := nc, sent := true }, supply)

/-- The answer to a challenge that can be answered. -/
def answerFresh (d : DigestAuth) (params : Digest.Params) (realm : Realm) (request : AuthRequest)
    (supply : Supply) : NextAction × DigestAuth × Supply :=
  match supply.draw with
  | (none, supply) => (.fail .entropy, d, supply)
  | (some nonce, supply) =>
    (.retry (Digest.header params realm request 1 (Hex.encode nonce)) true,
      { d with params := some params, nc := 1, sent := true }, supply)

/-- The answer to challenges: the first Digest challenge decides. After credentials were sent
only a challenge marked stale is answered, and only once. -/
def onChallenge (d : DigestAuth) (challenges : List Challenge) (realm : Realm)
    (request : AuthRequest) (supply : Supply) : NextAction × DigestAuth × Supply :=
  match Challenge.find? challenges "Digest" with
  | none => (.fail (.violation "no Digest challenge offered"), d, supply)
  | some challenge =>
    match Digest.Params.ofChallenge challenge with
    | .error failure => (.fail failure, d, supply)
    | .ok params =>
      let stale := (challenge.param? "stale").any (Ascii.sameLetters · "true")
      if d.sent then
        if stale && !d.staleRetried then
          answerFresh { d with staleRetried := true } params realm request supply
        else (.fail (.rejected "Digest credentials rejected"), d, supply)
      else answerFresh d params realm request supply

/-- A response that was no challenge starts a new round. -/
def onSuccess (d : DigestAuth) : DigestAuth := { d with sent := false, staleRetried := false }

end DigestAuth

end HttpClient
