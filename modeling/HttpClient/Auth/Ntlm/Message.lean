import HttpClient.Auth.Ntlm.Response
import HttpClient.Text.Utf8

/-!
# NTLM messages

Three messages: negotiate, challenge and authenticate. Payloads stand behind a fixed header
and are found through buffers, a length given twice and an offset. `Challenge.decode` reads
no byte outside the message, and `authenticate` refuses payloads whose length does not fit.
-/

namespace HttpClient.Ntlm

/-- Every message starts with these bytes. -/
def signature : Bytes := [0x4E, 0x54, 0x4C, 0x4D, 0x53, 0x53, 0x50, 0x00]

namespace Flag

/-- Texts are UTF-16. -/
def unicode : Nat := 0x00000001

/-- The server is asked for its name. -/
def requestTarget : Nat := 0x00000004

/-- The LM response makes a session key. -/
def lmKey : Nat := 0x00000080

/-- The NTLM scheme. -/
def ntlm : Nat := 0x00000200

/-- Messages may be signed. -/
def alwaysSign : Nat := 0x00008000

/-- Responses mix both challenges. -/
def ntlm2Session : Nat := 0x00080000

/-- The challenge carries target info. -/
def targetInfo : Nat := 0x00800000

/-- Messages carry a version. -/
def version : Nat := 0x02000000

/-- Keys of 128 bits. -/
def key128 : Nat := 0x20000000

/-- Keys of 56 bits. -/
def key56 : Nat := 0x80000000

end Flag

/-- True when a flag of one bit is set. -/
def hasFlag (flags flag : Nat) : Bool := flags &&& flag != 0

/-- The flags of the negotiate message. -/
def negotiateFlags : Nat :=
  Flag.key56 ||| Flag.key128 ||| Flag.version ||| Flag.ntlm2Session ||| Flag.alwaysSign
    ||| Flag.ntlm ||| Flag.unicode

/-- The flags of a challenge that the answer repeats. -/
def answeredFlags : Nat :=
  Flag.lmKey ||| Flag.ntlm ||| Flag.ntlm2Session ||| Flag.alwaysSign ||| Flag.key128
    ||| Flag.key56 ||| Flag.targetInfo ||| Flag.unicode ||| Flag.requestTarget

/-- The version that this side reports. -/
def versionBytes : Bytes := [0x05, 0x01, 0x28, 0x0A, 0x00, 0x00, 0x00, 0x0F]

/-- The header of a payload. -/
def bufferHeader (len offset : Nat) : Bytes :=
  Bytes.ofNatLE 2 len ++ Bytes.ofNatLE 2 len ++ Bytes.ofNatLE 4 offset

/-- The negotiate message; domain and workstation stay empty. -/
def negotiate : Bytes :=
  signature ++ Bytes.ofNatLE 4 1 ++ Bytes.ofNatLE 4 negotiateFlags ++ bufferHeader 0 40
    ++ bufferHeader 0 40 ++ versionBytes

/-- Why a challenge message cannot be read. -/
inductive Malformed
  | tooShort
  | badSignature
  | notAChallenge
  | bufferOutOfBounds
  deriving DecidableEq, Repr

/-- The text of each reason. -/
def Malformed.message : Malformed → String
  | tooShort => "malformed NTLM challenge: message too short"
  | badSignature => "malformed NTLM challenge: bad signature"
  | notAChallenge => "malformed NTLM challenge: not a type 2 message"
  | bufferOutOfBounds => "malformed NTLM challenge: security buffer out of bounds"

/-- A challenge message. -/
structure ChallengeMessage where
  flags : Nat
  serverChallenge : Bytes
  target : Option String
  targetInfo : Option Bytes
  deriving DecidableEq, Repr

/-- The payload whose header stands at a position; empty where the header is missing. -/
def readBuffer (msg : Bytes) (start : Nat) : Except Malformed Bytes :=
  match msg.readLE? start 2, msg.readLE? (start + 4) 4 with
  | some len, some offset =>
    if len = 0 then .ok []
    else
      match msg.slice? offset len with
      | some payload => .ok payload
      | none => .error .bufferOutOfBounds
  | _, _ => .ok []

/-- A byte string, absent when empty. -/
def nonEmpty (bytes : Bytes) : Option Bytes := if bytes.isEmpty then none else some bytes

/-- The text of a payload. -/
def decodeText (isUnicode : Bool) (bytes : Bytes) : String :=
  if isUnicode then Utf16.decodeLossyLE bytes else Utf8.decodeLossy bytes

/-- Reads a challenge message. -/
def ChallengeMessage.decode (msg : Bytes) : Except Malformed ChallengeMessage :=
  match msg.slice? 0 8, msg.readLE? 8 4, msg.readLE? 20 4, msg.slice? 24 8 with
  | some start, some kind, some flags, some serverChallenge =>
    if start ≠ signature then .error .badSignature
    else if kind ≠ 2 then .error .notAChallenge
    else do
      let target ← readBuffer msg 12
      let targetInfo ←
        if hasFlag flags Flag.targetInfo ∧ 48 ≤ msg.length then readBuffer msg 40 else .ok []
      return {
        flags := flags
        serverChallenge := serverChallenge
        target := (nonEmpty target).map (decodeText (hasFlag flags Flag.unicode))
        targetInfo := nonEmpty targetInfo }
  | _, _, _, _ => .error .tooShort

/-- Everything that an answer is made from. -/
structure Account where
  domain : Option String
  workstation : Option String
  user : String
  password : String
  deriving DecidableEq, Repr

/-- A name up to its first dot. -/
def stripSuffix (name : String) : String := String.ofList (name.toList.takeWhile (· != '.'))

/-- The LM and NT responses to a challenge: the second version where target info is present,
else the mixed one where the server offers it, else the first. -/
def responses (account : Account) (challenge : ChallengeMessage) (clientChallenge : Bytes)
    (timestamp : Nat) : Bytes × Bytes :=
  let hash := ntHash account.password
  let server := challenge.serverChallenge
  match challenge.targetInfo with
  | some info =>
    let domain := account.domain.getD ""
    (v2Response (lmv2Hash hash account.user domain) server clientChallenge,
      v2Response (v2Hash hash account.user domain) server (v2Blob clientChallenge info timestamp))
  | none =>
    if hasFlag challenge.flags Flag.ntlm2Session then
      (clientChallenge.padTo 24, sessionResponse hash server clientChallenge)
    else (desResponse (lmHash account.password) server, desResponse hash server)

/-- The six fields of an authenticate message. -/
inductive Field
  | lmResponse
  | ntResponse
  | domain
  | user
  | workstation
  | sessionKey
  deriving DecidableEq, Repr

/-- The name of a field. -/
def Field.name : Field → String
  | lmResponse => "LM response"
  | ntResponse => "NT response"
  | domain => "domain"
  | user => "user name"
  | workstation => "workstation"
  | sessionKey => "session key"

/-- The text about a field that is too long for its length. -/
def Field.oversized (field : Field) : String := "NTLM " ++ field.name ++ " is too long"

/-- The bytes of a text, in the encoding that the challenge asks for. -/
def encodeText (isUnicode : Bool) (s : String) : Bytes :=
  if isUnicode then Utf16.encodeLE s else oem s

/-- The fields of an authenticate message with their payloads, in order. -/
def payloads (account : Account) (challenge : ChallengeMessage) (clientChallenge : Bytes)
    (timestamp : Nat) : List (Field × Bytes) :=
  let (lm, nt) := responses account challenge clientChallenge timestamp
  let encode := encodeText (hasFlag challenge.flags Flag.unicode)
  [(.lmResponse, lm),
    (.ntResponse, nt),
    (.domain, (account.domain.map fun d => encode (UpperCase.ofString (stripSuffix d))).getD []),
    (.user, encode account.user),
    (.workstation, (account.workstation.map fun w => encode (stripSuffix w)).getD []),
    (.sessionKey, [])]

/-- The headers of payloads that stand one behind the other from an offset on. -/
def bufferHeaders (offset : Nat) : List (Field × Bytes) → Except Field Bytes
  | [] => .ok []
  | (field, payload) :: rest =>
    if payload.length < 65536 then do
      let more ← bufferHeaders (offset + payload.length) rest
      return bufferHeader payload.length offset ++ more
    else .error field

/-- The length of everything before the payloads of an authenticate message. -/
def authenticateHeaderLength : Nat := 72

/-- The authenticate message, or the first field that is too long for it. -/
def authenticate (account : Account) (challenge : ChallengeMessage) (clientChallenge : Bytes)
    (timestamp : Nat) : Except Field Bytes := do
  let parts := payloads account challenge clientChallenge timestamp
  let headers ← bufferHeaders authenticateHeaderLength parts
  let flags := challenge.flags &&& answeredFlags ||| Flag.version
  return signature ++ Bytes.ofNatLE 4 3 ++ headers ++ Bytes.ofNatLE 4 flags ++ versionBytes
    ++ parts.flatMap Prod.snd

end HttpClient.Ntlm
