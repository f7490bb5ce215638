import HttpClient.Crypto.Des
import HttpClient.Crypto.Hmac
import HttpClient.Crypto.Md4
import HttpClient.Text.UpperCase
import HttpClient.Text.Utf16

/-!
# NTLM responses

The proofs that a client knows a password: the LM and NT hashes, the responses made from them
by DES, and the second version, made by keyed digests over both challenges.
-/

namespace HttpClient.Ntlm

/-- One byte for every character; those outside ASCII become question marks. -/
def oem (s : String) : Bytes :=
  s.toList.map fun c => if c.toNat < 128 then UInt8.ofNat c.toNat else 0x3F

/-- The text that the LM hash encrypts. -/
def lmMagic : Bytes := [0x4B, 0x47, 0x53, 0x21, 0x40, 0x23, 0x24, 0x25]

/-- The LM hash: a fixed text under two halves of the upper-case password. -/
def lmHash (password : String) : Bytes :=
  let key := (oem (UpperCase.ofString password)).padTo 14
  Des.encryptSeven (key.take 7) lmMagic ++ Des.encryptSeven (key.drop 7) lmMagic

/-- The NT hash: the MD4 digest of the password. -/
def ntHash (password : String) : Bytes := Md4.hash (Utf16.encodeLE password)

/-- A hash, filled up with zeros to three keys, each encrypting the challenge by a block
function. -/
def responseBy (encrypt : (key block : Bytes) → Bytes) (hash challenge : Bytes) : Bytes :=
  (Block.pieces 7 3 (hash.padTo 21)).flatMap fun part => encrypt (Des.keyOfSeven part) challenge

/-- The response to a challenge by DES. -/
def desResponse (hash challenge : Bytes) : Bytes := responseBy Des.encrypt hash challenge

/-- The response to a challenge mixed from both sides. -/
def sessionResponse (ntHash serverChallenge clientChallenge : Bytes) : Bytes :=
  desResponse ntHash ((Md5.hash (serverChallenge ++ clientChallenge)).take 8)

/-- The key of the NTLMv2 response: the upper-case user name and the domain as it is. -/
def v2Hash (ntHash : Bytes) (user domain : String) : Bytes :=
  Hmac.md5 ntHash (Utf16.encodeLE (UpperCase.ofString user) ++ Utf16.encodeLE domain)

/-- The key of the LMv2 response: user name and domain in upper case. -/
def lmv2Hash (ntHash : Bytes) (user domain : String) : Bytes :=
  Hmac.md5 ntHash
    (Utf16.encodeLE (UpperCase.ofString user) ++ Utf16.encodeLE (UpperCase.ofString domain))

/-- What the NTLMv2 response proves: time, client challenge and the server's target info. -/
def v2Blob (clientChallenge targetInfo : Bytes) (timestamp : Nat) : Bytes :=
  [1, 1, 0, 0, 0, 0, 0, 0] ++ Bytes.ofNatLE 8 timestamp ++ clientChallenge ++ [0, 0, 0, 0]
    ++ targetInfo ++ [0, 0, 0, 0]

/-- The keyed digest of the server challenge and the client's data, and then the data. -/
def v2Response (hash serverChallenge clientData : Bytes) : Bytes :=
  Hmac.md5 hash (serverChallenge ++ clientData) ++ clientData

/-- The start of 1970 in units of 100 nanoseconds since 1601. -/
def epochOffset : Nat := 116444736000000000

/-- A time in milliseconds since 1970, in units of 100 nanoseconds since 1601. -/
def filetime (unixMillis : Nat) : Nat := epochOffset + unixMillis * 10000

end HttpClient.Ntlm
