import HttpClient.Crypto.Md5

/-!
# HMAC-MD5

The keyed digest: the key fills a block, long keys are hashed first, and the message is
hashed inside and outside with two masks of the key.
-/

namespace HttpClient.Hmac

/-- The key as one block. -/
def block (key : Bytes) : Bytes :=
  if key.length ≤ 64 then key.padTo 64 else (Md5.hash key).padTo 64

/-- The keyed digest of a message. -/
def md5 (key message : Bytes) : Bytes :=
  let outer := (block key).map (· ^^^ 0x5c)
  let inner := (block key).map (· ^^^ 0x36)
  Md5.hash (outer ++ Md5.hash (inner ++ message))

@[simp] theorem length_md5 (key message : Bytes) : (md5 key message).length = 16 := by
  simp [md5]

end HttpClient.Hmac
