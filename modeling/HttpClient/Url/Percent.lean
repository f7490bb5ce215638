import HttpClient.Text.Utf8
import HttpClient.Text.Hex

/-!
# Percent encoding

Each component of a URL has its own set of characters that are written as escaped bytes.
Characters outside ASCII always are; a percent sign never is, so encoded text is stable.
-/

namespace HttpClient.Percent

/-- Control characters and everything outside ASCII. -/
def controlSet (c : Char) : Bool := c.toNat < 0x20 || 0x7E < c.toNat

/-- Characters escaped in a fragment. -/
def fragmentSet (c : Char) : Bool := controlSet c || " \"<>\x60".toList.contains c

/-- Characters escaped in a path segment. -/
def pathSet (c : Char) : Bool := fragmentSet c || "#?\x7b\x7d".toList.contains c

/-- Characters escaped in a user name or password. -/
def userinfoSet (c : Char) : Bool := pathSet c || "/:;=@[\\]^|".toList.contains c

/-- Characters escaped in a query. -/
def querySet (c : Char) : Bool := controlSet c || " \"#<>".toList.contains c

/-- Characters escaped in the query of a URL with a special scheme. -/
def specialQuerySet (c : Char) : Bool := querySet c || c == '\x27'

/-- The escape of one byte, with upper-case digits. -/
def escape (b : UInt8) : List Char :=
  ['%', (Hex.digit (b.toNat / 16)).toUpper, (Hex.digit b.toNat).toUpper]

/-- The text with the characters of a set escaped. -/
def encode (set : Char → Bool) (cs : List Char) : List Char :=
  cs.flatMap fun c => if set c then (String.utf8EncodeChar c).flatMap escape else [c]

/-- The bytes of a text, with every well-formed escape replaced by its byte. -/
def decode : Bytes → Bytes
  | b :: hi :: lo :: rest =>
    match Hex.value? (Char.ofNat hi.toNat), Hex.value? (Char.ofNat lo.toNat) with
    | some h, some l =>
      if b = 0x25 then UInt8.ofNat (16 * h + l) :: decode rest else b :: decode (hi :: lo :: rest)
    | _, _ => b :: decode (hi :: lo :: rest)
  | short => short

end HttpClient.Percent
