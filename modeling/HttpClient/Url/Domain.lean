import HttpClient.Text.Ascii
import HttpClient.Text.Normal
import HttpClient.Text.Utf8
import HttpClient.Url.Domain.Direction
import HttpClient.Url.Domain.Joining
import HttpClient.Url.Percent
import HttpClient.Url.Punycode

/-!
# Domain names in hosts

A domain is percent-decoded, folded to lower case, brought to its normal form and written in
ASCII: a label with other characters is encoded and marked with `xn--`. What may not stand in a
domain is refused, and so is an encoded label that no text is written as.
-/

namespace HttpClient.Domain

/-- ASCII characters that no domain contains. -/
def isForbidden (c : Char) : Bool :=
  c.toNat ≤ 0x20 || c.toNat == 0x7F || "%#/:<>?@[\\]^|".toList.contains c

/-- One label of a domain, as text and as it is written in ASCII. -/
structure Label where
  text : List Char
  ascii : List Char
  deriving DecidableEq, Repr

namespace Label

/-- The mark of an encoded label. -/
def mark : List Char := "xn--".toList

/-- True for text in which marks and joiners have something to go with. -/
def isWellFormed (cs : List Char) : Bool :=
  !cs.head?.any Category.isMark && allowsJoiners [] cs

/-- True for text that folding and normal form leave as it is. -/
def isSettled (cs : List Char) : Bool :=
  cs.all (treatment · == .kept) && Normal.normalize cs == cs

/-- The label that is encoded by some digits. -/
def ofDigits? (digits : List Char) : Option Label := do
  if digits.isEmpty || digits.getLast? == some '-' || 2000 < digits.length then none
  let text ← Punycode.decode? digits
  if isSettled text && isWellFormed text then some ⟨text, mark ++ digits⟩ else none

/-- The label of a folded text in normal form. -/
def ofText? (cs : List Char) : Option Label :=
  let isAscii := cs.all (·.toNat < 0x80)
  if mark.isPrefixOf cs then if isAscii then ofDigits? (cs.drop 4) else none
  else if isAscii then some ⟨cs, cs⟩
  else if isWellFormed cs && cs.length ≤ 1000 then some ⟨cs, mark ++ Punycode.encode cs⟩
  else none

end Label

/-- The labels of a domain in ASCII. -/
def labels? (cs : List Char) : Option (List (List Char)) := do
  let text := Utf8.decodeLossyChars (Percent.decode (cs.flatMap String.utf8EncodeChar))
  let folded := Normal.normalize (← fold? text)
  if folded.any isForbidden then none
  let labels ← (Ascii.splitAt '.' folded).mapM Label.ofText?
  if areReadable (labels.map Label.text) then some (labels.map Label.ascii) else none

/-- Labels with dots between them. -/
def join (labels : List (List Char)) : String :=
  String.intercalate "." (labels.map String.ofList)

end HttpClient.Domain
