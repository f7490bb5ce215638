import HttpClient.Bytes

/-!
# ASCII text

Character classes of header grammar, letter case restricted to ASCII, and the step
between visible ASCII text and bytes. `ofVisible?` accepts exactly the bytes that a
header value may show as text: the tab and the bytes from space to tilde.
-/

namespace HttpClient.Ascii

/-- Characters of a token, the word class of header grammar. -/
def isTokenChar (c : Char) : Bool :=
  c.isAlphanum || "!#$%&\x27*+-.^_\x60|~".toList.contains c

/-- Characters of the opaque credentials form that follows a scheme, less its padding. -/
def isToken68Char (c : Char) : Bool :=
  c.isAlphanum || "-._~+/".toList.contains c

/-- The blanks of header grammar. -/
def isBlank (c : Char) : Bool := c = ' ' || c = '\t'

/-- Printable ASCII and the tab. -/
def isVisible (c : Char) : Bool := (32 ≤ c.toNat && c.toNat < 127) || c = '\t'

/-- Lower case of ASCII letters, everything else unchanged. -/
def lower (s : String) : String := String.ofList (s.toList.map Char.toLower)

/-- Equality up to the case of ASCII letters. -/
def sameLetters (a b : String) : Bool := lower a == lower b

/-- Without the leading and trailing characters of a class. -/
def trimBy (p : Char → Bool) (cs : List Char) : List Char :=
  ((cs.dropWhile p).reverse.dropWhile p).reverse

/-- The pieces between separators, at least one. -/
def splitAt (sep : Char) : List Char → List (List Char)
  | [] => [[]]
  | c :: rest =>
    match splitAt sep rest with
    | [] => [[c]]
    | piece :: pieces => if c = sep then [] :: piece :: pieces else (c :: piece) :: pieces

/-- The byte of an ASCII character; others are cut to their low byte. -/
def byte (c : Char) : UInt8 := UInt8.ofNat c.toNat

/-- The character with a byte as its code point. -/
def char (b : UInt8) : Char := Char.ofNat b.toNat

/-- The text of bytes that are all visible ASCII. -/
def ofVisible? (bytes : Bytes) : Option (List Char) :=
  let cs := bytes.map char
  if cs.all isVisible then some cs else none

/-- The bytes of text in which each character is one byte. -/
def bytes (s : String) : Bytes := s.toList.map byte

theorem char_byte {c : Char} (h : c.toNat < 256) : char (byte c) = c := by
  have hb : (UInt8.ofNat c.toNat).toNat = c.toNat := by
    simp only [UInt8.toNat_ofNat']
    omega
  simp only [char, byte, hb]
  exact Char.ofNat_toNat c

/-- Visible text survives the way to bytes and back. -/
theorem ofVisible?_map_byte {cs : List Char} (h : cs.all isVisible) :
    ofVisible? (cs.map byte) = some cs := by
  have hc : ∀ c ∈ cs, char (byte c) = c := by
    intro c hmem
    have hv := List.all_eq_true.mp h c hmem
    apply char_byte
    simp only [isVisible, Bool.or_eq_true, Bool.and_eq_true, decide_eq_true_eq] at hv
    rcases hv with hv | hv
    · omega
    · subst hv; decide
  have hm : (cs.map byte).map char = cs := by
    rw [List.map_map]
    conv => rhs; rw [← List.map_id cs]
    exact List.map_congr_left (fun c hmem => by simpa using hc c hmem)
  simp only [ofVisible?, hm, h, if_true]

end HttpClient.Ascii
