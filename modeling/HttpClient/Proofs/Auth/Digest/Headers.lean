import HttpClient.Auth.Digest
import HttpClient.Proofs.Auth.Challenges.Rendering

/-!
# Digest headers

A Digest header carries texts of the server, of the user and of the request. All of them are quoted
and escaped, and what the client adds has no quotes and no backslashes. So whatever those texts are,
as long as they can be seen, the header is read as one challenge with the parameters that were meant
and each text as it was.
-/

namespace HttpClient

namespace Hex

theorem isAlphanum_digitChar {n : Nat} (h : n < 16) : n.digitChar.isAlphanum = true :=
  (by decide : ∀ k < 16, (Nat.digitChar k).isAlphanum = true) n h

theorem isAlphanum_encode (bytes : Bytes) : ∀ c ∈ (encode bytes).toList, c.isAlphanum = true := by
  have hdigit (n : Nat) : (digit n).isAlphanum = true :=
    isAlphanum_digitChar (Nat.mod_lt n (by decide))
  intro c hc
  rw [encode, String.toList_ofList, List.mem_flatMap] at hc
  obtain ⟨b, -, hc⟩ := hc
  obtain rfl | rfl := List.mem_pair.mp hc <;> exact hdigit _

theorem isAlphanum_toDigits (n : Nat) : ∀ c ∈ Nat.toDigits 16 n, c.isAlphanum = true := by
  induction n using Nat.strongRecOn with
  | ind n ih =>
    by_cases hsmall : n < 16
    · rw [Nat.toDigits_of_lt_base hsmall, List.forall_mem_singleton]
      exact isAlphanum_digitChar hsmall
    · rw [Nat.toDigits_of_base_le (by decide) (by omega), List.forall_mem_append,
        List.forall_mem_singleton]
      exact ⟨ih (n / 16) (by omega), isAlphanum_digitChar (Nat.mod_lt n (by decide))⟩

theorem isAlphanum_ofNat (width n : Nat) : ∀ c ∈ (ofNat width n).toList, c.isAlphanum = true := by
  rw [ofNat, String.toList_ofList, List.forall_mem_append]
  refine ⟨fun c hc => ?_, isAlphanum_toDigits n⟩
  rw [List.eq_of_mem_replicate hc]
  decide

theorem toList_ofNat_ne_nil (width n : Nat) : (ofNat width n).toList ≠ [] := by
  rw [ofNat, String.toList_ofList]
  exact List.append_ne_nil_of_right_ne_nil _ Nat.toDigits_ne_nil

end Hex

namespace HeaderValue

/-- A text that may stand in a header value: none of its bytes is a control character other than
the tab. -/
def IsText (s : String) : Prop := ∀ b ∈ Utf8.encode s, isLegal b = true

instance (s : String) : Decidable (IsText s) :=
  decidable_of_iff ((Utf8.encode s).all isLegal = true) List.all_eq_true

theorem isText_iff {s : String} :
    IsText s ↔ ∀ c ∈ s.toList, ∀ b ∈ String.utf8EncodeChar c, isLegal b = true :=
  List.forall_mem_flatMap

theorem ofBytes_encode {s : String} (h : IsText s) :
    ofBytes (Utf8.encode s) = .ok { bytes := Utf8.encode s } :=
  if_pos (List.all_eq_true.mpr h)

/-- Each character that can be seen is one byte. -/
theorem encode_of_isVisible {s : String} (h : Ascii.IsVisible s.toList) :
    Utf8.encode s = s.toList.map Ascii.byte := by
  have hascii : ∀ c ∈ s.toList, c.toNat < 128 := by
    intro c hc
    have hvisible := h c hc
    simp only [Ascii.isVisible, Bool.or_eq_true, Bool.and_eq_true, decide_eq_true_eq] at hvisible
    obtain hrange | rfl := hvisible
    · omega
    · decide
  have hencode := Utf8.encode_ofList_ascii hascii
  rwa [String.ofList_toList] at hencode

theorem isLegal_byte {c : Char} (h : Ascii.isVisible c = true) :
    isLegal (Ascii.byte c) = true := by
  simp only [Ascii.isVisible, Bool.or_eq_true, Bool.and_eq_true, decide_eq_true_eq] at h
  obtain hrange | rfl := h
  · have hbyte : (Ascii.byte c).toNat = c.toNat := by
      rw [Ascii.byte, UInt8.toNat_ofNat']
      omega
    simp only [isLegal, Bool.or_eq_true, Bool.and_eq_true, decide_eq_true_eq, bne_iff_ne, ne_eq,
      UInt8.le_iff_toNat_le, ← UInt8.toNat_inj, hbyte, UInt8.reduceToNat]
    exact Or.inl ⟨hrange.1, by omega⟩
  · decide

theorem isText_of_isVisible {s : String} (h : Ascii.IsVisible s.toList) : IsText s := by
  rw [IsText, encode_of_isVisible h, List.forall_mem_map]
  exact fun c hc => isLegal_byte (h c hc)

theorem chars?_encode {s : String} (h : Ascii.IsVisible s.toList) (sensitive : Bool) :
    chars? ⟨Utf8.encode s, sensitive⟩ = some s.toList := by
  rw [chars?, encode_of_isVisible h]
  exact Ascii.ofVisible?_map_byte (List.all_eq_true.mpr h)

end HeaderValue

namespace Digest

open Challenge Credentials

/-- What a Digest header is made from. -/
structure Answer where
  params : Params
  realm : Realm
  request : AuthRequest
  nc : UInt32
  cnonce : String

namespace Answer

/-- The header that is sent. -/
def header (a : Answer) : HeaderValue :=
  Digest.header a.params a.realm a.request a.nc a.cnonce

/-- The text of the header. -/
def text (a : Answer) : String := headerText a.params a.realm a.request a.nc a.cnonce

/-- The proof that the password is known. -/
def response (a : Answer) : String := Digest.response a.params a.realm a.request a.nc a.cnonce

/-- The texts in a header that come from the user, the server or the request. -/
def outside (a : Answer) : List String :=
  [a.realm.principal, a.params.realm, a.params.nonce, a.request.uri] ++ a.params.opaqueText.toList

/-- The parameters of a header, each with its value as it is. -/
def fields (a : Answer) : List (String × String) :=
  [("username", a.realm.principal), ("realm", a.params.realm), ("nonce", a.params.nonce),
    ("uri", a.request.uri), ("response", a.response), ("algorithm", a.params.algorithm.name)]
  ++ (a.params.opaqueText.map fun text => ("opaque", text)).toList
  ++ (if a.params.qopAuth then
      [("qop", "auth"), ("nc", countText a.nc), ("cnonce", a.cnonce)]
    else [])

/-- The client nonce of an answer may stand between quotes as it is. -/
def IsPlain (a : Answer) : Prop := ∀ c ∈ a.cnonce.toList, c ≠ '"' ∧ c ≠ '\\'

instance (a : Answer) : Decidable a.IsPlain :=
  List.decidableBAll (fun c => c ≠ '"' ∧ c ≠ '\\') a.cnonce.toList

end Answer

theorem ne_of_isAlphanum {c d : Char} (h : c.isAlphanum = true) (hd : d.isAlphanum = false) :
    c ≠ d := by
  rintro rfl
  rw [h] at hd
  cases hd

theorem isAlphanum_response (params : Params) (realm : Realm) (request : AuthRequest) (nc : UInt32)
    (cnonce : String) :
    ∀ c ∈ (response params realm request nc cnonce).toList, c.isAlphanum = true := by
  unfold response
  dsimp only
  split <;> exact Hex.isAlphanum_encode _

theorem isToken_countText (nc : UInt32) : IsToken (countText nc).toList where
  ne_nil := Hex.toList_ofNat_ne_nil _ _
  chars c hc := by
    rw [Ascii.isTokenChar, Hex.isAlphanum_ofNat _ _ c hc, Bool.true_or]

theorem isToken_name (algorithm : Algorithm) : IsToken algorithm.name.toList := by
  cases algorithm <;> decide

namespace Answer

variable {a : Answer}

/-- The parameters of a header, as they are written. -/
def written (a : Answer) : List Param := answer a.params a.realm a.request a.nc a.cnonce

theorem map_field_written (a : Answer) : a.written.map Param.field = a.fields := by
  rw [written, answer, fields, List.map_append, List.map_append]
  congr 1
  · cases a.params.opaqueText <;> rfl
  · split <;> rfl

/-- What client nonces are made of needs no escapes. -/
theorem isPlain_of_encode {nonce : Bytes} (h : a.cnonce = Hex.encode nonce) : a.IsPlain := by
  intro c hc
  rw [h] at hc
  have halphanum := Hex.isAlphanum_encode nonce c hc
  exact ⟨ne_of_isAlphanum halphanum (by decide), ne_of_isAlphanum halphanum (by decide)⟩

theorem isReadable_written (h : a.IsPlain) : ∀ p ∈ a.written, p.IsReadable := by
  have hresponse : ∀ c ∈ a.response.toList, c ≠ '"' ∧ c ≠ '\\' := by
    intro c hc
    have halphanum := isAlphanum_response _ _ _ _ _ c hc
    exact ⟨ne_of_isAlphanum halphanum (by decide), ne_of_isAlphanum halphanum (by decide)⟩
  have hfirst : ∀ p ∈ [Param.quoted "username" a.realm.principal, .quoted "realm" a.params.realm,
      .quoted "nonce" a.params.nonce, .quoted "uri" a.request.uri, .enclosed "response" a.response,
      .plain "algorithm" a.params.algorithm.name], p.IsReadable := by
    simp only [List.forall_mem_cons]
    exact ⟨.quoted (by decide), .quoted (by decide), .quoted (by decide), .quoted (by decide),
      .enclosed (by decide) hresponse, .plain (by decide) (isToken_name _), List.forall_mem_nil _⟩
  have hopaque : ∀ p ∈ (a.params.opaqueText.map (Param.quoted "opaque")).toList, p.IsReadable := by
    intro p hp
    obtain ⟨text, -, rfl⟩ := Option.map_eq_some_iff.mp (Option.mem_toList.mp hp)
    exact .quoted (by decide)
  have hlast : ∀ p ∈ (if a.params.qopAuth then
      [Param.plain "qop" "auth", .plain "nc" (countText a.nc), .enclosed "cnonce" a.cnonce]
    else []), p.IsReadable := by
    split
    · simp only [List.forall_mem_cons]
      exact ⟨.plain (by decide) (by decide), .plain (by decide) (isToken_countText _),
        .enclosed (by decide) h, List.forall_mem_nil _⟩
    · exact List.forall_mem_nil _
  exact List.forall_mem_append.mpr ⟨List.forall_mem_append.mpr ⟨hfirst, hopaque⟩, hlast⟩

/-- The text of a header is read as one challenge, whatever its texts from outside are. -/
theorem readAll_text (h : a.IsPlain) :
    readAll a.text.toList = [{ scheme := "Digest", params := a.fields }] := by
  have hne : a.written ≠ [] := List.cons_ne_nil _ _
  rw [text, headerText, ← written,
    readAll_render (by decide) hne (isReadable_written h), map_field_written]

/-- What is true of visible characters, of the texts from outside and of the client nonce is true of
the text of a header. -/
theorem forall_mem_text {P : Char → Prop} (hplain : a.IsPlain)
    (hvisible : ∀ c, Ascii.isVisible c = true → P c)
    (houtside : ∀ text ∈ a.outside, ∀ c ∈ text.toList, P c) (hcnonce : ∀ c ∈ a.cnonce.toList, P c) :
    ∀ c ∈ a.text.toList, P c := by
  have htoken {word : String} (h : IsToken word.toList) : ∀ c ∈ word.toList, P c :=
    fun c hc => hvisible c (h.isVisible c hc)
  have hresponse : ∀ c ∈ a.response.toList, P c := fun c hc =>
    hvisible c (Ascii.isVisible_of_alphanum (isAlphanum_response _ _ _ _ _ c hc))
  have hvalues : ∀ field ∈ a.fields, ∀ c ∈ field.2.toList, P c := by
    simp only [outside, List.forall_mem_append, List.forall_mem_cons] at houtside
    obtain ⟨⟨huser, hrealm, hnonce, huri, -⟩, hopaque⟩ := houtside
    simp only [fields, List.forall_mem_append, List.forall_mem_cons]
    refine ⟨⟨⟨huser, hrealm, hnonce, huri, hresponse, htoken (isToken_name _),
      List.forall_mem_nil _⟩, ?_⟩, ?_⟩
    · intro field hfield
      obtain ⟨text, htext, rfl⟩ := Option.map_eq_some_iff.mp (Option.mem_toList.mp hfield)
      exact hopaque text (Option.mem_toList.mpr htext)
    · split
      · simp only [List.forall_mem_cons]
        exact ⟨htoken (by decide), htoken (isToken_countText _), hcnonce, List.forall_mem_nil _⟩
      · exact List.forall_mem_nil _
  rw [← map_field_written, List.forall_mem_map] at hvalues
  exact forall_mem_render hvisible (by decide)
    (fun p hp => (isReadable_written hplain p hp).name) hvalues

theorem isVisible_text {nonce : Bytes} (hcnonce : a.cnonce = Hex.encode nonce)
    (houtside : ∀ text ∈ a.outside, Ascii.IsVisible text.toList) :
    Ascii.IsVisible a.text.toList := by
  refine forall_mem_text (isPlain_of_encode hcnonce) (fun c hc => hc) houtside ?_
  rw [hcnonce]
  exact fun c hc => Ascii.isVisible_of_alphanum (Hex.isAlphanum_encode nonce c hc)

theorem header_eq (h : HeaderValue.IsText a.text) :
    a.header = { bytes := Utf8.encode a.text, sensitive := true } := by
  rw [header, Digest.header, ← text, HeaderValue.ofBytes_encode h]
  simp only [HeaderValue.hidden]

/-- A server reads a Digest header of the client as exactly what was meant, whatever user name,
server realm, nonce, opaque text and URI are, as long as they can be seen. The client nonce is drawn
by the client itself. -/
theorem ofValues_header (nonce : Bytes) (hcnonce : a.cnonce = Hex.encode nonce)
    (houtside : ∀ text ∈ a.outside, Ascii.IsVisible text.toList) :
    Challenge.ofValues [a.header] =
      [{ scheme := "Digest"
         token := none
         params :=
          [("username", a.realm.principal), ("realm", a.params.realm), ("nonce", a.params.nonce),
            ("uri", a.request.uri), ("response", a.response),
            ("algorithm", a.params.algorithm.name)]
          ++ (a.params.opaqueText.map fun text => ("opaque", text)).toList
          ++ (if a.params.qopAuth then
              [("qop", "auth"), ("nc", countText a.nc), ("cnonce", a.cnonce)]
            else []) }] := by
  have hvisible := isVisible_text hcnonce houtside
  have hchars : a.header.chars? = some a.text.toList := by
    rw [header_eq (HeaderValue.isText_of_isVisible hvisible)]
    exact HeaderValue.chars?_encode hvisible true
  rw [ofValues, List.filterMap_cons_some hchars, List.filterMap_nil, List.flatMap_cons,
    List.flatMap_nil, List.append_nil, readAll_text (isPlain_of_encode hcnonce), fields]

/-- An answer in which every text from outside tries to end its quotes and to add a parameter. -/
def hostileAnswer : Answer where
  params :=
    { realm := "r\", nonce=\"x", nonce := "\",,\"", opaqueText := some "o\\\\", algorithm := .md5Sess
      qopAuth := true }
  realm := { scheme := .digest, principal := "u\", response=\"\t", password := "p" }
  request := { method := "GET", uri := "/?q=\", qop=none\\", host := "h.example" }
  nc := 17
  cnonce := Hex.encode [0, 1, 2, 3, 4, 5, 6, 7]

/-- None of them does. -/
theorem ofValues_hostileAnswer :
    (∀ text ∈ hostileAnswer.outside, Ascii.IsVisible text.toList) ∧
      Challenge.ofValues [hostileAnswer.header] =
        [{ scheme := "Digest"
           token := none
           params := [("username", "u\", response=\"\t"), ("realm", "r\", nonce=\"x"),
            ("nonce", "\",,\""), ("uri", "/?q=\", qop=none\\"),
            ("response", hostileAnswer.response), ("algorithm", "MD5-sess"), ("opaque", "o\\\\"),
            ("qop", "auth"), ("nc", "00000011"), ("cnonce", "0001020304050607")] }] := by
  have houtside : ∀ text ∈ hostileAnswer.outside, Ascii.IsVisible text.toList := by decide +kernel
  have hcount : countText 17 = "00000011" := by decide +kernel
  have hcnonce : Hex.encode [0, 1, 2, 3, 4, 5, 6, 7] = "0001020304050607" := by decide +kernel
  refine ⟨houtside, (ofValues_header _ rfl houtside).trans ?_⟩
  simp only [hostileAnswer, hcount, hcnonce, Algorithm.name, Option.map_some, Option.toList_some,
    if_true, List.cons_append, List.nil_append]

end Answer

end Digest

end HttpClient
