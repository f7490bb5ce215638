import HttpClient.Proofs.Auth.Digest.Headers
import HttpClient.Proofs.Text.Decoding

/-!
# Verifying a Digest header

A server that knows the password makes the response of a header again by the formulas of RFC 2617,
from the parameters that the header carries. It gets the same response whenever the header carries
all that was hashed. A client nonce is hashed for every session, but is sent only under the
protection `auth`: of a session without that protection no server can verify an answer.
-/

namespace HttpClient

namespace Digest

theorem Algorithm.name_injective {x y : Algorithm} (h : x.name = y.name) : x = y := by
  cases x <;> cases y <;> first | rfl | exact absurd h (by decide)

theorem joinColon_singleton (part : String) : joinColon [part] = part :=
  String.intercalate_singleton

theorem joinColon_cons_cons (part next : String) (rest : List String) :
    joinColon (part :: next :: rest) = part ++ ":" ++ joinColon (next :: rest) :=
  String.intercalate_cons_cons

/-- What a server takes from the parameters of a header to make the response again. -/
structure Evidence where
  username : String
  realm : String
  nonce : String
  uri : String
  algorithm : Option String
  qop : Option String
  nc : Option String
  cnonce : Option String
  deriving DecidableEq, Repr

namespace Evidence

/-- Takes what is needed; only the last four parameters may be missing. -/
def ofParams? (c : Challenge) : Option Evidence := do
  return {
    username := ← c.param? "username"
    realm := ← c.param? "realm"
    nonce := ← c.param? "nonce"
    uri := ← c.param? "uri"
    algorithm := c.param? "algorithm"
    qop := c.param? "qop"
    nc := c.param? "nc"
    cnonce := c.param? "cnonce" }

/-- The checksum of what is secret: user name, realm and password, and for a session both nonces. -/
def key? (e : Evidence) (password : String) : Option String :=
  let owner := hash (e.username ++ ":" ++ e.realm ++ ":" ++ password)
  match Algorithm.parse? (e.algorithm.getD "MD5") with
  | none => none
  | some .md5 => some owner
  | some .md5Sess => e.cnonce.map fun cnonce => hash (owner ++ ":" ++ e.nonce ++ ":" ++ cnonce)

/-- The response that a server expects. -/
def response? (e : Evidence) (password : String) (method : Method) : Option String := do
  let key ← e.key? password
  let asked := hash (method ++ ":" ++ e.uri)
  match e.qop with
  | none => return hash (key ++ ":" ++ e.nonce ++ ":" ++ asked)
  | some "auth" =>
    let nc ← e.nc
    let cnonce ← e.cnonce
    let counted := nc ++ ":" ++ cnonce ++ ":" ++ "auth"
    return hash (key ++ ":" ++ e.nonce ++ ":" ++ counted ++ ":" ++ asked)
  | some _ => none

end Evidence

/-- The Digest credentials in a header, whose text is taken for UTF-8. -/
def credentials? (header : HeaderValue) : Option Challenge :=
  Challenge.find? (Challenge.readAll (Utf8.decodeLossy header.bytes).toList) "Digest"

/-- What a server takes from a header. -/
def evidence? (header : HeaderValue) : Option Evidence :=
  (credentials? header).bind Evidence.ofParams?

/-- The response that a header carries. -/
def carried? (header : HeaderValue) : Option String :=
  (credentials? header).bind (·.param? "response")

namespace Answer

variable {a b : Answer}

/-- All texts of a header may stand in one. -/
def IsLegal (a : Answer) : Prop := ∀ text ∈ a.cnonce :: a.outside, HeaderValue.IsText text

instance (a : Answer) : Decidable a.IsLegal :=
  List.decidableBAll HeaderValue.IsText (a.cnonce :: a.outside)

/-- A client nonce that is hashed for a session is sent as well. -/
def ShowsNonce (a : Answer) : Prop := a.params.algorithm = .md5Sess → a.params.qopAuth = true

instance (a : Answer) : Decidable a.ShowsNonce :=
  inferInstanceAs (Decidable (a.params.algorithm = .md5Sess → a.params.qopAuth = true))

/-- What a server takes from the header of an answer. -/
def evidence (a : Answer) : Evidence where
  username := a.realm.principal
  realm := a.params.realm
  nonce := a.params.nonce
  uri := a.request.uri
  algorithm := some a.params.algorithm.name
  qop := if a.params.qopAuth then some "auth" else none
  nc := if a.params.qopAuth then some (countText a.nc) else none
  cnonce := if a.params.qopAuth then some a.cnonce else none

theorem isText_text (hlegal : a.IsLegal) (hplain : a.IsPlain) : HeaderValue.IsText a.text := by
  obtain ⟨hcnonce, houtside⟩ := List.forall_mem_cons.mp hlegal
  rw [HeaderValue.isText_iff]
  refine forall_mem_text hplain (fun c hc => ?_)
    (fun text htext => HeaderValue.isText_iff.mp (houtside text htext))
    (HeaderValue.isText_iff.mp hcnonce)
  have hvisible : Ascii.IsVisible (String.ofList [c]).toList := by
    rw [String.toList_ofList]
    exact List.forall_mem_singleton.mpr hc
  have htext := HeaderValue.isText_iff.mp (HeaderValue.isText_of_isVisible hvisible)
  rw [String.toList_ofList, List.forall_mem_singleton] at htext
  exact htext

/-- A server reads the parameters that were written. -/
theorem credentials?_header (hlegal : a.IsLegal) (hplain : a.IsPlain) :
    credentials? a.header = some { scheme := "Digest", params := a.fields } := by
  have hscheme : Challenge.is { scheme := "Digest", params := a.fields } "Digest" = true :=
    (by decide : Ascii.sameLetters "Digest" "Digest" = true)
  rw [credentials?, header_eq (isText_text hlegal hplain), Utf8.decodeLossy_encode,
    readAll_text hplain]
  exact List.find?_cons_of_pos hscheme

theorem evidence?_header (hlegal : a.IsLegal) (hplain : a.IsPlain) :
    evidence? a.header = some a.evidence := by
  rw [evidence?, credentials?_header hlegal hplain, Option.bind_some, evidence]
  cases hopaque : a.params.opaqueText <;> cases hqop : a.params.qopAuth <;>
    simp [Evidence.ofParams?, Challenge.param?, fields, Ascii.sameLetters, Ascii.lower, hopaque,
      hqop]

theorem carried?_header (hlegal : a.IsLegal) (hplain : a.IsPlain) :
    carried? a.header = some a.response := by
  rw [carried?, credentials?_header hlegal hplain, Option.bind_some]
  simp [Challenge.param?, fields, Ascii.sameLetters, Ascii.lower]

/-- The secret of an answer is made again when its client nonce is sent where it is hashed. -/
theorem key?_evidence (hshows : a.ShowsNonce) :
    a.evidence.key? a.realm.password = some (secret a.params a.realm a.cnonce) := by
  have hmd5 : Algorithm.parse? "MD5" = some .md5 := by decide
  have hsess : Algorithm.parse? "MD5-sess" = some .md5Sess := by decide
  unfold Evidence.key? secret
  cases halgorithm : a.params.algorithm with
  | md5 =>
    simp only [evidence, halgorithm, Algorithm.name, Option.getD_some, hmd5, joinColon_cons_cons,
      joinColon_singleton, String.append_assoc]
  | md5Sess =>
    simp only [evidence, halgorithm, Algorithm.name, Option.getD_some, hsess, hshows halgorithm,
      if_true, Option.map_some, joinColon_cons_cons, joinColon_singleton, String.append_assoc]

/-- The response of an answer is made again. -/
theorem response?_evidence (hshows : a.ShowsNonce) :
    a.evidence.response? a.realm.password a.request.method = some a.response := by
  rw [Evidence.response?, key?_evidence hshows, response, Digest.response]
  cases hqop : a.params.qopAuth with
  | true =>
    simp only [evidence, hqop, if_true, Option.bind_eq_bind, Option.bind_some, Option.pure_def,
      joinColon_cons_cons, joinColon_singleton, String.append_assoc]
  | false =>
    simp only [evidence, hqop, Bool.false_eq_true, if_false, Option.bind_eq_bind,
      Option.bind_some, Option.pure_def, joinColon_cons_cons, joinColon_singleton,
      String.append_assoc]

/-- What a server reads tells whether the client nonce is sent where it is hashed. -/
theorem ShowsNonce.of_evidence (h : b.evidence = a.evidence) (hshows : a.ShowsNonce) :
    b.ShowsNonce := by
  intro hb
  have ha : a.params.algorithm = .md5Sess := by
    rw [← hb]
    exact (Algorithm.name_injective (Option.some.inj (congrArg Evidence.algorithm h))).symm
  have hqop : b.evidence.qop = some "auth" := by
    rw [h, evidence, if_pos (hshows ha)]
  by_contra hnone
  rw [evidence, if_neg hnone] at hqop
  cases hqop

/-- A server that knows the password and the method makes the response of a header again from what
the header carries. So answers that agree in all that a server reads have the same response. -/
theorem header_verifies (hlegal : a.IsLegal) (hplain : a.IsPlain) (hshows : a.ShowsNonce) :
    (∃ e, evidence? a.header = some e ∧
        e.response? a.realm.password a.request.method = some a.response) ∧
      carried? a.header = some a.response ∧
      ∀ b : Answer, b.IsLegal → b.IsPlain → b.realm.password = a.realm.password →
        b.request.method = a.request.method → evidence? b.header = evidence? a.header →
        b.response = a.response := by
  refine ⟨⟨a.evidence, evidence?_header hlegal hplain, response?_evidence hshows⟩,
    carried?_header hlegal hplain, ?_⟩
  intro b hlegal' hplain' hpassword hmethod hsame
  rw [evidence?_header hlegal hplain, evidence?_header hlegal' hplain', Option.some_inj] at hsame
  have hresponse := response?_evidence (hshows.of_evidence hsame)
  rw [hsame, hpassword, hmethod, response?_evidence hshows] at hresponse
  exact (Option.some.inj hresponse).symm

/-- An answer of a session to a server on a host; the user has a name in two scripts. -/
def sessionAnswer (host : String) : Answer where
  params :=
    { realm := "r\"1\"", nonce := "n", opaqueText := some "", algorithm := .md5Sess
      qopAuth := true }
  realm := { scheme := .digest, principal := "Zoë \\ Зоя", password := "p" }
  request := { method := "GET", uri := "/?q=1", host := host }
  nc := 2
  cnonce := Hex.encode [0, 1, 2, 3, 4, 5, 6, 7]

/-- The host is no part of what is hashed. -/
theorem sessionAnswer_verifies :
    (sessionAnswer "a.example").IsLegal ∧ (sessionAnswer "a.example").IsPlain ∧
      (sessionAnswer "a.example").ShowsNonce ∧
      carried? (sessionAnswer "a.example").header = some "e69d1f00a821d25ef079dbca78378d4e" ∧
      (sessionAnswer "b.example").response = (sessionAnswer "a.example").response := by
  have hlegal (host : String) : (sessionAnswer host).IsLegal :=
    (by decide +kernel : (sessionAnswer "").IsLegal)
  have hplain (host : String) : (sessionAnswer host).IsPlain :=
    (by decide +kernel : (sessionAnswer "").IsPlain)
  have hshows : (sessionAnswer "a.example").ShowsNonce := by decide +kernel
  have hresponse : (sessionAnswer "a.example").response =
      "e69d1f00a821d25ef079dbca78378d4e" := by decide +kernel
  obtain ⟨-, hcarried, hsame⟩ := header_verifies (hlegal _) (hplain _) hshows
  refine ⟨hlegal _, hplain _, hshows, hresponse ▸ hcarried,
    hsame _ (hlegal _) (hplain _) rfl rfl ?_⟩
  rw [evidence?_header (hlegal _) (hplain _), evidence?_header (hlegal _) (hplain _)]
  rfl

/-- An answer of a session to a server that offers no protection. -/
def silentAnswer (cnonce : String) : Answer where
  params :=
    { realm := "r", nonce := "n", opaqueText := none, algorithm := .md5Sess, qopAuth := false }
  realm := { scheme := .digest, principal := "u", password := "p" }
  request := { method := "GET", uri := "/", host := "h.example" }
  nc := 1
  cnonce := cnonce

/-- The client nonce is hashed and not sent: a server reads the same from both headers, but their
responses are not the same, and the formulas give it none. -/
theorem silentAnswer_not_verified :
    (silentAnswer "00").IsLegal ∧ (silentAnswer "00").IsPlain ∧
      (silentAnswer "01").IsLegal ∧ (silentAnswer "01").IsPlain ∧
      evidence? (silentAnswer "01").header = evidence? (silentAnswer "00").header ∧
      (evidence? (silentAnswer "00").header).bind (·.response? "p" "GET") = none ∧
      carried? (silentAnswer "01").header ≠ carried? (silentAnswer "00").header := by
  have hlegal : (silentAnswer "00").IsLegal ∧ (silentAnswer "01").IsLegal := by decide +kernel
  have hplain : (silentAnswer "00").IsPlain ∧ (silentAnswer "01").IsPlain := by decide +kernel
  have hresponses : (silentAnswer "01").response ≠ (silentAnswer "00").response := by decide +kernel
  have hevidence : (silentAnswer "00").evidence.response? "p" "GET" = none := by decide +kernel
  refine ⟨hlegal.1, hplain.1, hlegal.2, hplain.2, ?_, ?_, ?_⟩
  · rw [evidence?_header hlegal.1 hplain.1, evidence?_header hlegal.2 hplain.2]
    rfl
  · rw [evidence?_header hlegal.1 hplain.1, Option.bind_some, hevidence]
  · rw [carried?_header hlegal.1 hplain.1, carried?_header hlegal.2 hplain.2, ne_eq,
      Option.some_inj]
    exact hresponses

end Answer

end Digest

end HttpClient
