import HttpClient.Proofs.Auth.Restarts

/-!
# The Digest challenge that is answered

A server may offer several Digest challenges, of which some ask for algorithms or protections that
are not supported. Which challenges can be answered is said here by their parameters alone. A
negotiator answers the first of them, as long as no other Digest challenge stands before it: the
first Digest challenge decides, and where it cannot be answered those after it are not looked at.
-/

namespace HttpClient

namespace Challenge

/-- A Digest challenge that can be answered. -/
structure IsAnswerable (c : Challenge) : Prop where
  isDigest : c.is "Digest" = true
  nonce : (c.param? "nonce").isSome = true
  algorithm : ∀ name ∈ c.param? "algorithm",
    Ascii.sameLetters name "MD5" = true ∨ Ascii.sameLetters name "MD5-sess" = true
  qop : ∀ qop ∈ c.param? "qop", Digest.offersAuth qop = true

instance (c : Challenge) : Decidable c.IsAnswerable :=
  decidable_of_iff (c.is "Digest" = true ∧ (c.param? "nonce").isSome = true ∧
      (∀ name ∈ c.param? "algorithm",
        Ascii.sameLetters name "MD5" = true ∨ Ascii.sameLetters name "MD5-sess" = true) ∧
      ∀ qop ∈ c.param? "qop", Digest.offersAuth qop = true)
    ⟨fun h => ⟨h.1, h.2.1, h.2.2.1, h.2.2.2⟩, fun h => ⟨h.1, h.2, h.3, h.4⟩⟩

/-- What a challenge that can be answered asks for. -/
def asked (c : Challenge) : Digest.Params where
  realm := (c.param? "realm").getD ""
  nonce := (c.param? "nonce").getD ""
  opaqueText := c.param? "opaque"
  algorithm :=
    if (c.param? "algorithm").any (Ascii.sameLetters · "MD5-sess") then .md5Sess else .md5
  qopAuth := (c.param? "qop").isSome

end Challenge

namespace Digest

variable {c : Challenge} {params : Params}

/-- No name is that of both algorithms. -/
private theorem not_md5Sess_of_md5 {name : String} (h : Ascii.sameLetters name "MD5" = true) :
    Ascii.sameLetters name "MD5-sess" = false := by
  have hname : Ascii.lower name = Ascii.lower "MD5" := beq_iff_eq.mp h
  rw [Ascii.sameLetters, hname]
  decide +kernel

/-- An algorithm is read where there is none, or one of the two. -/
theorem readAlgorithm_eq_ok_iff {algorithm : Algorithm} : readAlgorithm c = .ok algorithm ↔
    (∀ name ∈ c.param? "algorithm",
      Ascii.sameLetters name "MD5" = true ∨ Ascii.sameLetters name "MD5-sess" = true) ∧
    c.asked.algorithm = algorithm := by
  unfold readAlgorithm Challenge.asked
  cases c.param? "algorithm" with
  | none => simp
  | some name =>
    by_cases hmd5 : Ascii.sameLetters name "MD5" = true
    · simp [Algorithm.parse?, hmd5, not_md5Sess_of_md5 hmd5]
    · by_cases hsess : Ascii.sameLetters name "MD5-sess" = true <;>
        simp [Algorithm.parse?, hmd5, hsess]

/-- A protection is read where there is none, or `auth` among others. -/
theorem readQop_eq_ok_iff {qopAuth : Bool} : readQop c = .ok qopAuth ↔
    (∀ qop ∈ c.param? "qop", offersAuth qop = true) ∧ c.asked.qopAuth = qopAuth := by
  unfold readQop Challenge.asked
  cases c.param? "qop" with
  | none => simp
  | some qop => by_cases hauth : offersAuth qop = true <;> simp [hauth]

/-- Parameters are read off exactly the Digest challenges that can be answered. -/
theorem ofChallenge_eq_ok_iff (hdigest : c.is "Digest" = true) :
    Params.ofChallenge c = .ok params ↔ c.IsAnswerable ∧ c.asked = params := by
  constructor
  · intro h
    unfold Params.ofChallenge at h
    split at h
    · cases h
    · next nonce hnonce =>
      cases halgorithm : readAlgorithm c with
      | error failure =>
        rw [halgorithm] at h
        cases h
      | ok algorithm =>
        cases hqop : readQop c with
        | error failure =>
          rw [halgorithm, hqop] at h
          cases h
        | ok qopAuth =>
          rw [halgorithm, hqop] at h
          obtain ⟨hknown, rfl⟩ := readAlgorithm_eq_ok_iff.mp halgorithm
          obtain ⟨hoffers, rfl⟩ := readQop_eq_ok_iff.mp hqop
          refine ⟨⟨hdigest, by rw [hnonce]; rfl, hknown, hoffers⟩, ?_⟩
          rw [← Except.ok.inj h]
          simp only [Challenge.asked, hnonce, Option.getD_some]
  · rintro ⟨h, rfl⟩
    obtain ⟨nonce, hnonce⟩ := Option.isSome_iff_exists.mp h.nonce
    have halgorithm := readAlgorithm_eq_ok_iff.mpr ⟨h.algorithm, rfl⟩
    have hqop := readQop_eq_ok_iff.mpr ⟨h.qop, rfl⟩
    simp only [Params.ofChallenge, hnonce, halgorithm, hqop]
    simp only [Challenge.asked, hnonce, Option.getD_some]
    rfl

end Digest

namespace Negotiator

variable {d : DigestAuth} {challenges : List Challenge} {realm : Realm} {request : AuthRequest}
  {supply later : Supply} {c : Challenge} {nonce : Bytes}

/-- A negotiator that has sent nothing answers the first Digest challenge, if it can be answered. -/
theorem onChallenge_of_answerable (hfirst : Challenge.find? challenges "Digest" = some c)
    (hc : c.IsAnswerable) (hunsent : d.sent = false) (hdraw : supply.draw = (some nonce, later)) :
    (digest d).onChallenge challenges realm request supply =
      (.retry (Digest.header c.asked realm request 1 (Hex.encode nonce)) true,
        digest { d with params := some c.asked, nc := 1, sent := true }, later) := by
  have hread := (Digest.ofChallenge_eq_ok_iff hc.isDigest).mpr ⟨hc, rfl⟩
  simp only [onChallenge, DigestAuth.onChallenge, hfirst, hread, hunsent, DigestAuth.answerFresh,
    hdraw, Bool.false_eq_true, if_false]

/-- A challenge that can be answered is found, at any place and among any other challenges, unless
the first Digest challenge is one that cannot. The answer is made from the first that can be
answered. -/
theorem answers_first_answerable (realm : Realm) (request : AuthRequest)
    (hsome : ∃ c ∈ challenges, c.IsAnswerable)
    (hfirst : ∀ c, Challenge.find? challenges "Digest" = some c → c.IsAnswerable)
    (hunsent : d.sent = false) (hdraw : supply.draw = (some nonce, later)) :
    ∃ before c after, challenges = before ++ c :: after ∧ c.IsAnswerable ∧
      (∀ b ∈ before, ¬ b.IsAnswerable) ∧
      (digest d).onChallenge challenges realm request supply =
        (.retry (Digest.header c.asked realm request 1 (Hex.encode nonce)) true,
          digest { d with params := some c.asked, nc := 1, sent := true }, later) := by
  obtain ⟨c, hmem, hc⟩ := hsome
  have hfound : (Challenge.find? challenges "Digest").isSome = true :=
    List.find?_isSome.mpr ⟨c, hmem, hc.isDigest⟩
  obtain ⟨c, hfind⟩ := Option.isSome_iff_exists.mp hfound
  obtain ⟨-, before, after, hsplit, hbefore⟩ := List.find?_eq_some_iff_append.mp hfind
  refine ⟨before, c, after, hsplit, hfirst c hfind, ?_, ?_⟩
  · intro b hb hanswerable
    have hother := hbefore b hb
    rw [hanswerable.isDigest] at hother
    cases hother
  · exact onChallenge_of_answerable hfind (hfirst c hfind) hunsent hdraw

/-- A challenge with a nonce and an algorithm. -/
def offer (nonce algorithm : String) : Challenge :=
  { scheme := "Digest", params := [("realm", "r"), ("nonce", nonce), ("algorithm", algorithm)] }

/-- A server offers other schemes first, then one session digest with two protections, then a digest
that is not supported. -/
def mixedOffers : List Challenge :=
  [{ scheme := "Negotiate" }, { scheme := "NTLM", token := some "TlRMTVNTUAACAAAA" },
    { scheme := "DIGEST"
      params := [("realm", "r"), ("Nonce", "a"), ("algorithm", "md5-SESS"),
        ("qop", "auth-int, Auth"), ("opaque", "o")] },
    offer "b" "SHA-256", offer "c" "MD5"]

/-- An account and a request for examples. -/
def offeredAccount : Realm := { scheme := .digest, principal := "u", password := "p" }

/-- The session digest is answered. -/
theorem mixedOffers_answered :
    (∃ c ∈ mixedOffers, c.IsAnswerable) ∧
      (∀ c, Challenge.find? mixedOffers "Digest" = some c → c.IsAnswerable) ∧
      ∃ before c after, mixedOffers = before ++ c :: after ∧ c.IsAnswerable ∧
        (∀ b ∈ before, ¬ b.IsAnswerable) ∧
        (digest {}).onChallenge mixedOffers offeredAccount plainRequest { nonces := [[0]] } =
          (.retry (Digest.header c.asked offeredAccount plainRequest 1 (Hex.encode [0])) true,
            digest { params := some c.asked, nc := 1, sent := true }, {}) := by
  have hsome : ∃ c ∈ mixedOffers, c.IsAnswerable := by decide +kernel
  have hfirst : ∀ c, Challenge.find? mixedOffers "Digest" = some c → c.IsAnswerable := by
    decide +kernel
  have hunsent : ({} : DigestAuth).sent = false := rfl
  have hdraw : ({ nonces := [[0]] } : Supply).draw = (some [0], {}) := rfl
  exact ⟨hsome, hfirst,
    answers_first_answerable offeredAccount plainRequest hsome hfirst hunsent hdraw⟩

/-- A server offers a digest that is not supported, and then one that is. The second is a challenge
that can be answered, and the answer is a failure. -/
theorem stronger_first_refused :
    let offers := [offer "a" "SHA-256", offer "b" "MD5"]
    (∃ c ∈ offers, c.IsAnswerable) ∧
      ((digest {}).onChallenge offers offeredAccount plainRequest { nonces := [[0]] }).1 =
        .fail (.violation "unsupported Digest algorithm") := by
  decide +kernel

end Negotiator

end HttpClient
