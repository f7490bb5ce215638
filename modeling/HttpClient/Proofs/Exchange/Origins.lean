import HttpClient.Exchange.Step

/-!
# Redirects and targets

Where a redirect leads is judged twice: the connection is chosen by the target of the next URL,
and credentials stay or go by its host and its port. The two judgements are compared here. They
agree about every two URLs that do not differ in their schemes alone.
-/

namespace HttpClient

/-- A URL that requests are sent to. -/
structure Url.IsRequestable (url : Url) : Prop where
  isHttp : url.isHttp = true
  hasHost : url.hostText?.isSome = true
  /-- Hosts are kept in lower case. -/
  lower : ∀ host, url.hostText? = some host → Ascii.lower host = host

theorem Host.render_ne_empty {host : Host} (h : host ≠ .domain "") : host.render ≠ "" := by
  cases host with
  | domain name => exact fun hname => h (congrArg Host.domain hname)
  | ipv4 address =>
    simp only [Host.render, Ipv4.render, ne_eq, String.append_eq_empty_iff]
    exact fun hempty => absurd hempty.1.1.1.1.1.2 (by decide)
  | ipv6 pieces =>
    simp only [Host.render, ne_eq, String.append_eq_empty_iff]
    exact fun hempty => absurd hempty.1.1 (by decide)

/-- A host that is there is not empty. -/
theorem Url.ne_empty_of_hostText? {url : Url} {text : String} (h : url.hostText? = some text) :
    text ≠ "" := by
  unfold hostText? at h
  split at h
  · cases h
  · cases h
  · next hne _ =>
    rw [← Option.some.inj h]
    exact Host.render_ne_empty hne

namespace Target

/-- What the target of a URL is made of. -/
structure Leads (t : Target) (url : Url) : Prop where
  ofUrl : Target.ofUrl url = .ok t
  scheme : url.scheme = t.scheme.name
  host : url.hostText? = some t.hostText
  port : url.effectivePort? = some t.port

/-- Every URL that requests are sent to has a target, made of its own scheme, host and port. -/
theorem exists_leads {url : Url} (h : url.IsRequestable) : ∃ t : Target, t.Leads url := by
  obtain ⟨host, hhost⟩ := Option.isSome_iff_exists.mp h.hasHost
  have hlower := h.lower host hhost
  have hempty : host.isEmpty = false := by
    rw [← Bool.not_eq_true, String.isEmpty_iff]
    exact Url.ne_empty_of_hostText? hhost
  have hscheme : ∃ scheme : HttpScheme, url.scheme = scheme.name := by
    rcases Bool.or_eq_true_iff.mp h.isHttp with hhttp | hhttps
    · exact ⟨.http, beq_iff_eq.mp hhttp⟩
    · exact ⟨.https, beq_iff_eq.mp hhttps⟩
  obtain ⟨scheme, hscheme⟩ := hscheme
  have hparse : HttpScheme.parse? scheme.name = some scheme := by cases scheme <;> decide +kernel
  have hdefault : Url.defaultPort? scheme.name = some scheme.defaultPort := by
    cases scheme <;> rfl
  refine ⟨⟨scheme, host, url.port.getD scheme.defaultPort⟩, ?_, hscheme, hhost, ?_⟩
  · simp only [ofUrl, hhost, make, hscheme, hparse, hempty, hlower, Bool.false_eq_true, if_false]
    rfl
  · rw [Url.effectivePort?, hscheme, hdefault]
    cases url.port <;> rfl

end Target

namespace Redirect

/-- Two URLs with one host and one port, written out or not, and two schemes. -/
def DifferInSchemeAlone (next previous : Url) : Prop :=
  next.scheme ≠ previous.scheme ∧ next.hostText? = previous.hostText? ∧
    next.effectivePort? = previous.effectivePort?

section

variable {next previous : Url} {t u : Target}

/-- Credentials stay where host and port of the target do. -/
theorem isCrossHost_eq_false_iff (ht : t.Leads next) (hu : u.Leads previous) :
    isCrossHost next previous = false ↔ t.hostText = u.hostText ∧ t.port = u.port := by
  simp only [isCrossHost, ht.host, hu.host, ht.port, hu.port, Bool.or_eq_false_iff,
    bne_eq_false_iff_eq, Option.some.injEq]

/-- Targets with one host and one port are equal unless the URLs differ in their schemes. -/
theorem target_eq_iff (ht : t.Leads next) (hu : u.Leads previous)
    (hscheme : ¬ DifferInSchemeAlone next previous) :
    t = u ↔ t.hostText = u.hostText ∧ t.port = u.port := by
  constructor
  · rintro rfl
    exact ⟨rfl, rfl⟩
  · rintro ⟨hhost, hport⟩
    have hsame : next.scheme = previous.scheme := by
      refine Classical.byContradiction fun hne => hscheme ⟨hne, ?_, ?_⟩
      · rw [ht.host, hu.host, hhost]
      · rw [ht.port, hu.port, hport]
    have hinj : ∀ a b : HttpScheme, a.name = b.name → a = b := by
      rintro (_ | _) (_ | _) h <;> first | rfl | exact absurd h (by decide)
    obtain ⟨a, host, port⟩ := t
    obtain ⟨b, host', port'⟩ := u
    simp only [Target.mk.injEq]
    exact ⟨hinj a b (ht.scheme.symm.trans (hsame.trans hu.scheme)), hhost, hport⟩

/-- What goes to another host or port: no value under a name that carries credentials, and all
values under the other names. -/
theorem values_dropSensitive_of_cross (h : isCrossHost next previous = true) (headers : Fields)
    (name : String) : (dropSensitive headers next previous).values name =
      if name ∈ sensitiveHeaders then [] else headers.values name := by
  rw [dropSensitive, if_pos h, Fields.values_eraseAll]

/-- Credentials stay exactly where the connection goes on to the same target. A redirect to another
target takes every value under the names that carry credentials, and the realm, and leaves the
other headers as they are. -/
theorem credentials_stay_iff_same_target (hnext : next.IsRequestable)
    (hprevious : previous.IsRequestable) (hscheme : ¬ DifferInSchemeAlone next previous) :
    ∃ t u, Target.ofUrl next = .ok t ∧ Target.ofUrl previous = .ok u ∧
      (isCrossHost next previous = false ↔ t = u) ∧
      (∀ headers : Fields, isCrossHost next previous = false →
        dropSensitive headers next previous = headers) ∧
      (∀ (headers : Fields) name, isCrossHost next previous = true →
        (dropSensitive headers next previous).values name =
          if name ∈ sensitiveHeaders then [] else headers.values name) ∧
      ∀ (x : Exchange) s status, x.url = previous → t ≠ u →
        (x.turnTo s status next).realm = none ∧
        ∀ name ∈ sensitiveHeaders, (x.turnTo s status next).content.headers.values name = [] := by
  obtain ⟨t, ht⟩ := Target.exists_leads hnext
  obtain ⟨u, hu⟩ := Target.exists_leads hprevious
  have hstay : isCrossHost next previous = false ↔ t = u :=
    (isCrossHost_eq_false_iff ht hu).trans (target_eq_iff ht hu hscheme).symm
  refine ⟨t, u, ht.ofUrl, hu.ofUrl, hstay, ?_, ?_, ?_⟩
  · intro headers h
    rw [dropSensitive, h, if_neg Bool.false_ne_true]
  · exact fun headers name h => values_dropSensitive_of_cross h headers name
  · rintro x s status rfl hne
    have hcross : isCrossHost next x.url = true := by
      rw [← Bool.not_eq_false]
      exact fun h => hne (hstay.mp h)
    refine ⟨if_pos hcross, fun name hname => ?_⟩
    exact (values_dropSensitive_of_cross hcross _ name).trans (if_pos hname)

end

/-- The URL of one host, under a scheme and at a port. -/
def exampleUrl (scheme : String) (port : Option Nat) : Url :=
  { scheme, host := some (.domain "h.example"), port, path := .segments [""] }

theorem exampleUrl_isRequestable {scheme : String} (port : Option Nat)
    (h : scheme = "http" ∨ scheme = "https") : (exampleUrl scheme port).IsRequestable where
  isHttp := by rcases h with rfl | rfl <;> rfl
  hasHost := rfl
  lower := by
    rintro host hhost
    obtain rfl : "h.example" = host := Option.some.inj hhost
    decide +kernel

/-- From `http://h.example/` to `https://h.example/` scheme and port change. The targets are
different, and of two headers the one with credentials is left behind. -/
theorem upgrade_drops_credentials :
    let next := exampleUrl "https" none
    let previous := exampleUrl "http" none
    let headers : Fields := ⟨[("authorization", .ofAscii "secret"), ("accept", .ofAscii "*/*")]⟩
    next.IsRequestable ∧ previous.IsRequestable ∧ ¬ DifferInSchemeAlone next previous ∧
      (∃ t u, Target.ofUrl next = .ok t ∧ Target.ofUrl previous = .ok u ∧ t ≠ u ∧
        (isCrossHost next previous = false ↔ t = u)) ∧
      headers.values "authorization" = [.ofAscii "secret"] ∧
      (dropSensitive headers next previous).values "authorization" = [] ∧
      (dropSensitive headers next previous).values "accept" = [.ofAscii "*/*"] := by
  intro next previous headers
  have hnext : next.IsRequestable := exampleUrl_isRequestable none (.inr rfl)
  have hprevious : previous.IsRequestable := exampleUrl_isRequestable none (.inl rfl)
  have hscheme : ¬ DifferInSchemeAlone next previous := fun h => absurd h.2.2 (by decide)
  have hcross : isCrossHost next previous = true := by decide
  obtain ⟨t, u, ht, hu, hstay, -, hdrops, -⟩ :=
    credentials_stay_iff_same_target hnext hprevious hscheme
  have hapart : t ≠ u := fun hsame => by cases hcross.symm.trans (hstay.mpr hsame)
  refine ⟨hnext, hprevious, hscheme, ⟨t, u, ht, hu, hapart, hstay⟩, by decide, ?_, ?_⟩
  · rw [hdrops headers "authorization" hcross]
    decide
  · rw [hdrops headers "accept" hcross]
    decide

/-- From `http://h.example:443/` to `https://h.example/` only the scheme changes. The targets are
different, and the credentials go along. -/
theorem scheme_change_keeps_credentials :
    let next := exampleUrl "https" none
    let previous := exampleUrl "http" (some 443)
    let headers : Fields := ⟨[("authorization", .ofAscii "secret"), ("accept", .ofAscii "*/*")]⟩
    next.IsRequestable ∧ previous.IsRequestable ∧
      Target.ofUrl next = .ok ⟨.https, "h.example", 443⟩ ∧
      Target.ofUrl previous = .ok ⟨.http, "h.example", 443⟩ ∧
      isCrossHost next previous = false ∧
      dropSensitive headers next previous = headers ∧
      headers.values "authorization" ≠ [] :=
  ⟨exampleUrl_isRequestable none (.inr rfl), exampleUrl_isRequestable (some 443) (.inl rfl),
    rfl, rfl, by decide, by decide, by decide⟩

end Redirect

end HttpClient
