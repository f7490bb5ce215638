import HttpClient.Proofs.Auth.Signatures
import HttpClient.Proofs.Exchange.Addresses
import HttpClient.Proofs.Exchange.Frames

/-!
# What a message is made of

The headers of a message, name by name: credentials and the length of the body stand in place of
whatever the caller gave, and what every request has stands where the caller gave nothing. So a
message is settled by the content of the request, by its target and by the credentials that are
attached to it.
-/

namespace HttpClient

/-- What every request to a target has under a name if its caller gives nothing. -/
def Target.standard? (target : Target) (settings : Settings) (name : String) : Option HeaderValue :=
  if name = "host" then some (.ofAscii target.authority)
  else if name = "user-agent" then settings.userAgent
  else if name = "accept" then some (.ofAscii "*/*")
  else none

/-- The length of a body, under the name for it. -/
def Redirect.Content.length? (c : Redirect.Content) (name : String) : Option HeaderValue :=
  if name = "content-length" then c.body.map fun body => .ofAscii (toString body.length) else none

/-- The credentials of a realm, under the name for them. -/
def Realm.present? (realm : Option Realm) (credentials : Option HeaderValue) (name : String) :
    Option HeaderValue :=
  match realm with
  | some realm => if name = realm.target.credentialsHeader then credentials else none
  | none => none

/-- The values under a name, with what every request has where the caller gives nothing. -/
def Target.filled (target : Target) (settings : Settings) (headers : Fields) (name : String) :
    List HeaderValue :=
  if headers.values name = [] then (target.standard? settings name).toList else headers.values name

/-- What goes out under a name. -/
def Redirect.Content.outgoing (c : Redirect.Content) (settings : Settings) (target : Target)
    (realm : Option Realm) (credentials : Option HeaderValue) (name : String) :
    List HeaderValue :=
  match (Realm.present? realm credentials name).or (c.length? name) with
  | some value => [value]
  | none => target.filled settings c.headers name

/-- Where the credentials of a request come from, after which the exchange stands as given: they are
pending, or the state sends them unasked; a request without a realm has none. -/
inductive Attaches (target : Target) (after : Exchange) : Option HeaderValue → Prop
  | stranger (hrealm : after.realm = none) : Attaches target after none
  | pending {realm p} (hrealm : after.realm = some realm) (hpending : after.pending = some p) :
    Attaches target after (some p.header)
  | unasked {realm supply rest header} {n : Negotiator} (hrealm : after.realm = some realm)
    (hpending : after.pending = none) (hshould : n.shouldPreempt realm = true)
    (h : n.preempt realm (after.authRequest target) supply =
      (.ok (some header), after.negotiator, rest)) : Attaches target after (some header)
  | bare {realm} (hrealm : after.realm = some realm) (hpending : after.pending = none)
    (hshould : after.negotiator.shouldPreempt realm = false) : Attaches target after none

/-- Nothing stands under a name that carries credentials unless the caller or a realm gave it. -/
theorem Redirect.Content.outgoing_of_sensitive {c : Redirect.Content} {name : String}
    (settings : Settings) (target : Target) (hname : name ∈ Redirect.sensitiveHeaders)
    (h : c.headers.values name = []) : c.outgoing settings target none none name = [] := by
  have hother : name ∉ ["content-length", "host", "user-agent", "accept"] := by
    have hapart : ∀ name ∈ Redirect.sensitiveHeaders,
        name ∉ ["content-length", "host", "user-agent", "accept"] := by decide
    exact hapart name hname
  simp only [List.mem_cons, List.not_mem_nil, or_false, not_or] at hother
  obtain ⟨hlength, hhost, hagent, haccept⟩ := hother
  simp only [outgoing, Realm.present?, length?, Target.filled, Target.standard?, hlength, hhost,
    hagent, haccept, h, if_false, if_true, Option.or_none, Option.toList_none]

namespace Exchange

variable {x y : Exchange} {s t : Shared} {settings : Settings} {target : Target}

/-- Without a body nothing is added but what every request has. -/
private theorem values_plainHeaders (hbody : x.content.body = none) (name : String) :
    (x.plainHeaders settings target).values name =
      target.filled settings x.content.headers name := by
  unfold plainHeaders Target.filled Target.standard?
  rw [hbody]
  by_cases hhost : name = "host"
  · subst hhost
    cases settings.userAgent <;> simp
  by_cases hagent : name = "user-agent"
  · subst hagent
    cases settings.userAgent <;> simp
  by_cases haccept : name = "accept"
  · subst haccept
    cases settings.userAgent <;> simp
  cases settings.userAgent <;>
    simp [hhost, hagent, haccept, Ne.symm hhost, Ne.symm hagent, Ne.symm haccept]

/-- The headers of a message, name by name. -/
theorem values_message (x : Exchange) (settings : Settings) (target : Target)
    (credentials : Option HeaderValue) (name : String) :
    (x.message settings target credentials).headers.values name =
      x.content.outgoing settings target x.realm credentials name := by
  have hplain : (x.plainHeaders settings target).values name =
      match x.content.length? name with
      | some value => [value]
      | none => target.filled settings x.content.headers name := by
    let bare : Exchange := { x with content := { x.content with body := none } }
    have hbare : (bare.plainHeaders settings target).values name =
        target.filled settings x.content.headers name := values_plainHeaders rfl name
    unfold Redirect.Content.length?
    cases hbody : x.content.body with
    | none =>
      rw [values_plainHeaders hbody, Option.map_none, ite_self]
    | some body =>
      have hinsert : x.plainHeaders settings target = (bare.plainHeaders settings target).insert
          "content-length" (.ofAscii (toString body.length)) := by
        simp only [plainHeaders, hbody, bare]
      rw [hinsert, Fields.values_insert, hbare, Option.map_some]
      by_cases hlength : name = "content-length"
      · simp [hlength]
      · simp [hlength, Ne.symm hlength]
  unfold message Redirect.Content.outgoing Realm.present?
  cases x.realm with
  | none => exact hplain
  | some realm =>
    cases credentials with
    | none => simpa using hplain
    | some value =>
      by_cases hname : name = realm.target.credentialsHeader
      · simp [hname]
      · simpa [hname, Ne.symm hname] using hplain

/-- A message has its credentials from where the exchange stands. -/
theorem attaches_of_compose {message : Message} (phase : Phase)
    (h : x.compose s target = (.ok message, y, t)) :
    ∃ value, message = y.message t.settings target value ∧
      Attaches target { y with phase := phase } value := by
  obtain ⟨value, hcredentials, hmessage⟩ := compose_ok h
  refine ⟨value, hmessage, ?_⟩
  unfold credentials at hcredentials
  split at hcredentials
  · rename_i hrealm
    simp only [Prod.mk.injEq, Except.ok.injEq] at hcredentials
    obtain ⟨rfl, rfl, -⟩ := hcredentials
    exact .stranger hrealm
  · rename_i realm p hrealm hpending
    simp only [Prod.mk.injEq, Except.ok.injEq] at hcredentials
    obtain ⟨rfl, rfl, -⟩ := hcredentials
    exact .pending hrealm hpending
  · rename_i realm hrealm hpending
    split at hcredentials
    · rename_i hshould
      rcases hpreempt : x.negotiator.preempt realm (x.authRequest target) s.supply with
        ⟨result, n, supply⟩
      simp only [hpreempt, Prod.mk.injEq] at hcredentials
      obtain ⟨rfl, rfl, -⟩ := hcredentials
      obtain ⟨header, rfl⟩ := Negotiator.isSome_of_preempt hshould hpreempt
      exact .unasked hrealm hpending hshould hpreempt
    · rename_i hshould
      simp only [Prod.mk.injEq, Except.ok.injEq] at hcredentials
      obtain ⟨rfl, rfl, -⟩ := hcredentials
      exact .bare hrealm hpending (Bool.not_eq_true _ ▸ hshould)

end Exchange

end HttpClient
