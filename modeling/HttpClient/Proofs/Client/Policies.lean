import HttpClient.Proofs.Client.Itinerary

/-!
# Which redirects a request follows

Redirects can be settled in three ways, on the client and on the request: by a policy, by a switch,
and by a limit, each as often as one likes. The last one of each counts, and a policy on the request
counts before all else. A limit on the request asks the switch of the client, which is right where
the client has no policy of its own, or one that does what the switch says.
-/

namespace HttpClient

/-- What was given last. -/
def lastGiven {α β : Type} (pick : α → Option β) (xs : List α) : Option β :=
  (xs.filterMap pick).getLast?

theorem lastGiven_cons {α β : Type} (pick : α → Option β) (x : α) (xs : List α) :
    lastGiven pick (x :: xs) = (lastGiven pick xs).or (pick x) := by
  unfold lastGiven
  rw [List.filterMap_cons]
  cases pick x with
  | none => exact Option.or_none.symm
  | some y =>
    rw [List.getLast?_cons]
    cases (List.filterMap pick xs).getLast? <;> rfl

/-- A field that every step sets to what the step gives, or leaves alone, is what was given last. -/
theorem foldl_eq_lastGiven {σ α β : Type} {f : σ → α → σ} (field : σ → Option β)
    {pick : α → Option β} (h : ∀ s x, field (f s x) = (pick x).or (field s)) (xs : List α) (s : σ) :
    field (xs.foldl f s) = (lastGiven pick xs).or (field s) := by
  induction xs generalizing s with
  | nil => rfl
  | cons x xs ih => rw [List.foldl_cons, ih, h, lastGiven_cons, Option.or_assoc]

namespace Setting

/-- The policy that a setter gives. -/
def policy? : Setting → Option RedirectPolicy
  | redirect policy => some policy
  | _ => none

/-- The position of the switch that a setter gives. -/
def switch? : Setting → Option Bool
  | followRedirect enable => some enable
  | _ => none

/-- The limit that a setter gives. -/
def limit? : Setting → Option Nat
  | maxRedirects max => some max
  | _ => none

end Setting

namespace SettingsBuilder

/-- What one setter does about redirects. -/
theorem settings_set (b : SettingsBuilder) (setting : Setting) :
    (b.set setting).settings.redirect = setting.policy?.or b.settings.redirect ∧
      some (b.set setting).settings.followRedirect =
        setting.switch?.or (some b.settings.followRedirect) ∧
      some (b.set setting).settings.maxRedirects =
        setting.limit?.or (some b.settings.maxRedirects) := by
  cases setting with
  | userAgent bytes =>
    rw [set]
    split <;> exact ⟨rfl, rfl, rfl⟩
  | _ => exact ⟨rfl, rfl, rfl⟩

theorem settings_of_build {b : SettingsBuilder} {settings : Settings}
    (h : b.build = .ok settings) : b.settings = settings := by
  unfold build at h
  split at h
  · cases h
  · dsimp only at h
    split at h
    · cases h
    · split at h
      · cases h
      · exact Except.ok.inj h

end SettingsBuilder

/-- A limit under a switch follows redirects where the switch says so. -/
@[simp] theorem RedirectPolicy.isFollow_ite (switch : Bool) (max : Nat) :
    (if switch then RedirectPolicy.limited max else .none).isFollow = switch := by
  cases switch <;> rfl

namespace Settings

/-- What setters lead to about redirects. -/
structure MadeBy (settings : Settings) (setters : List Setting) : Prop where
  policy : settings.redirect = lastGiven Setting.policy? setters
  switch : settings.followRedirect = (lastGiven Setting.switch? setters).getD false
  limit : settings.maxRedirects = (lastGiven Setting.limit? setters).getD 5

theorem madeBy_of_build {setters : List Setting} {settings : Settings}
    (h : Settings.build setters = .ok settings) : settings.MadeBy setters := by
  obtain rfl := SettingsBuilder.settings_of_build h
  have hpolicy := foldl_eq_lastGiven (fun b : SettingsBuilder => b.settings.redirect)
    (fun b x => (b.settings_set x).1) setters {}
  have hswitch := foldl_eq_lastGiven (fun b : SettingsBuilder => some b.settings.followRedirect)
    (fun b x => (b.settings_set x).2.1) setters {}
  have hlimit := foldl_eq_lastGiven (fun b : SettingsBuilder => some b.settings.maxRedirects)
    (fun b x => (b.settings_set x).2.2) setters {}
  refine ⟨hpolicy.trans (Option.or_none), ?_, ?_⟩
  · rw [Option.or_some] at hswitch
    exact Option.some.inj hswitch
  · rw [Option.or_some] at hlimit
    exact Option.some.inj hlimit

/-- The policy of requests that name none. -/
theorem MadeBy.redirectPolicy {settings : Settings} {setters : List Setting}
    (h : settings.MadeBy setters) : settings.redirectPolicy =
      (lastGiven Setting.policy? setters).getD
        (if (lastGiven Setting.switch? setters).getD false then
          .limited ((lastGiven Setting.limit? setters).getD 5)
        else .none) := by
  rw [Settings.redirectPolicy, h.policy, h.switch, h.limit]
  cases lastGiven Setting.policy? setters <;> rfl

end Settings

namespace RequestBuilder

/-- What is done with a request being built: a call, or going on with a copy. -/
inductive Step
  | call (call : RequestCall)
  | clone

namespace Step

/-- The policy that a step gives. -/
def policy? : Step → Option RedirectPolicy
  | call (.redirect policy) => some policy
  | _ => none

/-- The position of the switch that a step gives. -/
def switch? : Step → Option Bool
  | call (.followRedirect enable) => some enable
  | _ => none

/-- The limit that a step gives. -/
def limit? : Step → Option Nat
  | call (.maxRedirects max) => some max
  | _ => none

end Step

/-- The builder after a step, unless a copy of an error was asked for. -/
def step (b : RequestBuilder) : Step → Option RequestBuilder
  | .call call => some (b.call call)
  | .clone => b.clone?

/-- The builder after steps, unless a copy of an error was asked for. -/
def perform (b : RequestBuilder) (steps : List Step) : Option RequestBuilder :=
  steps.foldlM step b

/-- What leads from one builder to another about redirects: what is given is set, and all else
stays. A request that is no error was none before. -/
structure Leads (b : RequestBuilder) (policy : Option RedirectPolicy) (switch : Option Bool)
    (limit : Option Nat) (b' : RequestBuilder) : Prop where
  switch : b'.followRedirect = switch.or b.followRedirect
  limit : b'.maxRedirects = limit.or b.maxRedirects
  policy : ∀ r', b'.request = .ok r' → ∃ r, b.request = .ok r ∧ r'.redirect = policy.or r.redirect

section

variable {b b' : RequestBuilder} {s : Step} {steps : List Step} {settings : Settings} {r : Request}

/-- What a change of the request leads to that gives it a policy, or leaves it the one it has. -/
theorem leads_update {policy : Option RedirectPolicy} {f : Request → Except Error Request}
    (hf : ∀ r r', f r = .ok r' → r'.redirect = policy.or r.redirect) :
    Leads b policy none none (b.update f) where
  switch := rfl
  limit := rfl
  policy r' h := by
    cases hr : b.request with
    | error e =>
      rw [update, hr] at h
      cases h
    | ok r =>
      rw [update, hr] at h
      exact ⟨r, rfl, hf r r' h⟩

theorem leads_self : Leads b none none none b :=
  ⟨rfl, rfl, fun r' h => ⟨r', h, rfl⟩⟩

theorem leads_call (b : RequestBuilder) (call : RequestCall) :
    Leads b (Step.call call).policy? (Step.call call).switch? (Step.call call).limit?
      (b.call call) := by
  cases call with
  | header name value =>
    refine leads_update fun r r' h => ?_
    cases hfield : Fields.field name value with
    | error reason =>
      rw [hfield] at h
      cases h
    | ok field =>
      rw [hfield] at h
      cases h
      rfl
  | followRedirect | maxRedirects => exact ⟨rfl, rfl, fun r' h => ⟨r', h, rfl⟩⟩
  | headers | realm | basicAuth | timeout | body | redirect | maxRetries | cancelToken =>
    refine leads_update fun r r' h => ?_
    cases h
    rfl

theorem leads_step (h : b.step s = some b') : Leads b s.policy? s.switch? s.limit? b' := by
  cases s with
  | call call =>
    obtain rfl := Option.some.inj h
    exact leads_call b call
  | clone =>
    rw [step, clone?] at h
    split at h
    · obtain rfl := Option.some.inj h
      exact leads_self
    · cases h

/-- Of each kind the last one given counts, whatever comes between. -/
theorem leads_perform (h : b.perform steps = some b') :
    Leads b (lastGiven Step.policy? steps) (lastGiven Step.switch? steps)
      (lastGiven Step.limit? steps) b' := by
  induction steps generalizing b with
  | nil =>
    obtain rfl := Option.some.inj h
    exact leads_self
  | cons s steps ih =>
    rw [perform, List.foldlM_cons] at h
    obtain ⟨next, hnext, hrest⟩ := Option.bind_eq_some_iff.mp h
    have hfirst := leads_step hnext
    have hlater := ih hrest
    refine ⟨?_, ?_, fun r' hr' => ?_⟩
    · rw [hlater.switch, hfirst.switch, lastGiven_cons, Option.or_assoc]
    · rw [hlater.limit, hfirst.limit, lastGiven_cons, Option.or_assoc]
    · obtain ⟨r₁, hr₁, hpolicy₁⟩ := hlater.policy r' hr'
      obtain ⟨r, hr, hpolicy⟩ := hfirst.policy r₁ hr₁
      exact ⟨r, hr, by rw [hpolicy₁, hpolicy, lastGiven_cons, Option.or_assoc]⟩

/-- A builder for which neither following nor limiting was settled yet. -/
structure IsFresh (b : RequestBuilder) : Prop where
  switch : b.followRedirect = none
  limit : b.maxRedirects = none

theorem isFresh_start (method : Method) (url : Except Error Url) : (start method url).IsFresh :=
  ⟨rfl, rfl⟩

/-- The policy that the request has. -/
def ownPolicy? (b : RequestBuilder) : Option RedirectPolicy :=
  b.request.toOption.bind Request.redirect

/-- A limit alone is put under the switch of the client. -/
theorem policy?_of_limit {max : Nat} (hswitch : b.followRedirect = none)
    (hlimit : b.maxRedirects = some max) (settings : Settings) :
    b.policy? settings = some (if settings.followRedirect then .limited max else .none) := by
  rw [policy?, hswitch, hlimit]
  cases settings.followRedirect <;> rfl

/-- A request that was built has the policy that was given last, else what the last switch and the
last limit add up to. -/
theorem redirect_of_build (hfresh : b.IsFresh) (hsteps : b.perform steps = some b')
    (hbuilt : b'.build settings = .ok r) :
    r.redirect = ((lastGiven Step.policy? steps).or b.ownPolicy?).or (b'.policy? settings) ∧
      b'.followRedirect = lastGiven Step.switch? steps ∧
      b'.maxRedirects = lastGiven Step.limit? steps := by
  have hleads := leads_perform hsteps
  refine ⟨?_, ?_, ?_⟩
  · cases hr' : b'.request with
    | error e =>
      rw [build, hr'] at hbuilt
      cases hbuilt
    | ok r' =>
      rw [build, hr'] at hbuilt
      obtain rfl := Except.ok.inj hbuilt
      obtain ⟨r₀, hr₀, hpolicy⟩ := hleads.policy r' hr'
      have hown : b.ownPolicy? = r₀.redirect := by
        rw [ownPolicy?, hr₀]
        rfl
      rw [hown, ← hpolicy]
  · rw [hleads.switch, hfresh.switch, Option.or_none]
  · rw [hleads.limit, hfresh.limit, Option.or_none]

end

end RequestBuilder

namespace Client

open RequestBuilder

/-- A limit on a request follows redirects exactly where the switch of the client does, and no more
of them than the limit that was given last. So the client's own policy is limited, and not switched
on or off, exactly where it does what the switch says or there is none. A policy that was given on
the request is the one in use, whatever else was settled before or after it. -/
theorem limits_follow_switch {setters : List Setting} {settings : Settings}
    (hclient : Settings.build setters = .ok settings) {b b' : RequestBuilder} (hfresh : b.IsFresh)
    {steps : List Step} (hsteps : b.perform steps = some b') {r : Request}
    (hbuilt : b'.build settings = .ok r) (supply : Supply) (before events : List Event)
    (consumer : Option Consumer) :
    let id := ((Client.make settings supply).run before).exchanges.length
    let whole := before ++ .submit r consumer :: events
    let given := (lastGiven Step.policy? steps).or b.ownPolicy?
    let switch := (lastGiven Setting.switch? setters).getD false
    ∃ x, ((Client.make settings supply).run whole).exchange? id = some x ∧
      (∀ max, given = none → lastGiven Step.switch? steps = none →
        lastGiven Step.limit? steps = some max →
          x.policy = (if switch then .limited max else .none) ∧
          (x.policy.isFollow = true → x.policy = .limited max) ∧
          (x.policy.isFollow = settings.redirectPolicy.isFollow ↔
            ∀ policy, lastGiven Setting.policy? setters = some policy →
              policy.isFollow = switch)) ∧
      ∀ policy, given = some policy → x.policy = policy := by
  intro id whole given switch
  have hmade := Settings.madeBy_of_build hclient
  obtain ⟨hredirect, hswitch, hlimit⟩ := redirect_of_build hfresh hsteps hbuilt
  obtain ⟨x, hx, hkeeps⟩ := (follows_run settings supply before events r consumer).keeps
  have hpolicy : x.policy = (given.or (b'.policy? settings)).getD settings.redirectPolicy := by
    rw [hkeeps.policy, hredirect]
  refine ⟨x, hx, fun max hgiven hnoswitch hmax => ?_, fun policy hgiven => ?_⟩
  · have hused : x.policy = if switch then .limited max else .none := by
      rw [hpolicy, hgiven, policy?_of_limit (hswitch.trans hnoswitch) (hlimit.trans hmax),
        hmade.switch]
      rfl
    refine ⟨hused, fun hfollow => ?_, ?_⟩
    · rw [hused, RedirectPolicy.isFollow_ite] at hfollow
      rw [hused, if_pos hfollow]
    · rw [hused, RedirectPolicy.isFollow_ite, hmade.redirectPolicy]
      cases lastGiven Setting.policy? setters with
      | none =>
        rw [Option.getD_none, RedirectPolicy.isFollow_ite]
        exact iff_of_true rfl fun policy h => nomatch h
      | some own =>
        constructor
        · rintro hsame policy ⟨⟩
          exact hsame.symm
        · exact fun hagree => (hagree own rfl).symm
  · rw [hpolicy, hgiven]
    rfl

/-- A page that redirects. -/
def movedPage : Url :=
  { scheme := "http", host := some (.domain "h.example"), path := .segments ["1"] }

/-- A request for the page, with a policy if one was settled. -/
def pageRequest (policy : RedirectPolicy) : Request :=
  { method := "GET", url := movedPage, redirect := some policy }

/-- The client's policy follows as its switch says, and the last of two limits counts. -/
theorem limited_twice_follows :
    let setters : List Setting := [.redirect (.limited 9), .followRedirect true, .maxRedirects 7]
    let settings : Settings :=
      { redirect := some (.limited 9), followRedirect := true, maxRedirects := 7 }
    let steps : List Step := [.call (.maxRedirects 2), .clone, .call (.timeout 10),
      .call (.maxRedirects 3), .clone]
    let b : RequestBuilder := start "GET" (.ok movedPage)
    let request := { pageRequest (.limited 3) with timeout := some 10 }
    Settings.build setters = .ok settings ∧ b.IsFresh ∧
      ((b.perform steps).map fun b' => b'.build settings) = some (.ok request) ∧
      ∃ x, ((Client.make settings {}).run [.submit request none]).exchange? 0 = some x ∧
        x.policy = .limited 3 ∧ settings.redirectPolicy.isFollow = true := by
  intro setters settings steps b request
  have hclient : Settings.build setters = .ok settings := rfl
  obtain ⟨x, hx, hlimited, -⟩ := limits_follow_switch hclient (isFresh_start "GET" (.ok movedPage))
    (show b.perform steps = some _ from rfl) (show _ = Except.ok request from rfl) {} [] [] none
  exact ⟨hclient, isFresh_start _ _, rfl, x, hx, (hlimited 3 rfl rfl rfl).1, rfl⟩

/-- Under a client with a policy of its own, a limit switches redirects off that the policy follows,
and on that the policy leaves alone. -/
theorem limit_overrules_policy :
    let following : Settings := { redirect := some (.limited 5) }
    let resting : Settings := { redirect := some .none, followRedirect := true }
    let b : RequestBuilder := (start "GET" (.ok movedPage)).call (.maxRedirects 3)
    Settings.build [.redirect (.limited 5)] = .ok following ∧
      following.redirectPolicy.isFollow = true ∧
      b.build following = .ok (pageRequest .none) ∧
      (((Client.make following {}).run [.submit (pageRequest .none) none]).exchange? 0).map
        (·.policy.isFollow) = some false ∧
    Settings.build [.followRedirect true, .redirect .none] = .ok resting ∧
      resting.redirectPolicy.isFollow = false ∧
      b.build resting = .ok (pageRequest (.limited 3)) ∧
      (((Client.make resting {}).run [.submit (pageRequest (.limited 3)) none]).exchange? 0).map
        (·.policy.isFollow) = some true :=
  ⟨rfl, rfl, rfl, rfl, rfl, rfl, rfl, rfl⟩

end Client

end HttpClient
