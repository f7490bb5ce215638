import HttpClient.Proofs.Client.Budgets

/-!
# Attempts of a request

Over a whole run of a client, the attempts of one request and the redirects that it hears are
counted, and an account is kept of them: each attempt is within the allowance, and each redirect
that was heard has been followed as long as the request goes on.
-/

namespace HttpClient

/-- True for the step of an exchange. -/
def Event.isStepOf (id : ExchangeId) : Event → Bool
  | .run (.exchange other) => other = id
  | _ => false

/-- True while there is no final response and no error. -/
def Phase.isLive : Phase → Bool
  | answered _ _ | failed _ | dropped => false
  | _ => true

/-- An exchange that attempts something goes on, and turns to no other URL. -/
theorem Phase.live_of_attempt {p : Phase} (h : p = .resting ∨ p.isUnderWay = true) :
    p.isLive = true ∧ p.turning = [] := by
  cases p with
  | resting | waiting | dialing | sending => exact ⟨rfl, rfl⟩
  | draining | answered | failed | dropped => rcases h with h | h <;> cases h

namespace Client

/-- How many attempts of an exchange begin. -/
def attempts (c : Client) (id : ExchangeId) : List Event → Nat
  | [] => 0
  | event :: events =>
    (if event.isStepOf id && (c.exchange? id).any (·.isAttempting c.shared) then 1 else 0) +
      (c.step event).attempts id events

/-- The redirects that an exchange hears and that could be followed, first to last. -/
def redirects (c : Client) (id : ExchangeId) : List Event → List Url
  | [] => []
  | event :: events =>
    (if event.isStepOf id then
        (((c.exchange? id).bind (·.redirect? c.shared)).map Prod.snd).toList
      else []) ++ (c.step event).redirects id events

end Client

namespace Exchange

/-- The account of an exchange that began with a URL and with so many retries, after so many
attempts and the redirects that it heard. -/
structure Account (start : Url) (first : Course) (attempts : Nat) (heard : List Url)
    (x : Exchange) : Prop where
  spends : first.Spends x.course
  /-- As long as the exchange goes on, all redirects were followed. -/
  visited : x.isRunning = true → x.visited = start :: heard
  allowed : ∀ max, first.policy = .limited max →
    attempts + x.allowance max ≤
      1 + first.retries.remaining + first.authRetries.remaining + max
  refused : ∀ max, first.policy = .limited max →
    heard.length ≤ max ∨ ∃ before last, heard = before ++ [last] ∧ before.length = max ∧
      x.IsRefused last

variable {x y : Exchange} {s t : Shared} {start : Url} {first : Course} {attempts : Nat}
  {heard : List Url}

/-- Whether an exchange goes on is a matter of its phase. -/
theorem isRunning_eq (x : Exchange) : x.isRunning = x.phase.isLive := by
  rw [isRunning]
  cases x.phase <;> rfl

/-- An exchange that was refused a redirect has ended. -/
theorem IsRefused.ended {last : Url} (h : x.IsRefused last) : x.isRunning = false := by
  obtain ⟨status, hphase⟩ := h
  rw [isRunning, hphase]

/-- An exchange that begins an attempt has a step. -/
theorem step_of_isAttempting (h : x.isAttempting s = true) : (x.step s).isSome = true := by
  rw [isAttempting, Bool.and_eq_true, Bool.not_eq_true'] at h
  obtain ⟨hresting, hcut⟩ := h
  cases hphase : x.phase with
  | resting =>
    have hrunning : x.isRunning = true := by rw [isRunning, hphase]
    rw [step_of_uncut hrunning hcut]
    simp only [proceed, hphase, Option.isSome_some]
  | _ =>
    rw [hphase] at hresting
    cases hresting

/-- An exchange that hears a redirect waits for a response. -/
theorem sending_of_redirect {head : Head} {next : Url}
    (h : x.redirect? s = some (head, next)) : ∃ l limit, x.phase = .sending l limit := by
  unfold redirect? at h
  split at h
  · rename_i l limit hphase
    exact ⟨l, limit, hphase⟩
  · cases h

/-- The URLs, read off the course and the phase. -/
theorem visited_eq {c : Course} {p : Phase} (hcourse : x.course = c) (hphase : x.phase = p) :
    x.visited = c.history ++ c.url :: p.turning := by
  subst hcourse hphase
  rfl

/-- An exchange goes on whose phase is not the last. -/
theorem running {p : Phase} (hphase : x.phase = p) (hlive : p.isLive = true) :
    x.isRunning = true := by
  rw [isRunning_eq, hphase, hlive]

/-- An exchange that ended does not go on. -/
theorem not_running {p : Phase} (hphase : x.phase = p) (hend : p.isLive = false) :
    ¬x.isRunning = true := by
  subst hphase
  rw [isRunning_eq, hend]
  nofun

/-- A step that hears no redirect leaves the URLs as they are while the exchange goes on. -/
theorem visited_outcome (h : x.Outcome y) (hrunning : y.isRunning = true) :
    x.isRunning = true ∧ y.visited = x.visited := by
  cases h with
  | attempt hphase htried =>
    obtain ⟨hlive, hturning⟩ := Phase.live_of_attempt hphase
    refine ⟨hlive, ?_⟩
    rw [visited_eq (x := x) rfl rfl, hturning]
    cases htried with
    | pursue hcourse hnext =>
      rw [visited_eq hcourse rfl, (Phase.due_of_isUnderWay hnext).2]
    | retry hspent hcourse hnext =>
      rw [visited_eq hcourse hnext]
      rfl
    | fail hcourse hnext => exact absurd hrunning (not_running hnext rfl)
  | react hphase hreaction =>
    refine ⟨running hphase rfl, ?_⟩
    rw [visited_eq (x := x) rfl hphase]
    cases hreaction with
    | challenge hspent hcourse hnext =>
      rw [visited_eq hcourse hnext]
      rfl
    | answer hcourse hnext => exact absurd hrunning (not_running hnext rfl)
    | reject hcourse hnext => exact absurd hrunning (not_running hnext rfl)
  | @skim l read more limit after hphase hcourse hnext =>
    refine ⟨running hphase rfl, ?_⟩
    rw [visited_eq (x := x) rfl hphase, visited_eq hcourse hnext]
    cases after <;> rfl
  | @turn l read limit after hphase hcourse hnext =>
    refine ⟨running hphase rfl, ?_⟩
    rw [visited_eq (x := x) rfl hphase, visited_eq hcourse hnext]
    cases after with
    | answer header keep => rfl
    | follow next =>
      simp only [Course.turn, Phase.turning, List.append_assoc, List.singleton_append]
  | cut hgoes hcourse hnext => exact absurd hrunning (not_running hnext rfl)

/-- Without a step of its own an exchange that goes on stays where it is. -/
theorem visited_rests (h : x.Rests y) (hrunning : y.isRunning = true) :
    x.isRunning = true ∧ y.visited = x.visited := by
  cases h with
  | quiet hcourse hphase =>
    rw [isRunning_eq, hphase] at hrunning
    exact ⟨hrunning, by rw [visited_eq hcourse hphase, visited_eq (x := x) rfl rfl]⟩
  | body hcourse hphase hevolves hnext => exact absurd hrunning (not_running hnext rfl)
  | drop hcourse hgoes hnext => exact absurd hrunning (not_running hnext rfl)

namespace Account

/-- The account of an exchange that begins with a request. -/
theorem ofRequest (s : Shared) (r : Request) (delivery : Option Delivery) :
    (Exchange.ofRequest s r delivery).Account r.url (Exchange.ofRequest s r delivery).course 0
      [] where
  spends := .refl _
  visited _ := rfl
  allowed max _ := by
    rw [allowance_eq rfl rfl]
    simp only [Exchange.ofRequest, course, Phase.due, Phase.turning, List.length_nil]
    omega
  refused _ _ := Or.inl (Nat.zero_le _)

/-- The account after a step that hears a redirect. -/
theorem redirect {head : Head} {next : Url} (h : x.Account start first attempts heard)
    (hsome : x.redirect? s = some (head, next))
    (hheeds : Heeds x.course head next
      (first.policy.check head.status next (start :: heard)) y) :
    y.Account start first attempts (heard ++ [next]) := by
  obtain ⟨l, limit, hphase⟩ := sending_of_redirect hsome
  have hrunning : x.isRunning = true := running hphase rfl
  have hvisited := h.visited hrunning
  have hprevious : x.history ++ [x.url] = start :: heard := by
    rw [← hvisited, visited_eq rfl hphase]
    rfl
  obtain ⟨hcourse, hnext⟩ := hheeds
  refine ⟨h.spends.trans (.of_eq hcourse), fun hgoes => ?_, fun max hmax => ?_, fun max hmax => ?_⟩
  · cases hcheck : first.policy.check head.status next (start :: heard) with
    | follow =>
      rw [hcheck] at hnext
      obtain ⟨m, later, hdraining⟩ := hnext
      rw [visited_eq hcourse hdraining, ← List.cons_append, ← hprevious, List.append_assoc]
      rfl
    | stop =>
      rw [hcheck] at hnext
      obtain ⟨body, hanswered, -⟩ := hnext
      exact absurd hgoes (not_running hanswered rfl)
    | fail cause =>
      rw [hcheck] at hnext
      exact absurd hgoes (not_running hnext rfl)
  · have hunderWay : x.phase.isUnderWay = true := by
      rw [hphase]
      rfl
    have hlimited : Heeds x.course head next
        ((RedirectPolicy.limited max).check head.status next (x.history ++ [x.url])) y := by
      rw [hprevious, ← hmax]
      exact ⟨hcourse, hnext⟩
    have hless := allowance_heeds hunderWay hlimited
    have hallowed := h.allowed max hmax
    omega
  · -- Before this one no redirect was refused, for the exchange goes on.
    have hfew : heard.length ≤ max := by
      refine (h.refused max hmax).resolve_right ?_
      rintro ⟨before, last, -, -, hrefused⟩
      rw [hrefused.ended] at hrunning
      cases hrunning
    rw [hmax] at hnext
    by_cases hlimit : max < (start :: heard).length
    · rw [RedirectPolicy.check_of_lt hlimit] at hnext
      rw [List.length_cons] at hlimit
      exact Or.inr ⟨heard, next, rfl, by omega, head.status, hnext⟩
    · rw [List.length_cons] at hlimit
      rw [List.length_append, List.length_singleton]
      exact Or.inl (by omega)

/-- The account after anything that hears no redirect. -/
theorem carry {count : Nat} (h : x.Account start first attempts heard)
    (hcost : ∀ max, y.allowance max + count ≤ x.allowance max ∧ x.course.Spends y.course)
    (hvisited : y.isRunning = true → x.isRunning = true ∧ y.visited = x.visited)
    (hrefused : ∀ last, x.IsRefused last → y.IsRefused last) :
    y.Account start first (attempts + count) heard where
  spends := h.spends.trans (hcost 0).2
  visited hgoes := by
    obtain ⟨hrunning, hsame⟩ := hvisited hgoes
    rw [hsame, h.visited hrunning]
  allowed max hmax := by
    have hless := (hcost max).1
    have hallowed := h.allowed max hmax
    omega
  refused max hmax := (h.refused max hmax).imp_right fun ⟨before, last, hsplit, hlength, hlast⟩ =>
    ⟨before, last, hsplit, hlength, hrefused last hlast⟩

/-- The account after a step that hears no redirect. -/
theorem outcome {count : Nat} (h : x.Account start first attempts heard) (houtcome : x.Outcome y)
    (hrunning : x.isRunning = true) (hcount : count ≤ if x.phase.isResting then 1 else 0) :
    y.Account start first (attempts + count) heard := by
  refine h.carry (fun max => ?_) (visited_outcome houtcome) fun last hlast => ?_
  · obtain ⟨hless, hspends⟩ := allowance_outcome (n := max) houtcome
    exact ⟨by omega, hspends⟩
  · rw [hlast.ended] at hrunning
    cases hrunning

/-- The account after anything without a step of the exchange itself. -/
theorem rests (h : x.Account start first attempts heard) (hrests : x.Rests y) :
    y.Account start first attempts heard := by
  have hrefused : ∀ last, x.IsRefused last → y.IsRefused last := by
    rintro last ⟨status, hlast⟩
    cases hrests with
    | quiet hcourse hphase => exact ⟨status, hphase.trans hlast⟩
    | body hcourse hphase =>
      rw [hlast] at hphase
      cases hphase
    | drop hcourse hgoes =>
      rw [isRunning_eq, hlast] at hgoes
      cases hgoes
  have hfree : y.Account start first (attempts + 0) heard :=
    h.carry (fun max => allowance_rests hrests) (visited_rests hrests) hrefused
  exact hfree

end Account

end Exchange

namespace Client

open Exchange

variable {c : Client} {id : ExchangeId} {x y : Exchange} {start : Url} {first : Course}
  {attempts : Nat} {heard : List Url}

theorem isStepOf_iff {event : Event} : event.isStepOf id = true ↔ event = .run (.exchange id) := by
  constructor
  · intro h
    unfold Event.isStepOf at h
    split at h
    · rw [of_decide_eq_true h]
    · cases h
  · rintro rfl
    exact decide_eq_true rfl

theorem attempts_cons (c : Client) (id : ExchangeId) (event : Event) (events : List Event) :
    c.attempts id (event :: events) =
      c.attempts id [event] + (c.step event).attempts id events := rfl

theorem redirects_cons (c : Client) (id : ExchangeId) (event : Event) (events : List Event) :
    c.redirects id (event :: events) =
      c.redirects id [event] ++ (c.step event).redirects id events := by
  rw [redirects, redirects, redirects, List.append_nil]

/-- Where an exchange takes no step, it begins no attempt and hears no redirect. -/
theorem silent_of_idle {event : Event} (hx : c.exchange? id = some x)
    (hidle : event = .run (.exchange id) → x.step c.shared = none) :
    c.attempts id [event] = 0 ∧ c.redirects id [event] = [] := by
  by_cases hstep : event.isStepOf id = true
  · have hnone := hidle (isStepOf_iff.mp hstep)
    have hattempting : x.isAttempting c.shared = false := by
      rw [← Bool.not_eq_true]
      intro hbegins
      have hsome := step_of_isAttempting hbegins
      rw [hnone] at hsome
      cases hsome
    have hsilent : x.redirect? c.shared = none := by
      cases hredirect : x.redirect? c.shared with
      | none => rfl
      | some found =>
        obtain ⟨y, t, hsome, -⟩ := step_of_redirect hredirect
        rw [hnone] at hsome
        cases hsome
    constructor
    · simp only [Client.attempts, hx, Option.any_some, hattempting, Bool.and_false,
        Bool.false_eq_true, if_false]
    · simp only [redirects, hstep, hx, Option.bind_some, hsilent, if_true, Option.map_none,
        Option.toList_none, List.append_nil]
  · constructor
    · simp only [Client.attempts, hstep, Bool.false_and, Bool.false_eq_true, if_false]
    · simp only [redirects, hstep, Bool.false_eq_true, if_false, List.append_nil]

/-- The account of an exchange after an event. -/
theorem account_step (hx : c.exchange? id = some x) (h : x.Account start first attempts heard)
    (event : Event) : ∃ y, (c.step event).exchange? id = some y ∧
      y.Account start first (attempts + c.attempts id [event])
        (heard ++ c.redirects id [event]) := by
  obtain ⟨y, hy, hfares⟩ := fares_step hx event
  refine ⟨y, hy, ?_⟩
  cases hfares with
  | rest hidle hrests =>
    obtain ⟨hnone, hsilent⟩ := silent_of_idle hx hidle
    rw [hnone, hsilent, List.append_nil]
    exact h.rests hrests
  | @step t hevent hstep =>
    have hturn : event.isStepOf id = true := isStepOf_iff.mpr hevent
    have hrunning : x.isRunning = true := by
      rw [← Bool.not_eq_false]
      intro hended
      rw [Exchange.step, if_pos (by rw [hended]; rfl)] at hstep
      cases hstep
    cases hredirect : x.redirect? c.shared with
    | none =>
      have hsilent : c.redirects id [event] = [] := by
        simp only [redirects, hturn, hx, Option.bind_some, hredirect, if_true, Option.map_none,
          Option.toList_none, List.append_nil]
      rw [hsilent, List.append_nil]
      refine h.outcome (outcome_of_step hstep hredirect) hrunning ?_
      simp only [Client.attempts, hturn, hx, Option.any_some, isAttempting, Bool.true_and]
      cases x.phase.isResting with
      | true => split <;> simp
      | false => simp
    | some found =>
      obtain ⟨head, next⟩ := found
      obtain ⟨l, limit, hphase⟩ := sending_of_redirect hredirect
      obtain ⟨z, u, hz, hheeds⟩ := step_of_redirect hredirect
      obtain ⟨rfl, -⟩ := Prod.mk.inj (Option.some.inj (hz.symm.trans hstep))
      have hnone : c.attempts id [event] = 0 := by
        simp only [Client.attempts, hx, Option.any_some, isAttempting, hphase, Phase.isResting,
          Bool.false_and, Bool.and_false, Bool.false_eq_true, if_false]
      have hheard : c.redirects id [event] = [next] := by
        simp only [redirects, hturn, hx, Option.bind_some, hredirect, if_true, Option.map_some,
          Option.toList_some, List.append_nil]
      have hprevious : x.history ++ [x.url] = start :: heard := by
        rw [← h.visited hrunning, visited_eq rfl hphase]
        rfl
      have hpolicy : x.policy = first.policy := h.spends.policy
      rw [hprevious, hpolicy] at hheeds
      rw [hnone, hheard]
      exact h.redirect hredirect hheeds

/-- The account of an exchange after any number of events. -/
theorem account_run (hx : c.exchange? id = some x) (h : x.Account start first attempts heard)
    (events : List Event) : ∃ y, (c.run events).exchange? id = some y ∧
      y.Account start first (attempts + c.attempts id events)
        (heard ++ c.redirects id events) := by
  induction events generalizing c x attempts heard with
  | nil =>
    refine ⟨x, hx, ?_⟩
    rw [redirects, List.append_nil]
    exact h
  | cons event events ih =>
    obtain ⟨y, hy, hnext⟩ := account_step hx h event
    obtain ⟨z, hz, hlast⟩ := ih hy hnext
    refine ⟨z, hz, ?_⟩
    rw [attempts_cons, redirects_cons, ← Nat.add_assoc, ← List.append_assoc]
    exact hlast

/-- No event refills a budget. -/
theorem spends_step (hx : c.exchange? id = some x) (event : Event) :
    ∃ y, (c.step event).exchange? id = some y ∧ x.course.Spends y.course := by
  obtain ⟨y, hy, hfares⟩ := fares_step hx event
  refine ⟨y, hy, ?_⟩
  cases hfares with
  | rest hidle hrests => exact (allowance_rests (n := 0) hrests).2
  | step hevent hstep =>
    cases hredirect : x.redirect? c.shared with
    | none => exact (allowance_outcome (n := 0) (outcome_of_step hstep hredirect)).2
    | some found =>
      obtain ⟨z, u, hz, hheeds⟩ := step_of_redirect hredirect
      obtain ⟨rfl, -⟩ := Prod.mk.inj (Option.some.inj (hz.symm.trans hstep))
      exact .of_eq hheeds.1

/-- No number of events refills a budget. -/
theorem spends_run (hx : c.exchange? id = some x) (events : List Event) :
    ∃ y, (c.run events).exchange? id = some y ∧ x.course.Spends y.course := by
  induction events generalizing c x with
  | nil => exact ⟨x, hx, .refl _⟩
  | cons event events ih =>
    obtain ⟨y, hy, hless⟩ := spends_step hx event
    obtain ⟨z, hz, hmore⟩ := ih hy
    exact ⟨z, hz, hless.trans hmore⟩

/-- A step that hears a redirect is taken when it is the turn of the exchange. -/
theorem exchange?_of_redirect {head : Head} {next : Url} (hx : c.exchange? id = some x)
    (hredirect : x.redirect? c.shared = some (head, next)) :
    ∃ y, (c.step (.run (.exchange id))).exchange? id = some y ∧
      Heeds x.course head next (x.policy.check head.status next (x.history ++ [x.url])) y := by
  obtain ⟨z, u, hstep, hheeds⟩ := step_of_redirect hredirect
  obtain ⟨y, hy, hfares⟩ := fares_step hx (.run (.exchange id))
  cases hfares with
  | rest hidle =>
    rw [hidle rfl] at hstep
    cases hstep
  | step hevent hown =>
    obtain ⟨rfl, -⟩ := Prod.mk.inj (Option.some.inj (hstep.symm.trans hown))
    exact ⟨z, hy, hheeds⟩

/-- Attempts are bounded by the budgets. A request is submitted to any client, and after that
anything happens. Then no budget is ever refilled; as long as the exchange goes on its URLs are that
of the request and those of all redirects heard, which are the heads with one of the five statuses
and a location that leads on, and it is these URLs that the policy is asked about when the next one
is heard. With a limited policy there are no more attempts than the budgets allow, the redirects up
to the limit are followed, and the first above it ends the exchange. -/
theorem attempts_within_budgets (c : Client) (r : Request) (consumer : Option Consumer)
    (events : List Event) :
    let id := c.exchanges.length
    let begun := c.step (.submit r consumer)
    let reached := begun.run events
    let heard := begun.redirects id events
    let settings := c.shared.settings
    let policy := r.redirect.getD settings.redirectPolicy
    ∃ x, reached.exchange? id = some x ∧
      (∀ later, ∃ y, (reached.run later).exchange? id = some y ∧ x.course.Spends y.course) ∧
      (x.isRunning = true → x.visited = r.url :: heard) ∧
      (∀ head next, x.redirect? reached.shared = some (head, next) ↔
        x.isCut reached.shared = false ∧ (∃ l limit, x.phase = .sending l limit ∧
          (reached.shared.inbox l).answer = some (.head head)) ∧ head.SendsOn x.url next) ∧
      (∀ head next, x.redirect? reached.shared = some (head, next) →
        ∃ y, (reached.step (.run (.exchange id))).exchange? id = some y ∧
          Heeds x.course head next (policy.check head.status next (r.url :: heard)) y) ∧
      ∀ max, policy = .limited max →
        begun.attempts id events ≤
          1 + r.maxRetries.getD settings.maxRequestRetry + settings.maxAuthRetries + max ∧
        (heard.length ≤ max ∨
          ∃ before last, heard = before ++ [last] ∧ before.length = max ∧ x.IsRefused last) ∧
        ∀ head next, x.redirect? reached.shared = some (head, next) →
          ∃ y, (reached.step (.run (.exchange id))).exchange? id = some y ∧
            if heard.length < max then ∃ l limit, y.phase = .draining l 0 limit (.follow next)
            else y.IsRefused next := by
  intro id begun reached heard settings policy
  have hbegins : begun.exchange? id = some (Exchange.ofRequest c.shared r
      (consumer.map fun consumer => { consumer := consumer })) :=
    List.getElem?_concat_length
  obtain ⟨x, hx, haccount⟩ := account_run hbegins (.ofRequest c.shared r _) events
  rw [Nat.zero_add, List.nil_append] at haccount
  have hpolicy : x.policy = policy := haccount.spends.policy
  have hheeds : ∀ head next, x.redirect? reached.shared = some (head, next) →
      ∃ y, (reached.step (.run (.exchange id))).exchange? id = some y ∧
        Heeds x.course head next (policy.check head.status next (r.url :: heard)) y := by
    intro head next hredirect
    obtain ⟨l, limit, hphase⟩ := sending_of_redirect hredirect
    have hprevious : x.history ++ [x.url] = r.url :: heard := by
      rw [← haccount.visited (running hphase rfl), visited_eq rfl hphase]
      rfl
    have hown := exchange?_of_redirect hx hredirect
    rwa [hpolicy, hprevious] at hown
  refine ⟨x, hx, spends_run hx, haccount.visited, fun head next => redirect?_eq_some_iff, hheeds,
    fun max hmax => ⟨?_, ?_, ?_⟩⟩
  · have hallowed := haccount.allowed max hmax
    change begun.attempts id events + x.allowance max ≤
      1 + r.maxRetries.getD settings.maxRequestRetry + settings.maxAuthRetries + max at hallowed
    omega
  · exact haccount.refused max hmax
  · intro head next hredirect
    obtain ⟨y, hy, -, hnext⟩ := hheeds head next hredirect
    refine ⟨y, hy, ?_⟩
    rw [hmax] at hnext
    by_cases hlimit : heard.length < max
    · rw [if_pos hlimit]
      rwa [RedirectPolicy.check_of_le (by rw [List.length_cons]; omega)] at hnext
    · rw [if_neg hlimit]
      rw [RedirectPolicy.check_of_lt (by rw [List.length_cons]; omega)] at hnext
      exact ⟨head.status, hnext⟩

end Client

end HttpClient
