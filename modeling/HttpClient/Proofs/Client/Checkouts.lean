import HttpClient.Proofs.Client.Connections
import HttpClient.Proofs.Client.Events
import HttpClient.Proofs.Pool.Seniority

/-!
# Where the connection of a request comes from

A request goes on with a connection that it had, with one that was opened for it, or with one that
the pool had idle. Only the last is marked as used before, and it keeps the mark as long as the
request keeps the connection: so behind every marked connection of a request there is a turn in
which the request took it out of the idle set.
-/

namespace HttpClient

namespace Pool

variable {p q : Pool} {m : Moment} {l : Lease} {dead : List Opened}

/-- What is acquired was idle, and is marked. -/
theorem found_of_acquire {target : Target} (h : p.acquire m target = (some l, q, dead)) :
    l.reused = true ∧ ∃ e ∈ p.idle, e.toOpened = l.toOpened := by
  have hsublist := p.idle_reap_sublist m target
  rcases hreap : p.reap m target with ⟨p₁, dead₁⟩
  rw [hreap] at hsublist
  simp only [acquire, hreap, idle_bury] at h
  split at h
  · cases h
  · rename_i e hfind
    obtain rfl := Option.some.inj (congrArg Prod.fst h)
    have he := List.mem_reverse.mp (List.mem_of_find?_eq_some hfind)
    exact ⟨rfl, e, hsublist.subset he, rfl⟩

/-- What an attempt finds was idle, and is marked. -/
theorem found_of_attemptUntil {t : Ticket}
    (h : p.attemptUntil m t = (.ready (.idle l), q, dead)) :
    l.reused = true ∧ ∃ e ∈ p.idle, e.toOpened = l.toOpened := by
  rcases hacquire : p.acquire m t.target with ⟨found, p₁, expired⟩
  simp only [attemptUntil, attempt, hacquire] at h
  cases found with
  | some lease =>
    obtain rfl : lease = l := by simpa using congrArg Prod.fst h
    exact found_of_acquire hacquire
  | none =>
    rcases hreserve : p₁.reserve t.target with ⟨reservation, p₂, evicted⟩
    simp only [hreserve] at h
    cases reservation with
    | some r => cases h
    | none =>
      simp only [Option.map_none] at h
      split at h <;> cases h

end Pool

/-- A connection that the pool gives was idle, and is marked. -/
theorem Shared.found_of_asks {s t : Shared} {l : Lease} (h : s.Asks (.ready (.idle l)) t) :
    l.reused = true ∧ ∃ e ∈ s.pool.idle, e.toOpened = l.toOpened := by
  cases h with
  | checkout target wait heq =>
    unfold Pool.checkout at heq
    have hfound := Pool.found_of_attemptUntil heq
    exact hfound
  | resume ticket heq =>
    unfold Pool.resume at heq
    split at heq
    · cases heq
    · split at heq
      · have hfound := Pool.found_of_attemptUntil heq
        exact hfound
      · cases heq

/-- The connection that a phase needs. -/
def Phase.lease? : Phase → Option Lease
  | sending l _ | draining l _ _ _ => some l
  | _ => none

namespace Exchange

/-- The connection that an exchange goes on with, in use or kept for the next attempt. -/
def lease? (x : Exchange) : Option Lease := x.held.or x.phase.lease?

/-- How an exchange comes to go on with a connection. -/
inductive Gets (x : Exchange) (s : Shared) (y : Exchange) (l : Lease) : Prop
  /-- It had the connection. -/
  | keep {k} (hk : x.lease? = some k) (hsame : k.toOpened = l.toOpened)
    (hmark : k.reused = l.reused)
  /-- The connection was opened for it. -/
  | opened (hfresh : l.reused = false)
  /-- The connection was idle, and the request is out on it. -/
  | found {e limit} (he : e ∈ s.pool.idle) (hsame : e.toOpened = l.toOpened)
    (hphase : y.phase = .sending l limit)

variable {x y : Exchange} {s t : Shared} {l k : Lease} {target : Target} {head : Head}

/-- An exchange that keeps nothing goes on with what its phase needs. -/
theorem lease?_of_phase {phase : Phase} (hheld : x.held = none) (hphase : x.phase = phase) :
    x.lease? = phase.lease? := by
  rw [lease?, hheld, hphase, Option.none_or]

/-- What was kept stays so when an attempt is made again. -/
theorem lease?_retryOrFail {e : Error} {reused : Bool}
    (h : (x.retryOrFail s e reused).1.lease? = some l) : x.held = some l := by
  unfold retryOrFail at h
  dsimp only at h
  split at h
  · exact (Option.or_none).symm.trans h
  · cases h

/-- A request goes out on the connection of its attempt. -/
theorem lease?_attempt (hheld : x.held = none) (h : (x.attempt s target l).1.lease? = some k) :
    k = l ∧ ∃ limit, (x.attempt s target l).1.phase = .sending l limit := by
  unfold attempt at h ⊢
  rcases hbind : x.bind s l with ⟨y, t⟩
  rcases hcompose : y.compose t target with ⟨result, z, u⟩
  have hz : z.held = none := by
    rw [(attempt_frame hbind hcompose).1]
    exact hheld
  simp only [hbind, hcompose] at h ⊢
  cases result with
  | error e => cases hz.symm.trans (lease?_retryOrFail h)
  | ok message =>
    simp only [lease?, hz, Option.none_or, Phase.lease?, Option.some.injEq] at h
    exact ⟨h.symm, _, rfl⟩

/-- An exchange goes on at once only with what the pool had idle. -/
theorem lease?_checkedOut {status : CheckoutStatus} (hheld : x.held = none)
    (h : (x.checkedOut s target status).1.lease? = some l) :
    status = .ready (.idle l) ∧
      ∃ limit, (x.checkedOut s target status).1.phase = .sending l limit := by
  rcases status with (k | r) | ticket | _
  · obtain ⟨rfl, hphase⟩ := lease?_attempt hheld h
    exact ⟨rfl, hphase⟩
  · cases hheld.symm.trans ((Option.or_none).symm.trans h)
  · cases hheld.symm.trans ((Option.or_none).symm.trans h)
  · cases hheld.symm.trans (lease?_retryOrFail h)

/-- What an exchange goes on with that has asked the pool was idle there. -/
theorem found_of_checkedOut {status : CheckoutStatus} (hask : s.Asks status t)
    (hheld : x.held = none) (hown : (x.checkedOut t target status).1 = y)
    (hl : y.lease? = some l) :
    ∃ e ∈ s.pool.idle, e.toOpened = l.toOpened ∧ ∃ limit, y.phase = .sending l limit := by
  subst hown
  obtain ⟨rfl, hphase⟩ := lease?_checkedOut hheld hl
  obtain ⟨-, e, he, hsame⟩ := Shared.found_of_asks hask
  exact ⟨e, he, hsame, hphase⟩

/-- Asking for a connection is asking the pool. -/
theorem asks_checkout (s : Shared) (target : Target) :
    s.Asks (s.checkout target).1 (s.checkout target).2 := by
  rcases hcheckout : s.pool.checkout s.moment target s.settings.pool.acquireTimeout with
    ⟨status, p, dead⟩
  simp only [Shared.checkout, hcheckout]
  exact .checkout target _ hcheckout

/-- An exchange begins an attempt with what it kept, which leads where its URL leads, or with what
the pool had idle. -/
theorem gets_of_begin (haims : x.Aims s .empty) (hown : (x.begin s).1 = y)
    (hl : y.lease? = some l) : x.Gets s y l := by
  unfold begin at hown
  cases hurl : Target.ofUrl x.url with
  | error e =>
    rw [hurl] at hown
    subst hown
    cases hl
  | ok target =>
    simp only [hurl, connect] at hown
    cases hheld : x.held with
    | none =>
      simp only [hheld] at hown
      obtain ⟨e, he, hsame, limit, hphase⟩ :=
        found_of_checkedOut (asks_checkout s target) hheld hown hl
      exact .found he hsame hphase
    | some lease =>
      simp only [hheld] at hown
      split at hown
      · split at hown
        · subst hown
          obtain ⟨rfl, -⟩ := lease?_attempt rfl hl
          have hkept : x.lease? = some l := by rw [lease?, hheld, Option.some_or]
          exact .keep hkept rfl rfl
        · rename_i hother
          have hplace : (x.place .empty).target? = some lease.target := by
            simp only [place, hheld, Place.target?]
          exact absurd (Except.ok.inj ((haims.leads _ hplace).symm.trans hurl)) hother
      · obtain ⟨e, he, hsame, limit, hphase⟩ :=
          found_of_checkedOut (asks_checkout (s.discard lease) target) rfl hown hl
        rw [Shared.discard, Shared.pool_withPool] at he
        exact .found he hsame hphase

/-- An exchange that waited goes on with what the pool had idle. -/
theorem gets_of_resume {ticket : Nat} (hheld : x.held = none) (hown : (x.resume s ticket).1 = y)
    (hl : y.lease? = some l) : x.Gets s y l := by
  unfold resume at hown
  cases hurl : Target.ofUrl x.url with
  | error e =>
    rw [hurl] at hown
    subst hown
    cases hl
  | ok target =>
    rcases hresume : s.pool.resume s.moment ticket with ⟨status, p, dead⟩
    simp only [hurl, Shared.resume, hresume] at hown
    obtain ⟨e, he, hsame, limit, hphase⟩ :=
      found_of_checkedOut (.resume ticket hresume) hheld hown hl
    exact .found he hsame hphase

/-- With a final response an exchange goes on with nothing. -/
theorem lease?_answer (hheld : x.held = none) : (x.answer s head l).1.lease? = none := by
  unfold answer
  rcases hpark : x.park s l with ⟨y, t⟩
  have hy : y.held = none := by
    rw [(park_frame hpark).1]
    exact hheld
  simp only [lease?, hy, Phase.lease?, Option.none_or]

/-- To read a body an exchange goes on with the connection of the response. -/
theorem lease?_drain {after : AfterDrain} (hheld : x.held = none) :
    (x.drain s l after).lease? = some l := by
  simp only [lease?, drain, hheld, Phase.lease?, Option.none_or]

/-- After a challenge an exchange goes on at most with the connection of the response. -/
theorem lease?_onChallenge {realm : Realm} (hheld : x.held = none)
    (h : (x.onChallenge s target realm head l).1.lease? = some k) : k = l := by
  unfold onChallenge at h
  dsimp only at h
  split at h
  · split at h
    · exact Option.some.inj (h.symm.trans (lease?_drain hheld))
    · cases h
  · cases h
  · cases h.symm.trans (lease?_answer hheld)

/-- So it does after any other response. -/
theorem lease?_passOn (hheld : x.held = none) (h : (x.passOn s head l).1.lease? = some k) :
    k = l := by
  have hanswered : (x.answer s head l).1.lease? ≠ some k := by
    rw [lease?_answer hheld]
    nofun
  unfold passOn at h
  split at h
  · split at h
    · unfold onRedirect at h
      split at h
      · cases h
      · split at h
        · cases h
        · split at h
          · rcases hpark : x.park s l with ⟨y, t⟩
            have hturned : ∀ next, (y.turnTo t head.status next).held = none := by
              intro next
              rw [(park_frame hpark).1]
              exact hheld
            simp only [hpark] at h
            exact Option.some.inj (h.symm.trans (lease?_drain (hturned _)))
          · exact absurd h hanswered
          · cases h
    · exact absurd h hanswered
  · exact absurd h hanswered

/-- After a head an exchange goes on at most with the connection on which it was heard. -/
theorem lease?_headArrived (hheld : x.held = none)
    (h : (x.headArrived s head l).1.lease? = some k) : k = l.afterHead head := by
  unfold headArrived at h
  change ({ x with pending := none }.onHead s (l.afterHead head).target head
    (l.afterHead head)).1.lease? = some k at h
  rcases onHead_cases { x with pending := none } s (l.afterHead head).target head
    (l.afterHead head) with ⟨realm, -, heq⟩ | ⟨negotiator, heq⟩
  · rw [heq] at h
    exact lease?_onChallenge (x := { x with pending := none }) hheld h
  · rw [heq] at h
    exact lease?_passOn (x := { x with pending := none, negotiator := negotiator }) hheld h

/-- When a body is done with an exchange goes on at most with its connection. -/
theorem lease?_drained {whole : Bool} {after : AfterDrain} (hheld : x.held = none)
    (h : (x.drained s l whole after).1.lease? = some k) : k = l := by
  have hnone : ∀ y : Exchange, y.held = none → y.phase = .resting → y.lease? ≠ some k := by
    intro y hy hphase
    rw [lease?, hy, hphase]
    nofun
  unfold drained at h
  cases after with
  | answer header keepConnection =>
    dsimp only at h
    split at h
    · exact (Option.some.inj h).symm
    · split at h <;> exact absurd h (hnone _ hheld rfl)
  | follow next => exact absurd h (hnone _ hheld rfl)

/-- While it reads a body, and after that, an exchange goes on at most with its connection. -/
theorem lease?_drainStep {read : Nat} {limit : Option Nat} {after : AfterDrain}
    (hheld : x.held = none) (hstep : x.drainStep s l read limit after = some (y, t))
    (h : y.lease? = some k) : k = l := by
  have hdrained : ∀ whole : Bool, some (x.drained s l whole after) = some (y, t) → k = l := by
    intro whole heq
    have hown : (x.drained s l whole after).1 = y := congrArg Prod.fst (Option.some.inj heq)
    rw [← hown] at h
    exact lease?_drained hheld h
  unfold drainStep at hstep
  split at hstep
  · dsimp only at hstep
    split at hstep
    · exact hdrained false hstep
    · obtain ⟨rfl, -⟩ := Prod.mk.inj (Option.some.inj hstep)
      simp only [lease?, hheld, Phase.lease?, Option.none_or, Option.some.injEq] at h
      exact h.symm
  · exact hdrained _ hstep
  · obtain ⟨-, heq⟩ := Option.ite_none_right_eq_some.mp hstep
    exact hdrained false heq

/-- What an exchange goes on with after a step it had, or it was opened for it, or it was idle. -/
theorem gets_of_step (htidy : x.Tidy .empty) (haims : x.Aims s .empty)
    (hstep : x.step s = some (y, t)) (hl : y.lease? = some l) : x.Gets s y l := by
  have hrunning := running_of_step hstep
  by_cases hcut : x.isCut s = true
  · rw [step_of_cut hrunning hcut] at hstep
    obtain ⟨rfl, -⟩ := Prod.mk.inj (Option.some.inj hstep)
    cases hl
  rw [Bool.not_eq_true] at hcut
  rw [step_of_uncut hrunning hcut, proceed] at hstep
  have hown : ∀ {p : Exchange × Shared}, some p = some (y, t) → p.1 = y :=
    fun heq => congrArg Prod.fst (Option.some.inj heq)
  have hfails : x.held = none → ∀ {u : Shared} {e : Error} {reused : Bool},
      some (x.retryOrFail u e reused) = some (y, t) → x.Gets s y l := by
    intro hheld u e reused heq
    rw [← hown heq] at hl
    cases hheld.symm.trans (lease?_retryOrFail hl)
  cases hphase : x.phase with
  | resting =>
    simp only [hphase] at hstep
    exact gets_of_begin haims (hown hstep) hl
  | waiting ticket =>
    have hheld := htidy.held_of_phase hphase rfl
    simp only [hphase] at hstep
    exact gets_of_resume hheld (hown (Option.ite_none_right_eq_some.mp hstep).2) hl
  | dialing r transport limit =>
    have hheld := htidy.held_of_phase hphase rfl
    simp only [hphase] at hstep
    split at hstep
    · rw [← hown hstep] at hl
      obtain ⟨rfl, -⟩ := lease?_attempt hheld hl
      exact .opened rfl
    · exact hfails hheld hstep
    · exact hfails hheld (Option.ite_none_right_eq_some.mp hstep).2
  | sending m limit =>
    have hheld := htidy.held_of_phase hphase rfl
    have hhad : x.lease? = some m := lease?_of_phase hheld hphase
    simp only [hphase] at hstep
    split at hstep
    · rename_i head _
      rw [← hown hstep] at hl
      obtain rfl := lease?_headArrived hheld hl
      exact .keep hhad (m.toOpened_afterHead head).symm (m.reused_afterHead head).symm
    · exact hfails hheld hstep
    · exact hfails hheld (Option.ite_none_right_eq_some.mp hstep).2
  | draining m read limit after =>
    have hheld := htidy.held_of_phase hphase rfl
    have hhad : x.lease? = some m := lease?_of_phase hheld hphase
    simp only [hphase] at hstep
    obtain rfl := lease?_drainStep hheld hstep hl
    exact .keep hhad rfl rfl
  | answered | failed | dropped =>
    rw [isRunning_eq, hphase] at hrunning
    cases hrunning

end Exchange

namespace Client

open Snapshot Exchange

variable {settings : Settings} {supply : Supply} {id : ExchangeId} {x : Exchange} {l : Lease}

/-- True of an exchange that takes a connection out of the idle set: the connection is idle, and
after the next step the request is out on it. -/
def Takes (o : Opened) (c : Client) (x : Exchange) : Prop :=
  (∃ e ∈ c.shared.pool.idle, e.toOpened = o) ∧
    ∃ y t l limit, x.step c.shared = some (y, t) ∧ y.phase = .sending l limit ∧ l.toOpened = o

/-- Whatever happens, a marked connection with which an exchange goes on is one that it took out of
the idle set. -/
theorem takes_of_reused (settings : Settings) (supply : Supply) (events : List Event)
    (hx : ((Client.make settings supply).run events).exchange? id = some x)
    (hrunning : x.isRunning = true) (hl : x.lease? = some l) (hreused : l.reused = true) :
    (Client.make settings supply).HadTurn events id (Takes l.toOpened) := by
  let start := Client.make settings supply
  have hrun := run_kept_since
    (P := fun past c j => c = start.run past ∧ Reachable settings supply ⟨c, 0, .empty, j⟩ ∧
      ∀ x l, c.exchange? id = some x → x.isRunning = true → x.lease? = some l → l.reused = true →
        start.HadTurn past id (Takes l.toOpened))
    (fun past c j event hkeeping => by
      obtain ⟨rfl, hreach, hmarked⟩ := hkeeping
      refine ⟨(run_append start past [event]).symm, hreach.event event,
        fun y l hy hrunning hl hreused => ?_⟩
      cases hx : (start.run past).exchange? id with
      | none =>
        obtain ⟨request, consumer, -, -, delivery, rfl⟩ := submitted_of_step hx hy
        cases hl
      | some x =>
        rcases stays_of_step hx hy hrunning with rfl | ⟨t, rfl, hstep, -⟩
        · exact (hmarked y l hx hrunning hl hreused).concat event
        · obtain ⟨htidy, haims⟩ := (hreach.next (.turn id)).sound.actor hx
          cases gets_of_step htidy haims hstep hl with
          | keep hk hsame hmark =>
            rw [← hsame]
            exact (hmarked x _ hx (running_of_step hstep) hk (hmark.trans hreused)).concat _
          | opened hfresh => cases hfresh.symm.trans hreused
          | found he hsame hphase =>
            exact .last hx ⟨⟨_, he, hsame⟩, y, t, l, _, hstep, hphase, rfl⟩)
    [] events ⟨rfl, .start, fun x l hx => by cases hx⟩
  exact hrun.2.2 x l hx hrunning hl hreused

end Client

end HttpClient
