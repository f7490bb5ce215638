import HttpClient.Proofs.Auth.Schemes
import HttpClient.Proofs.Exchange.Turns

/-!
# Moves as authentication sees them

Most moves leave negotiator state, realm and pending credentials alone. The others choose the state
for a connection, take in a head, park a state, or make credentials pending at the end of a body;
the state that is chosen is a fresh one, the one parked for the connection, or the one that goes
with the pending credentials.
-/

namespace HttpClient

/-- True for a request and for a head. -/
def Note.isTraffic : Note → Bool
  | sent _ _ _ | heard _ _ _ _ _ => true
  | dial _ _ | skipped _ _ | streamed _ _ | broke _ => false

/-- True when no request to the current URL goes out any more. -/
def Phase.isSettled : Phase → Bool
  | draining _ _ _ (.follow _) | answered _ _ | failed _ | dropped => true
  | resting | waiting _ | dialing _ _ _ | sending _ _ | draining _ _ _ (.answer _ _) => false

/-- True while a request is out, and until the challenge in its response is answered. -/
def Phase.isBusy : Phase → Bool
  | sending _ _ | draining _ _ _ (.answer _ _) => true
  | resting | waiting _ | dialing _ _ _ | draining _ _ _ (.follow _) => false
  | answered _ _ | failed _ | dropped => false

namespace Exchange

/-- The second exchange stands where the first one stood. -/
structure Stands (x y : Exchange) : Prop where
  realm : y.realm = x.realm
  state : y.negotiator = x.negotiator
  pending : y.pending = x.pending
  settled : y.phase.isSettled = false → x.phase.isSettled = false
  sending : ∀ l limit, y.phase = .sending l limit → y = { x with delivery := y.delivery }
  answering : ∀ l read limit header keep, y.phase = .draining l read limit (.answer header keep) →
    ∃ read limit, x.phase = .draining l read limit (.answer header keep)

/-- What a move does to the state of authentication. -/
inductive Conduct : Scene → List Note → Scene → Prop
  /-- Nothing happens that matters. -/
  | carry {x s h notes y t h'} (hstands : x.Stands y)
    (hnotes : ∀ note ∈ notes, note.isTraffic = false)
    (harena : t.arena.entries ⊆ s.arena.entries) : Conduct ⟨x, s, h⟩ notes ⟨y, t, h'⟩
  | send {x s l target message y t z u} (limit : Option Nat)
    (htarget : Target.ofUrl x.url = .ok target ∨ l.target = target)
    (hbind : x.bind s l = (y, t)) (hcompose : y.compose t target = (.ok message, z, u)) :
    Conduct ⟨x, s, .ready l⟩ [.sent l.transport message { z with phase := .sending l limit }]
      ⟨{ z with phase := .sending l limit }, u.send l message, .empty⟩
  | misfit {x s l target e y t z u} (hbind : x.bind s l = (y, t))
    (hcompose : y.compose t target = (.error e, z, u)) :
    Conduct ⟨x, s, .ready l⟩ [] ⟨z, u, .spent l⟩
  | challenge {x s l limit head header keep negotiator supply y t} (next : Option Nat)
    (hphase : x.phase = .sending l limit)
    (hjudged : x.judged s l head = (some (.retry header keep), negotiator, supply))
    (hrealm : y.realm = x.realm) (hstate : y.negotiator = negotiator) (hpending : y.pending = none)
    (hnext : y.phase = .draining (l.afterHead head) 0 next (.answer header keep))
    (harena : t.arena = s.arena) :
    Conduct ⟨x, s, .empty⟩ [x.headNote s l head] ⟨y, t, .empty⟩
  /-- The state is parked where the connection goes on without it. -/
  | part {x s l limit head y t} (hphase : x.phase = .sending l limit) (hpending : y.pending = none)
    (hsettled : y.phase.isSettled = true)
    (hparked : ∀ e ∈ t.arena.entries,
      (e ∈ s.arena.entries ∧ (x.realm.isSome = true → e.conn ≠ l.id)) ∨
        ∃ realm, x.realm = some realm ∧ e = ⟨l.id, realm.key, (x.judged s l head).2.1⟩) :
    Conduct ⟨x, s, .empty⟩ [x.headNote s l head] ⟨y, t, .empty⟩
  | reject {x s l limit head y t h'} (hphase : x.phase = .sending l limit)
    (hrealm : y.realm = x.realm) (hstate : y.negotiator = (x.judged s l head).2.1)
    (hpending : y.pending = none) (hresting : y.phase = .resting) (harena : t.arena = s.arena) :
    Conduct ⟨x, s, .empty⟩ [x.headNote s l head] ⟨y, t, h'⟩
  /-- A body that is dropped is over. -/
  | turn {x s l read limit after note h'} (hphase : x.phase = .draining l read limit after)
    (hnote : note.isTraffic = false)
    (hhand : h' = .rested l after.keeps ∨ h' = .spent l) :
    Conduct ⟨x, s, .empty⟩ [note] ⟨x.turned l after, s, h'⟩

variable {x y z : Exchange} {s t u : Shared} {l : Lease} {realm : Realm} {target : Target}
  {h h' : Hand} {notes : List Note}

/-- While requests may go out the state belongs to the scheme of the realm. -/
def Negotiates (x : Exchange) : Prop :=
  ∀ realm, x.realm = some realm → x.phase.isSettled = false →
    x.negotiator.scheme? = some realm.scheme

/-- A state that an attempt on a connection may begin with: a fresh one, or the one that was parked
for the connection. -/
def Chosen (s : Shared) (l : Lease) (realm : Realm) (n : Negotiator) : Prop :=
  n = Negotiator.ofRealm (some realm) ∨ ⟨l.id, realm.key, n⟩ ∈ s.arena.entries

/-- What becomes of state and pending credentials when a connection is chosen. -/
structure Bound (x : Exchange) (s : Shared) (l : Lease) (realm : Realm) (y : Exchange)
    (t : Shared) : Prop where
  taken : ∀ e ∈ t.arena.entries, e ∈ s.arena.entries ∧ e.conn ≠ l.id
  state : y.negotiator = x.negotiator ∨ ⟨l.id, realm.key, y.negotiator⟩ ∈ s.arena.entries ∨
    y.negotiator = Negotiator.ofRealm (some realm) ∧ y.pending = none
  pending : y.pending = none ∨
    y.pending = x.pending ∧ ∀ p, x.pending = some p → ∀ conn, p.conn = some conn → conn = l.id
  fresh : x.negotiator.isConnectionScoped = true → y.pending = none →
    Chosen s l realm y.negotiator

theorem bound_of_bind (hrealm : x.realm = some realm) (h : x.bind s l = (y, t)) :
    Bound x s l realm y t := by
  rcases htake : s.arena.take l.id realm.key with ⟨stored, arena⟩
  have htaken : ∀ e ∈ arena.entries, e ∈ s.arena.entries ∧ e.conn ≠ l.id :=
    fun e he => Arena.mem_of_take htake he
  have hstored : ∀ n, stored = some n → ⟨l.id, realm.key, n⟩ ∈ s.arena.entries := by
    rintro n rfl
    exact Arena.stored_of_take htake
  simp only [bind, hrealm, Shared.unpark, htake] at h
  by_cases hforeign : (x.pending.any fun p => p.conn.any (· ≠ l.id)) = true
  · rw [if_pos hforeign] at h
    obtain ⟨rfl, rfl⟩ := Prod.mk.injEq .. ▸ h
    cases stored with
    | none => exact ⟨htaken, Or.inr (Or.inr ⟨rfl, rfl⟩), Or.inl rfl, fun _ _ => Or.inl rfl⟩
    | some n =>
      have hparked := hstored n rfl
      exact ⟨htaken, Or.inr (Or.inl hparked), Or.inl rfl, fun _ _ => Or.inr hparked⟩
  · rw [if_neg hforeign] at h
    have hown : ∀ p, x.pending = some p → ∀ conn, p.conn = some conn → conn = l.id := by
      intro p hp conn hconn
      by_contra hne
      refine hforeign ?_
      rw [hp, Option.any_some, hconn, Option.any_some, decide_eq_true_eq]
      exact hne
    cases stored with
    | some n =>
      by_cases hswap : (x.negotiator.isConnectionScoped || x.pending.isNone) = true
      · simp only [hswap, if_true, Prod.mk.injEq] at h
        obtain ⟨rfl, rfl⟩ := h
        have hparked := hstored n rfl
        exact ⟨htaken, Or.inr (Or.inl hparked), Or.inr ⟨rfl, hown⟩, fun _ _ => Or.inr hparked⟩
      · simp only [hswap, if_false, Prod.mk.injEq, Bool.false_eq_true] at h
        obtain ⟨rfl, rfl⟩ := h
        refine ⟨htaken, Or.inl rfl, Or.inr ⟨rfl, hown⟩, fun hscoped => ?_⟩
        rw [hscoped, Bool.true_or] at hswap
        exact absurd rfl hswap
    | none =>
      by_cases hfresh : (x.negotiator.isConnectionScoped && x.pending.isNone) = true
      · simp only [hfresh, if_true, Prod.mk.injEq] at h
        obtain ⟨rfl, rfl⟩ := h
        have hnone : x.pending = none :=
          Option.isNone_iff_eq_none.mp (Bool.and_eq_true_iff.mp hfresh).2
        exact ⟨htaken, Or.inr (Or.inr ⟨rfl, hnone⟩), Or.inr ⟨rfl, hown⟩, fun _ _ => Or.inl rfl⟩
      · simp only [hfresh, if_false, Prod.mk.injEq, Bool.false_eq_true] at h
        obtain ⟨rfl, rfl⟩ := h
        refine ⟨htaken, Or.inl rfl, Or.inr ⟨rfl, hown⟩, fun hscoped hnone => ?_⟩
        rw [hscoped, hnone] at hfresh
        exact absurd rfl hfresh

/-- Choosing a connection takes at most what is parked for it. -/
theorem arena_of_bind (hbind : x.bind s l = (y, t)) :
    t.arena.entries.Sublist s.arena.entries := by
  cases hrealm : x.realm with
  | none =>
    simp only [bind, hrealm] at hbind
    obtain ⟨-, rfl⟩ := Prod.mk.inj hbind
    exact List.Sublist.refl _
  | some realm =>
    have htaken : t.arena = (s.unpark l realm).2.arena := by
      simp only [bind, hrealm] at hbind
      split at hbind
      · rw [← (Prod.mk.inj hbind).2]
      · split at hbind <;> split at hbind <;> rw [← (Prod.mk.inj hbind).2]
    rw [htaken]
    exact Arena.sublist_take rfl

/-- Making a message parks nothing. -/
theorem arena_of_compose {result : Except Error Message}
    (hcompose : x.compose s target = (result, y, t)) : t.arena = s.arena := by
  obtain ⟨credentials, hcredentials⟩ := compose_frame hcompose
  rw [(credentials_frame hcredentials).2]

/-- The credentials of a request of a realm: those that are pending, or what the state makes
unasked, if anything. -/
theorem credentials_cases {value : Option HeaderValue} (hrealm : x.realm = some realm)
    (h : x.credentials s target = (.ok value, y, t)) :
    (∃ p, x.pending = some p ∧ value = some p.header ∧ y.negotiator = x.negotiator) ∨
      x.pending = none ∧ (value = none ∧ y.negotiator = x.negotiator ∨
        x.negotiator.preempt realm (x.authRequest target) s.supply =
          (.ok value, y.negotiator, t.supply)) := by
  unfold credentials at h
  rw [hrealm] at h
  cases hpending : x.pending with
  | some p =>
    simp only [hpending, Prod.mk.injEq, Except.ok.injEq] at h
    obtain ⟨rfl, rfl, rfl⟩ := h
    exact Or.inl ⟨p, rfl, rfl, rfl⟩
  | none =>
    refine Or.inr ⟨rfl, ?_⟩
    simp only [hpending] at h
    split at h
    · rcases hpreempt : x.negotiator.preempt realm (x.authRequest target) s.supply with
        ⟨result, n, supply⟩
      simp only [hpreempt, Prod.mk.injEq] at h
      obtain ⟨rfl, rfl, rfl⟩ := h
      exact Or.inr rfl
    · simp only [Prod.mk.injEq, Except.ok.injEq] at h
      obtain ⟨rfl, rfl, rfl⟩ := h
      exact Or.inl ⟨rfl, rfl⟩

/-- Choosing the credentials leaves the scheme of the state. -/
theorem scheme?_credentials {result : Except Failure (Option HeaderValue)}
    (h : x.credentials s target = (result, y, t)) :
    y.negotiator.scheme? = x.negotiator.scheme? := by
  unfold credentials at h
  split at h
  · simp only [Prod.mk.injEq] at h
    rw [← h.2.1]
  · simp only [Prod.mk.injEq] at h
    rw [← h.2.1]
  · split at h
    · simp only [Prod.mk.injEq] at h
      rw [← h.2.1]
      exact Negotiator.scheme?_preempt ..
    · simp only [Prod.mk.injEq] at h
      rw [← h.2.1]

/-- Up to its message an attempt leaves the state with the scheme of the realm. -/
theorem scheme?_attempt {result : Except Error Message} (hrealm : x.realm = some realm)
    (hschemes : ∀ e ∈ s.arena.entries, e.negotiator.scheme? = some e.realm.scheme)
    (hscheme : x.negotiator.scheme? = some realm.scheme) (hbind : x.bind s l = (y, t))
    (hcompose : y.compose t target = (result, z, u)) :
    z.negotiator.scheme? = some realm.scheme := by
  obtain ⟨credentials, hcredentials⟩ := compose_frame hcompose
  rw [scheme?_credentials hcredentials]
  rcases (bound_of_bind hrealm hbind).state with hsame | hparked | ⟨hfresh, -⟩
  · rw [hsame]
    exact hscheme
  · exact hschemes _ hparked
  · rw [hfresh]
    exact Negotiator.scheme?_ofScheme _

/-- A head leaves the scheme of the state. -/
@[simp] theorem scheme?_judged (x : Exchange) (s : Shared) (l : Lease) (head : Head) :
    (x.judged s l head).2.1.scheme? = x.negotiator.scheme? := by
  unfold judged
  split
  · rfl
  · split
    · exact Negotiator.scheme?_onChallenge ..
    · exact Negotiator.scheme?_onSuccess _

/-- The answer to a challenge asks for the connection to be kept. -/
theorem keep_of_judged {head : Head} {header : HeaderValue} {keep : Bool} {n : Negotiator}
    {supply : Supply} (h : x.judged s l head = (some (.retry header keep), n, supply)) :
    keep = true := by
  unfold judged at h
  split at h
  · cases h
  · rename_i realm _
    split at h
    · rcases hanswer : x.negotiator.onChallenge
        (Challenge.ofValues (head.headers.values realm.target.challengeHeader)) realm
        (x.authRequest l.target) s.supply with ⟨action, next, left⟩
      simp only [hanswer, Prod.mk.injEq, Option.some.injEq] at h
      obtain ⟨rfl, -, rfl⟩ := h
      exact Negotiator.keep_of_onChallenge hanswer
    · cases h

/-- What is parked after an exchange parted with its state. -/
theorem mem_park {e : Parked} (h : x.park s l = (y, t)) (he : e ∈ t.arena.entries) :
    (e ∈ s.arena.entries ∧ (x.realm.isSome = true → e.conn ≠ l.id)) ∨
      ∃ realm, x.realm = some realm ∧ e = ⟨l.id, realm.key, x.negotiator⟩ := by
  unfold park at h
  split at h
  · rename_i realm hrealm
    obtain ⟨-, rfl⟩ := Prod.mk.injEq .. ▸ h
    rcases Arena.mem_put he with ⟨hold, hne⟩ | hnew
    · exact Or.inl ⟨hold, fun _ => hne⟩
    · exact Or.inr ⟨realm, hrealm, hnew⟩
  · rename_i hrealm
    obtain ⟨-, rfl⟩ := Prod.mk.injEq .. ▸ h
    exact Or.inl ⟨he, fun hsome => absurd hsome (by rw [hrealm]; nofun)⟩

/-- What the pump hears is no traffic. -/
theorem isTraffic_pumpHears {note : Note} (hnote : note ∈ x.pumpHears s) :
    note.isTraffic = false := by
  unfold pumpHears at hnote
  split at hnote
  · split at hnote
    · cases hnote
    · split at hnote
      · cases hnote
      · split at hnote
        · obtain rfl := List.mem_singleton.mp hnote
          rfl
        · split at hnote
          · obtain rfl := List.mem_singleton.mp hnote
            rfl
          · cases hnote
  · cases hnote

/-- An exchange that is not busy stands where it stood after a change of what has nothing to do with
authentication. -/
theorem Stands.of_phase (hrealm : y.realm = x.realm) (hstate : y.negotiator = x.negotiator)
    (hpending : y.pending = x.pending)
    (hphase : y.phase.isSettled = true ∨ x.phase.isSettled = false)
    (hbusy : y.phase.isBusy = false) : x.Stands y where
  realm := hrealm
  state := hstate
  pending := hpending
  settled := fun hy => hphase.resolve_left (by rw [hy]; rintro ⟨⟩)
  sending := by
    intro l limit hy
    rw [hy] at hbusy
    cases hbusy
  answering := by
    intro l read limit header keep hy
    rw [hy] at hbusy
    cases hbusy

/-- An exchange that goes on resting stands where it stood. -/
theorem Stands.of_resting (hx : x.phase = .resting) (hy : y.phase = .resting)
    (hrealm : y.realm = x.realm) (hstate : y.negotiator = x.negotiator)
    (hpending : y.pending = x.pending) : x.Stands y := by
  refine .of_phase hrealm hstate hpending (Or.inr ?_) ?_
  · rw [hx]
    rfl
  · rw [hy]
    rfl

theorem Stands.refl (x : Exchange) : x.Stands x :=
  ⟨rfl, rfl, rfl, fun hx => hx, fun _ _ _ => rfl, fun _ read limit _ _ hx => ⟨read, limit, hx⟩⟩

/-- Asking the pool parks nothing. -/
theorem arena_of_asked {status : CheckoutStatus} (hask : x.Asked s target status t) :
    t.arena.entries ⊆ s.arena.entries := by
  cases asks_of_asked hask <;> exact Shared.arena_withPool ..

/-- Who asks for a connection still has a request to send. -/
theorem isSettled_of_asked {status : CheckoutStatus} (hask : x.Asked s target status t) :
    x.phase.isSettled = false := by
  cases hask with
  | first hphase => rw [hphase]; rfl
  | again ticket hphase => rw [hphase]; rfl

/-- Every move is one of these for authentication. -/
theorem conduct_of_move (htidy : x.Tidy h) (hm : Move ⟨x, s, h⟩ notes ⟨y, t, h'⟩) :
    Conduct ⟨x, s, h⟩ notes ⟨y, t, h'⟩ := by
  have hsilent : ∀ note ∈ ([] : List Note), note.isTraffic = false :=
    fun note hnote => absurd hnote List.not_mem_nil
  have hsingle : ∀ {n : Note}, n.isTraffic = false → ∀ note ∈ [n], note.isTraffic = false := by
    intro n hn note hnote
    rw [List.mem_singleton.mp hnote]
    exact hn
  cases hm with
  | take hheld =>
    have hresting := (htidy.held (by rw [hheld]; rfl)).1
    exact .carry (.of_resting hresting hresting rfl rfl rfl) hsilent (List.Subset.refl _)
  | giveBack | store => exact .carry (.refl _) hsilent (Shared.arena_withPool ..)
  | spoil => exact .carry (.refl _) hsilent (List.Subset.refl _)
  | close => exact .carry (.refl _) hsilent (Shared.arena_withPool ..)
  | refuse hurl hask =>
    exact .carry (.of_phase rfl rfl rfl (Or.inr (isSettled_of_asked hask)) rfl) hsilent
      (arena_of_asked hask)
  | queue hurl hask =>
    exact .carry (.of_phase rfl rfl rfl (Or.inr (isSettled_of_asked hask)) rfl) hsilent
      (arena_of_asked hask)
  | find hurl hask =>
    exact .carry (.of_phase rfl rfl rfl (Or.inr (isSettled_of_asked hask)) rfl) hsilent
      (arena_of_asked hask)
  | dial limit hurl hask =>
    have harena := arena_of_asked hask
    exact .carry (.of_phase rfl rfl rfl (Or.inr (isSettled_of_asked hask)) rfl)
      (hsingle rfl) harena
  | establish hphase | abandon hphase | leave hphase =>
    have hbefore : x.phase.isSettled = false := by rw [hphase]; rfl
    exact .carry (.of_phase rfl rfl rfl (Or.inr hbefore) rfl) hsilent
      (List.Subset.refl _)
  | send limit htarget hbind hcompose => exact .send limit htarget hbind hcompose
  | misfit hbind hcompose => exact .misfit hbind hcompose
  | retry e reused hphase =>
    exact .carry (.of_resting hphase hphase rfl rfl rfl) hsilent (List.Subset.refl _)
  | finish phase delivery hphase hheld hend =>
    rcases hend with rfl | ⟨e, rfl⟩ <;>
    exact .carry (.of_phase rfl rfl rfl (Or.inl rfl) rfl) hsilent (List.Subset.refl _)
  | challenge next hphase hanswer hjudged hbudget =>
    exact .challenge next hphase hjudged rfl rfl rfl rfl rfl
  | @follow x s l limit head action negotiator supply url y t next hphase hanswer hjudged hstatus
      hhttp hcheck hpark =>
    have hframe := (park_frame hpark).1
    refine .part hphase ?_ rfl fun e he => ?_
    · simp only [turnTo]
      rw [hframe]
    · have hparked := mem_park hpark he
      simp only [hjudged, Lease.id_afterHead] at hparked ⊢
      exact hparked
  | @answer x s l limit head action negotiator supply y t hphase hanswer hjudged hpark =>
    have hframe := (park_frame hpark).1
    refine .part hphase ?_ rfl fun e he => ?_
    · simp only
      rw [hframe]
    · have hparked := mem_park hpark he
      simp only [hjudged, Lease.id_afterHead] at hparked ⊢
      exact hparked
  | reject hphase hanswer hjudged =>
    refine .reject hphase rfl ?_ rfl rfl rfl
    rw [hjudged]
  | lose hphase =>
    have hbefore : x.phase.isSettled = false := by rw [hphase]; rfl
    exact .carry (.of_phase rfl rfl rfl (Or.inr hbefore) rfl) (hsingle rfl) (List.Subset.refl _)
  | quit hphase =>
    exact .carry (.of_phase rfl rfl rfl (Or.inl rfl) rfl) (hsingle rfl) (List.Subset.refl _)
  | @skim x s l read limit after bytes isLast inbox hphase hread hle =>
    refine .carry ⟨rfl, rfl, rfl, fun hy => ?_, fun k limit' hy => ?_,
      fun k read' limit' header keep hy => ?_⟩ (hsingle rfl) (List.Subset.refl _)
    · rw [hphase]
      cases after with
      | answer => rfl
      | follow => cases hy
    · cases hy
    · obtain ⟨rfl, -, -, rfl⟩ := Phase.draining.inj hy
      exact ⟨read, limit, hphase⟩
  | rest hphase => exact .turn hphase rfl (Or.inl rfl)
  | spill hphase => exact .turn hphase rfl (Or.inr rfl)
  | tire hphase => exact .turn hphase rfl (Or.inr rfl)
  | keep hphase =>
    exact .carry (.of_resting hphase hphase rfl rfl rfl) hsilent (List.Subset.refl _)
  | @pump x s head body next effect inbox hphase hpump =>
    refine .carry (.of_phase rfl rfl rfl (Or.inl rfl) rfl)
      (fun note => isTraffic_pumpHears) ?_
    cases body.lease <;> exact List.Subset.refl _
  | touch next delivery hphase =>
    exact .carry (.of_phase rfl rfl rfl (Or.inl rfl) rfl) hsilent (List.Subset.refl _)
  | hush delivery =>
    have hstands : x.Stands { x with delivery := delivery } :=
      ⟨rfl, rfl, rfl, fun hx => hx, fun _ _ _ => rfl, fun _ read limit _ _ hx => ⟨read, limit, hx⟩⟩
    exact .carry hstands hsilent (List.Subset.refl _)

/-- What an exchange sends: the message of an attempt on the connection in hand, which leads to the
target of its URL. -/
inductive Sends (x : Exchange) (s : Shared) : Hand → TransportId → Message → Exchange → Prop
  | intro {l message y t z u} (limit : Option Nat) (hurl : Target.ofUrl x.url = .ok l.target)
    (hbind : x.bind s l = (y, t)) (hcompose : y.compose t l.target = (.ok message, z, u)) :
    Sends x s (.ready l) l.transport message { z with phase := .sending l limit }

/-- What is noted as sent was sent, and the exchange stands as noted. -/
theorem sends_of_conduct {transport : TransportId} {message : Message} {after : Exchange}
    (haims : x.Aims s h) (hconduct : Conduct ⟨x, s, h⟩ notes ⟨y, t, h'⟩)
    (hnote : .sent transport message after ∈ notes) :
    x.Sends s h transport message after ∧ after = y := by
  have hhead : ∀ {l : Lease} {head : Head}, .sent transport message after ∉
      [x.headNote s l head] := fun hmem => by cases List.mem_singleton.mp hmem
  cases hconduct with
  | carry hstands hnotes => cases hnotes _ hnote
  | misfit => cases hnote
  | challenge | part | reject => exact absurd hnote hhead
  | turn hphase htraffic =>
    rw [← List.mem_singleton.mp hnote] at htraffic
    cases htraffic
  | @send x s l target found y t z u limit htarget hbind hcompose =>
    obtain ⟨rfl, rfl, rfl⟩ := Note.sent.inj (List.mem_singleton.mp hnote)
    have hled := haims.leads l.target rfl
    obtain rfl : l.target = target := by
      rcases htarget with hurl | hsame
      · exact Except.ok.inj (hled.symm.trans hurl)
      · exact hsame
    exact ⟨.intro limit hled hbind hcompose, rfl⟩

/-- What is noted as heard is the head of an answer that an exchange waited for, with what the
exchange made of it. -/
theorem hears_of_conduct {l : Lease} {head : Head} {realm : Option Realm}
    {answer : Option HeaderValue} {state : Negotiator}
    (hconduct : Conduct ⟨x, s, h⟩ notes ⟨y, t, h'⟩)
    (hnote : .heard l head realm answer state ∈ notes) :
    ∃ limit, x.phase = .sending l limit ∧
      .heard l head realm answer state = x.headNote s l head := by
  have hhead : ∀ {k : Lease} {limit : Option Nat} {part : Head}, x.phase = .sending k limit →
      .heard l head realm answer state ∈ [x.headNote s k part] →
        ∃ limit, x.phase = .sending l limit ∧
          .heard l head realm answer state = x.headNote s l head := by
    intro k limit part hphase hmem
    have hsame := List.mem_singleton.mp hmem
    obtain ⟨rfl, rfl, -, -, -⟩ := Note.heard.inj hsame
    exact ⟨limit, hphase, hsame⟩
  cases hconduct with
  | carry hstands hnotes => cases hnotes _ hnote
  | misfit => cases hnote
  | send => cases List.mem_singleton.mp hnote
  | challenge next hphase => exact hhead hphase hnote
  | part hphase | reject hphase => exact hhead hphase hnote
  | turn hphase htraffic =>
    rw [← List.mem_singleton.mp hnote] at htraffic
    cases htraffic

end Exchange

end HttpClient
