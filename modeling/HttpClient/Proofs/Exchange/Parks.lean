import HttpClient.Proofs.Exchange.Conduct
import HttpClient.Proofs.Exchange.Outcomes

/-!
# What is parked, and for whom

A move takes states out of the arena, or parks the one that a head has led to for the connection of
the request that was out. From its attempt until such a head an exchange goes on with its
connection, because every answer to a challenge asks for the connection to be kept; and where it
does not go on with it the connection is closed.
-/

namespace HttpClient

namespace Arena

variable {a b : Arena} {conn : ConnId} {key : RealmKey} {e : Parked}

/-- At most one state is parked for a connection. -/
def IsSingle (a : Arena) : Prop := (a.entries.map Parked.conn).Nodup

/-- What is left is what was parked for other connections. -/
theorem mem_removeAll {conns : List ConnId} :
    e ∈ (a.removeAll conns).entries ↔ e ∈ a.entries ∧ e.conn ∉ conns := by
  unfold removeAll
  induction conns generalizing a with
  | nil => simp only [List.foldl_nil, List.not_mem_nil, not_false_eq_true, and_true]
  | cons conn conns ih =>
    rw [List.foldl_cons, ih, remove, List.mem_filter, bne_iff_ne, List.mem_cons, not_or, and_assoc]

theorem sublist_removeAll (a : Arena) (conns : List ConnId) :
    (a.removeAll conns).entries.Sublist a.entries := by
  unfold removeAll
  induction conns generalizing a with
  | nil => exact List.Sublist.refl _
  | cons conn conns ih => exact (ih _).trans List.filter_sublist

theorem IsSingle.of_sublist (h : a.IsSingle) (hsub : b.entries.Sublist a.entries) : b.IsSingle :=
  List.Nodup.sublist (hsub.map _) h

/-- A state that is parked takes the place of the one before. -/
theorem IsSingle.put (h : a.IsSingle) (conn : ConnId) (key : RealmKey) (n : Negotiator) :
    (a.put conn key n).IsSingle := by
  have hrest : (a.remove conn).IsSingle := h.of_sublist List.filter_sublist
  have hnew : conn ∉ (a.remove conn).entries.map Parked.conn := by
    intro hmem
    obtain ⟨e, he, hsame⟩ := List.mem_map.mp hmem
    exact bne_iff_ne.mp (List.mem_filter.mp he).2 hsame
  rw [IsSingle, Arena.put, List.map_append, List.map_singleton]
  refine List.nodup_append.mpr ⟨hrest, List.nodup_singleton _, fun c hc d hd hsame => hnew ?_⟩
  obtain rfl := List.mem_singleton.mp hd
  exact hsame ▸ hc

end Arena

namespace Shared

/-- Nothing is parked any more for connections that left the pool. -/
theorem arena_withPool_eq (s : Shared) (p : Pool) (dead : List Opened) :
    (s.withPool p dead).arena = s.arena.removeAll (dead.map Opened.id) := by
  have hbury : ∀ s : Shared,
      (dead.foldl bury s).arena = s.arena.removeAll (dead.map Opened.id) := by
    induction dead with
    | nil => exact fun s => rfl
    | cons o dead ih => exact fun s => ih (s.bury o)
  exact hbury { s with pool := p }

theorem sublist_withPool (s : Shared) (p : Pool) (dead : List Opened) :
    (s.withPool p dead).arena.entries.Sublist s.arena.entries := by
  rw [arena_withPool_eq]
  exact Arena.sublist_removeAll ..

end Shared

/-- True once an exchange has its final response, or follows a redirect. -/
def Phase.isParted : Phase → Bool
  | answered _ _ | draining _ _ _ (.follow _) => true
  | resting | waiting _ | dialing _ _ _ | sending _ _ | draining _ _ _ (.answer _ _) => false
  | failed _ | dropped => false

namespace Exchange

variable {x y : Exchange} {s t : Shared} {h h' : Hand} {notes : List Note} {l : Lease}
  {target : Target}

theorem sublist_of_asked {status : CheckoutStatus} (hask : x.Asked s target status t) :
    t.arena.entries.Sublist s.arena.entries := by
  cases asks_of_asked hask <;> exact Shared.sublist_withPool ..

/-- Parking puts a state in the arena, or leaves it as it is. -/
theorem arena_of_park (hpark : x.park s l = (y, t)) :
    t.arena = s.arena ∨ ∃ key n, t.arena = s.arena.put l.id key n := by
  unfold park at hpark
  split at hpark <;> obtain ⟨-, rfl⟩ := Prod.mk.inj hpark
  · exact Or.inr ⟨_, _, rfl⟩
  · exact Or.inl rfl

/-- A move parks nothing, or a state for the connection of the request that was out, when its head
is heard. -/
theorem arena_of_move (hm : Move ⟨x, s, h⟩ notes ⟨y, t, h'⟩) :
    t.arena.entries.Sublist s.arena.entries ∨
      ∃ l limit head key n, x.phase = .sending l limit ∧ notes = [x.headNote s l head] ∧
        t.arena = s.arena.put l.id key n := by
  have hsame : t.arena = s.arena → t.arena.entries.Sublist s.arena.entries :=
    fun heq => heq ▸ List.Sublist.refl _
  cases hm with
  | take | spoil | establish | abandon | leave | retry | finish | challenge | reject | lose | quit
  | skim | rest | spill | tire | keep | touch | hush => exact Or.inl (hsame rfl)
  | giveBack | close | store => exact Or.inl (Shared.sublist_withPool ..)
  | refuse hurl hask => exact Or.inl (sublist_of_asked hask)
  | queue hurl hask => exact Or.inl (sublist_of_asked hask)
  | find hurl hask => exact Or.inl (sublist_of_asked hask)
  | @dial x s t target r limit hurl hask =>
    have hsub := sublist_of_asked hask
    exact Or.inl hsub
  | @send x s l target message y t z u limit htarget hbind hcompose =>
    have hsub := arena_of_bind hbind
    rw [← arena_of_compose hcompose] at hsub
    exact Or.inl hsub
  | misfit hbind hcompose =>
    have hsub := arena_of_bind hbind
    rw [← arena_of_compose hcompose] at hsub
    exact Or.inl hsub
  | @follow x s l limit head action negotiator supply url y t next hphase hanswer hjudged hstatus
      hhttp hcheck hpark =>
    rcases arena_of_park hpark with heq | ⟨key, n, hput⟩
    · exact Or.inl (hsame heq)
    · rw [Lease.id_afterHead] at hput
      exact Or.inr ⟨l, limit, head, key, n, hphase, rfl, hput⟩
  | @answer x s l limit head action negotiator supply y t hphase hanswer hjudged hpark =>
    rcases arena_of_park hpark with heq | ⟨key, n, hput⟩
    · exact Or.inl (hsame heq)
    · rw [Lease.id_afterHead] at hput
      exact Or.inr ⟨l, limit, head, key, n, hphase, rfl, hput⟩
  | @pump x s head body =>
    refine Or.inl (hsame ?_)
    cases body.lease <;> rfl

section Heads

variable {head : Head}

/-- What becomes of an exchange and of its connection when a head is heard there. -/
inductive Parts (x : Exchange) (s : Shared) (l : Lease) (y : Exchange) (t : Shared) : Prop
  /-- The challenge is answered on the same connection. -/
  | answer {read limit header} (hphase : y.phase = .draining l read limit (.answer header true))
    (hrealm : y.realm = x.realm) (hheld : y.held = x.held) (hpool : t.pool = s.pool)
    (harena : t.arena = s.arena)
  /-- The response is the final one, or a redirect that is followed. -/
  | part (hphase : y.phase.isParted = true)
  /-- The exchange fails, and the connection is closed. -/
  | close (hphase : ∃ e, y.phase = .failed e) (hheld : y.held = none)
    (hpool : t.pool = s.pool.discard l)

variable {z : Exchange} {u : Shared}

theorem parts_reject (hheld : z.held = none) (hpool : u.pool = s.pool) (e : Error) (url : Url) :
    Parts x s l (z.reject u head l e url).1 (z.reject u head l e url).2 := by
  refine .close ⟨_, rfl⟩ rfl ?_
  rw [← hpool]
  simp only [reject, fail, finish, letGo, hheld]
  exact Shared.pool_withPool ..

theorem parts_answer (z : Exchange) (u : Shared) (head : Head) :
    Parts x s l (z.answer u head l).1 (z.answer u head l).2 := by
  obtain ⟨-, body, hphase, -⟩ := z.answer_fresh u head l
  exact .part (by rw [hphase]; rfl)

/-- Nothing but a final response, a redirect that is followed or an error comes of a response that
is no challenge. -/
theorem parts_passOn (hheld : z.held = none) (hpool : u.pool = s.pool) :
    Parts x s l (z.passOn u head l).1 (z.passOn u head l).2 := by
  unfold passOn
  split
  · split
    · unfold onRedirect
      split
      · exact parts_reject hheld hpool _ _
      · split
        · exact parts_reject hheld hpool _ _
        · split
          · exact .part rfl
          · exact parts_answer ..
          · exact parts_reject hheld hpool _ _
    · exact parts_answer ..
  · exact parts_answer ..

/-- Where a challenge is answered, that is on the same connection. -/
theorem parts_onChallenge (hheld : x.held = none) (target : Target) (realm : Realm) :
    Parts x s l ({ x with pending := none }.onChallenge s target realm head l).1
      ({ x with pending := none }.onChallenge s target realm head l).2 := by
  rcases hanswer : x.negotiator.onChallenge
    (Challenge.ofValues (head.headers.values realm.target.challengeHeader)) realm
    ({ x with pending := none }.authRequest target) s.supply with ⟨action, negotiator, supply⟩
  rcases hbudget : x.authRetries.withdraw with ⟨granted, budget⟩
  simp only [onChallenge, hanswer, hbudget]
  cases action with
  | retry header keep =>
    obtain rfl := Negotiator.keep_of_onChallenge hanswer
    cases granted with
    | true => exact .answer rfl rfl rfl rfl rfl
    | false =>
      simp only [Bool.false_eq_true, if_false]
      refine parts_reject ?_ ?_ _ _
      · exact hheld
      · rfl
  | fail failure =>
    refine parts_reject ?_ ?_ _ _
    · exact hheld
    · rfl
  | done => exact parts_answer ..

/-- A head is a challenge that is answered on its connection, or the exchange parts with what is
negotiated there, or the connection is closed. -/
theorem parts_headArrived (hheld : x.held = none) :
    Parts x s (l.afterHead head) (x.headArrived s head l).1 (x.headArrived s head l).2 := by
  have hafter : x.headArrived s head l =
      onHead { x with pending := none } s (l.afterHead head).target head (l.afterHead head) := rfl
  rw [hafter]
  rcases onHead_cases { x with pending := none } s (l.afterHead head).target head
    (l.afterHead head) with ⟨realm, -, heq⟩ | ⟨negotiator, heq⟩ <;> rw [heq]
  · exact parts_onChallenge hheld _ realm
  · refine parts_passOn ?_ rfl
    exact hheld

end Heads

end Exchange

end HttpClient
