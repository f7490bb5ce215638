import HttpClient.Proofs.Client.Journal
import HttpClient.Proofs.Exchange.Turns
import HttpClient.Proofs.Pool.Operations

/-!
# The connections of a client

What the exchanges of a client have makes up a custody with the pool: every turn of an exchange is
a chain of moves of that custody. So no two exchanges ever have the same connection, and none has
one that is idle; and a stream is dialed for one connection only.
-/

namespace HttpClient

open Custody

/-- The custody of a pool and of what exchanges have. -/
def custodyOf (p : Pool) (places : Multiset Place) (gone opened : Multiset Opened) : Custody :=
  ⟨p, places.filterMap Place.lease?, places.filterMap Place.reservation?, gone, opened⟩

/-- The streams that were dialed for connections and slots. -/
def streamsOf (places : Multiset Place) (opened : Multiset Opened) : Multiset TransportId :=
  opened.map Opened.transport + places.filterMap Place.dialed?

namespace Place

variable {p q : Place} {s t : Shared} {notes : List Note} {rest : Multiset Place}
  {G O : Multiset Opened} {status : CheckoutStatus}

/-- What has no connection and no slot adds nothing to custody. -/
theorem custodyOf_bare (p : Pool) (rest : Multiset Place) (G O : Multiset Opened) :
    custodyOf p (.bare ::ₘ rest) G O = custodyOf p rest G O := by
  simp only [custodyOf]
  rw [Multiset.filterMap_cons_none _ _ rfl, Multiset.filterMap_cons_none _ _ rfl]

theorem custodyOf_dialing (p : Pool) (r : Reservation) (transport : TransportId)
    (rest : Multiset Place) (G O : Multiset Opened) :
    custodyOf p (.dialing r transport ::ₘ rest) G O =
      grant (custodyOf p rest G O) (some (.reserved r)) := by
  simp only [custodyOf, grant]
  rw [Multiset.filterMap_cons_none _ _ rfl,
    Multiset.filterMap_cons_some reservation? _ _ (b := r) rfl]

/-- What has a connection adds it to custody. -/
theorem custodyOf_lease {l : Lease} (pool : Pool) (hlease : p.lease? = some l)
    (rest : Multiset Place) (G O : Multiset Opened) :
    custodyOf pool (p ::ₘ rest) G O = grant (custodyOf pool rest G O) (some (.idle l)) := by
  have hreservation : p.reservation? = none := by
    cases p <;> first | rfl | cases hlease
  simp only [custodyOf, grant]
  rw [Multiset.filterMap_cons_some _ _ _ hlease, Multiset.filterMap_cons_none _ _ hreservation]

/-- What is not dialed for adds no stream. -/
theorem streamsOf_cons (hdialed : p.dialed? = none) (rest : Multiset Place) (O : Multiset Opened) :
    streamsOf (p ::ₘ rest) O = streamsOf rest O := by
  simp only [streamsOf]
  rw [Multiset.filterMap_cons_none _ _ hdialed]

theorem streamsOf_dialing (r : Reservation) (transport : TransportId) (rest : Multiset Place)
    (O : Multiset Opened) :
    streamsOf (.dialing r transport ::ₘ rest) O = transport ::ₘ streamsOf rest O := by
  simp only [streamsOf]
  rw [Multiset.filterMap_cons_some dialed? _ _ (b := transport) rfl, Multiset.add_cons]

/-- Asking the pool is a chain of moves that grants what it answers. -/
theorem moves_of_asks (hask : s.Asks status t)
    (hbalanced : (custodyOf s.pool rest G O).Balanced) :
    ∃ dead : List Opened, t = s.withPool t.pool dead ∧ Moves (custodyOf s.pool rest G O)
      (grant (custodyOf t.pool rest (dead + G) O) status.checkout?) := by
  cases hask with
  | @checkout p dead target wait heq =>
    rw [Shared.pool_withPool]
    exact ⟨dead, rfl, checkout_moves hbalanced heq⟩
  | @resume p dead ticket heq =>
    rw [Shared.pool_withPool]
    exact ⟨dead, rfl, resume_moves hbalanced heq⟩

/-- What is in custody after a turn, and which streams were dialed for it. -/
structure Turned (s t : Shared) (p q : Place) (rest : Multiset Place) (G O : Multiset Opened)
    (dead O' : Multiset Opened) : Prop where
  moves : Moves (custodyOf s.pool (p ::ₘ rest) G O) (custodyOf t.pool (q ::ₘ rest) (dead + G) O')
  streams : (streamsOf (q ::ₘ rest) O' ≤ streamsOf (p ::ₘ rest) O ∧
      t.nextTransport = s.nextTransport) ∨
    streamsOf (q ::ₘ rest) O' = s.nextTransport ::ₘ streamsOf (p ::ₘ rest) O ∧
      t.nextTransport = s.nextTransport + 1

/-- A turn that only changes how far an exchange is with its connection, or that it must not go
back. -/
theorem turned_of_same {l k : Lease} (hsame : s.Same t) (hp : p.lease? = some l)
    (hq : q.lease? = some k) (hk : k = l ∨ k = l.unpoolable) : Turned s t p q rest G O 0 O := by
  have hdialed : ∀ {r : Place} {m : Lease}, r.lease? = some m → r.dialed? = none := by
    intro r m hr
    cases r <;> first | rfl | cases hr
  refine ⟨?_, Or.inl ⟨?_, hsame.nextTransport⟩⟩
  · rw [Multiset.zero_add, hsame.pool, custodyOf_lease _ hp, custodyOf_lease _ hq]
    rcases hk with rfl | rfl
    · exact .refl
    · exact .single (.mark l)
  · rw [streamsOf_cons (hdialed hp), streamsOf_cons (hdialed hq)]

/-- A head leaves the connection as it is, but for whether it goes back. -/
theorem afterHead_cases (l : Lease) (head : Head) :
    l.afterHead head = l ∨ l.afterHead head = l.unpoolable := by
  unfold Lease.afterHead
  split
  · exact Or.inr rfl
  · exact Or.inl rfl

/-- A turn after which an exchange has nothing. -/
theorem turned_bare {dead : Multiset Opened} (hp : p.dialed? = none)
    (hnext : t.nextTransport = s.nextTransport)
    (hmoves : Moves (custodyOf s.pool (p ::ₘ rest) G O) (custodyOf t.pool rest (dead + G) O)) :
    Turned s t p .bare rest G O dead O := by
  refine ⟨?_, Or.inl ⟨?_, hnext⟩⟩
  · rw [custodyOf_bare]
    exact hmoves
  · rw [streamsOf_cons rfl, streamsOf_cons hp]

/-- Asking the pool is a turn, and what it closes is let go of. -/
theorem turned_of_asks (hask : s.Asks status t)
    (hbalanced : (custodyOf s.pool (.bare ::ₘ rest) G O).Balanced) :
    ∃ dead : List Opened, t = s.withPool t.pool dead ∧
      Moves (custodyOf s.pool (.bare ::ₘ rest) G O)
        (grant (custodyOf t.pool rest (dead + G) O) status.checkout?) ∧
      t.nextTransport = s.nextTransport := by
  rw [custodyOf_bare] at hbalanced ⊢
  obtain ⟨dead, hpool, hmoves⟩ := moves_of_asks hask hbalanced
  refine ⟨dead, hpool, hmoves, ?_⟩
  cases hask <;> rw [Shared.nextTransport_withPool]

/-- Every turn is a chain of moves of custody. -/
theorem turned_of_turn (hturn : p.Turn s notes q t)
    (hbalanced : (custodyOf s.pool (p ::ₘ rest) G O).Balanced) :
    ∃ dead O', Turned s t p q rest G O dead O' := by
  cases hturn with
  | stay hsame =>
    refine ⟨0, O, ?_, Or.inl ⟨le_refl _, hsame.nextTransport⟩⟩
    rw [hsame.pool, Multiset.zero_add]
  | @ask s t status hask hslot =>
    obtain ⟨dead, -, hmoves, hnext⟩ := turned_of_asks hask hbalanced
    refine ⟨dead, O, ?_⟩
    rcases status with (l | r) | ticket | _
    · refine ⟨?_, Or.inl ⟨?_, hnext⟩⟩
      · rw [CheckoutStatus.place, custodyOf_lease (p := .kept l) _ rfl]
        exact hmoves
      · rw [CheckoutStatus.place, streamsOf_cons rfl, streamsOf_cons rfl]
    · exact absurd rfl (hslot r)
    · exact turned_bare rfl hnext hmoves
    · exact turned_bare rfl hnext hmoves
  | @dial s t r hask =>
    obtain ⟨dead, -, hmoves, hnext⟩ := turned_of_asks hask hbalanced
    refine ⟨dead, O, ?_, Or.inr ⟨?_, ?_⟩⟩
    · rw [custodyOf_dialing]
      exact hmoves
    · rw [streamsOf_dialing, streamsOf_cons rfl, hnext]
    · rw [← hnext]
      rfl
  | @establish s r transport =>
    refine ⟨0, (s.fulfill r transport).1.toOpened ::ₘ O, ?_, Or.inl ⟨?_, rfl⟩⟩
    · rw [custodyOf_dialing, custodyOf_lease (p := .kept _) _ rfl, Multiset.zero_add]
      exact .single (.fulfill s.now r transport)
    · rw [streamsOf_dialing, streamsOf_cons rfl]
      simp only [streamsOf, Multiset.map_cons, Multiset.cons_add]
      exact le_refl _
  | @abandon s r transport =>
    refine ⟨0, O, ?_, Or.inl ⟨?_, rfl⟩⟩
    · rw [custodyOf_dialing] at hbalanced ⊢
      rw [custodyOf_bare, Multiset.zero_add]
      exact abandon_moves hbalanced
    · rw [streamsOf_dialing, streamsOf_cons rfl]
      exact Multiset.le_cons_self _ _
  | @leave s ticket =>
    refine ⟨0, O, turned_bare rfl rfl ?_⟩
    rw [custodyOf_bare, Multiset.zero_add]
    exact dequeue_moves ticket
  | spoil hsame => exact ⟨0, O, turned_of_same hsame rfl rfl (Or.inl rfl)⟩
  | @close s l =>
    rw [custodyOf_lease _ rfl] at hbalanced
    refine ⟨([l.toOpened] : List Opened), O, turned_bare rfl (by simp [Shared.discard]) ?_⟩
    rw [custodyOf_lease _ rfl, Shared.discard, Shared.pool_withPool]
    exact discard_moves hbalanced
  | send message y hphase hurl huri hsame =>
    exact ⟨0, O, turned_of_same hsame rfl rfl (Or.inl rfl)⟩
  | @hear s t l q head realm answer state hnext hsame =>
    refine ⟨0, O, turned_of_same hsame rfl (k := l.afterHead head) ?_ (afterHead_cases l head)⟩
    rcases hnext with rfl | rfl | rfl <;> rfl
  | @lose p s l hreading =>
    refine ⟨0, O, turned_of_same ⟨rfl, rfl⟩ (l := l) ?_ rfl (Or.inl rfl)⟩
    rcases hreading with rfl | ⟨read, rfl⟩ <;> rfl
  | skim bytes isLast hle hsame => exact ⟨0, O, turned_of_same hsame rfl rfl (Or.inl rfl)⟩
  | rest keep => exact ⟨0, O, turned_of_same ⟨rfl, rfl⟩ rfl rfl (Or.inl rfl)⟩
  | spill note hnote => exact ⟨0, O, turned_of_same ⟨rfl, rfl⟩ rfl rfl (Or.inl rfl)⟩
  | keep hpoolable => exact ⟨0, O, turned_of_same ⟨rfl, rfl⟩ rfl rfl (Or.inl rfl)⟩
  | @store s l keep =>
    rcases hrelease : s.pool.release s.moment l with ⟨pool, dead⟩
    rw [custodyOf_lease _ rfl] at hbalanced
    have hmoves := release_moves hbalanced hrelease
    refine ⟨dead, O, turned_bare rfl (by simp [Shared.release]) ?_⟩
    rw [custodyOf_lease _ rfl]
    simp only [Shared.release, hrelease, Shared.pool_withPool]
    exact hmoves
  | @pump s t l next effect notes hpumped hsame =>
    refine ⟨0, O, turned_of_same hsame rfl (k := l) ?_ (Or.inl rfl)⟩
    cases hpumped <;> rfl

/-- What somebody is granted is added to what is out. -/
private theorem leases_grant (c : Custody) (status : CheckoutStatus) :
    (grant c status.checkout?).pool = c.pool ∧ (grant c status.checkout?).gone = c.gone ∧
      (grant c status.checkout?).opened = c.opened ∧
      (grant c status.checkout?).leases =
        (status.place.lease?.toList : Multiset Lease) + c.leases := by
  rcases status with (l | r) | ticket | _
  · exact ⟨rfl, rfl, rfl, (Multiset.singleton_add l _).symm⟩
  all_goals exact ⟨rfl, rfl, rfl, (Multiset.zero_add _).symm⟩

/-- What was idle when the pool was asked still is, or was found, or was let go of. -/
theorem split_of_asks (hask : s.Asks status t)
    (hbalanced : (custodyOf s.pool (.bare ::ₘ rest) G O).Balanced)
    (htraced : (custodyOf s.pool (.bare ::ₘ rest) G O).Traced) :
    ∃ dead : List Opened, t = s.withPool t.pool dead ∧
      (s.pool.idle : Multiset Idle).map Idle.toOpened =
        (t.pool.idle : Multiset Idle).map Idle.toOpened +
          (status.place.lease?.toList : Multiset Lease).map Lease.toOpened + dead := by
  obtain ⟨dead, hsame, hmoves, -⟩ := turned_of_asks hask hbalanced
  obtain ⟨hpool, hgone, hopened, hleases⟩ :=
    leases_grant (custodyOf t.pool rest (dead + G) O) status
  have hbefore := htraced.places
  have hafter := (htraced.moves hmoves).places
  rw [custodyOf_bare] at hbefore
  rw [hpool, hgone, hopened, hleases, Multiset.map_add] at hafter
  simp only [custodyOf] at hbefore hafter
  refine ⟨dead, hsame, add_right_cancel (b := (rest.filterMap lease?).map Lease.toOpened + G) ?_⟩
  rw [← add_assoc, ← hbefore, hafter]
  ac_rfl

/-- What is idle after the pool was asked was idle before, and so was what it found. -/
theorem idle_of_asks (hask : s.Asks status t)
    (hbalanced : (custodyOf s.pool (.bare ::ₘ rest) G O).Balanced)
    (htraced : (custodyOf s.pool (.bare ::ₘ rest) G O).Traced) :
    (∀ e ∈ t.pool.idle, ∃ f ∈ s.pool.idle, f.toOpened = e.toOpened) ∧
      ∀ l, status = .ready (.idle l) → ∃ f ∈ s.pool.idle, f.toOpened = l.toOpened := by
  obtain ⟨dead, -, hidle⟩ := split_of_asks hask hbalanced htraced
  have hmem : ∀ o, o ∈ (t.pool.idle : Multiset Idle).map Idle.toOpened +
      (status.place.lease?.toList : Multiset Lease).map Lease.toOpened →
      ∃ f ∈ s.pool.idle, f.toOpened = o := by
    intro o ho
    have hold : o ∈ (s.pool.idle : Multiset Idle).map Idle.toOpened := by
      rw [hidle]
      exact Multiset.mem_add.mpr (Or.inl ho)
    exact Multiset.mem_map.mp hold
  refine ⟨fun e he => hmem _ ?_, ?_⟩
  · exact Multiset.mem_add.mpr (Or.inl (Multiset.mem_map_of_mem _ (Multiset.mem_coe.mpr he)))
  · rintro l rfl
    exact hmem _ (Multiset.mem_add.mpr (Or.inr (Multiset.mem_singleton_self _)))

/-- What is idle after a turn was idle before, or is what was given back in it. -/
theorem idle_of_turn (hturn : p.Turn s notes q t)
    (hbalanced : (custodyOf s.pool (p ::ₘ rest) G O).Balanced)
    (htraced : (custodyOf s.pool (p ::ₘ rest) G O).Traced) {e : Idle} (he : e ∈ t.pool.idle) :
    (∃ f ∈ s.pool.idle, f.toOpened = e.toOpened) ∨
      ∃ l, p = .rested l false ∧ l.poolable = true ∧ l.toOpened = e.toOpened ∧ notes = [] := by
  have hold : t.pool.idle = s.pool.idle → ∃ f ∈ s.pool.idle, f.toOpened = e.toOpened :=
    fun hidle => ⟨e, hidle ▸ he, rfl⟩
  cases hturn with
  | ask hask => exact Or.inl ((idle_of_asks hask hbalanced htraced).1 e he)
  | dial hask => exact Or.inl ((idle_of_asks hask hbalanced htraced).1 e he)
  | establish | abandon | leave | lose | rest | spill | keep => exact Or.inl (hold rfl)
  | close =>
    refine Or.inl (hold ?_)
    rw [Shared.discard, Shared.pool_withPool]
    rfl
  | @store s l keep hkeep =>
    rcases hrelease : s.pool.release s.moment l with ⟨pool, dead⟩
    simp only [Shared.release, hrelease, Shared.pool_withPool] at he
    unfold Pool.release at hrelease
    split at hrelease
    · rename_i hcan
      simp only [Prod.mk.injEq] at hrelease
      obtain ⟨rfl, -⟩ := hrelease
      rcases List.mem_append.mp he with he | he
      · exact Or.inl ⟨e, he, rfl⟩
      · obtain rfl := List.mem_singleton.mp he
        simp only [Pool.canKeep, Bool.and_eq_true] at hcan
        have hpoolable : l.isPoolable s.moment = true := by
          simp only [Lease.isPoolable, hcan, Bool.and_self]
        cases keep with
        | true => exact absurd hpoolable (by rw [hkeep rfl]; rintro ⟨⟩)
        | false => exact Or.inr ⟨l, rfl, hcan.1.1.1, rfl, rfl⟩
    · simp only [Prod.mk.injEq] at hrelease
      obtain ⟨rfl, -⟩ := hrelease
      exact Or.inl ⟨e, he, rfl⟩
  | stay hsame | spoil hsame => exact Or.inl (hold (congrArg Pool.idle hsame.pool))
  | send message y hphase hurl huri hsame => exact Or.inl (hold (congrArg Pool.idle hsame.pool))
  | hear head realm answer state hnext hsame => exact Or.inl (hold (congrArg Pool.idle hsame.pool))
  | skim bytes isLast hle hsame => exact Or.inl (hold (congrArg Pool.idle hsame.pool))
  | pump hpumped hsame => exact Or.inl (hold (congrArg Pool.idle hsame.pool))

/-- What an exchange finds that had nothing was idle. -/
theorem found_of_turn {l : Lease} (hturn : p.Turn s notes q t) (hp : p = .bare) (hq : q = .kept l)
    (hbalanced : (custodyOf s.pool (p ::ₘ rest) G O).Balanced)
    (htraced : (custodyOf s.pool (p ::ₘ rest) G O).Traced) :
    ∃ f ∈ s.pool.idle, f.toOpened = l.toOpened := by
  subst hp
  cases hturn with
  | stay => cases hq
  | @ask s t status hask =>
    refine (idle_of_asks hask hbalanced htraced).2 l ?_
    rcases status with (k | r) | ticket | _
    · rw [CheckoutStatus.place] at hq
      rw [kept.inj hq]
    all_goals cases hq
  | dial | leave => cases hq
  | lose hreading => rcases hreading with h | ⟨read, h⟩ <;> cases h

end Place

namespace Snapshot

open Exchange

/-- What the step of an exchange has in hand. -/
def handOf (a : Snapshot) (id : ExchangeId) : Hand := if id = a.actor then a.hand else .empty

/-- What the exchanges of a client have. -/
def places (a : Snapshot) : List Place :=
  a.client.exchanges.mapIdx fun id x => x.place (a.handOf id)

/-- Every exchange has one thing at most, which leads where its URL leads, and the pool and all that
exchanges have came to be by moves from a pool that nobody had used. -/
structure Sound (settings : PoolSettings) (a : Snapshot) : Prop where
  tidy : ∀ id x, a.client.exchange? id = some x → x.Tidy (a.handOf id)
  aims : ∀ id x, a.client.exchange? id = some x → x.Aims a.client.shared (a.handOf id)
  numbered : a.client.shared.pool.IsNumbered
  custody : ∃ gone opened,
    Moves (fresh settings) (custodyOf a.client.shared.pool a.places gone opened) ∧
      (streamsOf a.places opened).Nodup ∧
      ∀ transport ∈ streamsOf a.places opened, transport < a.client.shared.nextTransport

variable {settings : PoolSettings} {a b : Snapshot} {c : Client} {id : ExchangeId} {h : Hand}
  {j : Journal} {x : Exchange}

theorem getElem?_places (a : Snapshot) (id : ExchangeId) :
    a.places[id]? = (a.client.exchange? id).map fun x => x.place (a.handOf id) := by
  rw [places, List.getElem?_mapIdx, Client.exchange?]

/-- Only what the exchange has whose turn it is changes with its moves. -/
theorem places_put (hx : c.exchange? id = some x) (y : Exchange) (t : Shared) (h' : Hand)
    (j' : Journal) : (⟨c.put id y t, id, h', j'⟩ : Snapshot).places =
      (⟨c, id, h, j⟩ : Snapshot).places.set id (y.place h') := by
  refine List.ext_getElem? fun k => ?_
  rw [getElem?_places]
  by_cases hk : k = id
  · subst hk
    obtain ⟨hlt, -⟩ := List.getElem?_eq_some_iff.mp hx
    have hlength : k < (⟨c, k, h, j⟩ : Snapshot).places.length := by
      rw [places, List.length_mapIdx]
      exact hlt
    rw [Client.exchange?_put_self hx, List.getElem?_set_self hlength, Option.map_some, handOf,
      if_pos rfl]
  · rw [Client.exchange?_put_of_ne hk, List.getElem?_set_ne (Ne.symm hk), getElem?_places]
    simp only [handOf, hk, if_false]

/-- What one exchange has, and what all others have. -/
theorem places_eq_cons (hx : a.client.exchange? id = some x) :
    (a.places : Multiset Place) =
      x.place (a.handOf id) ::ₘ (a.places.eraseIdx id : List Place) := by
  have hown : a.places[id]? = some (x.place (a.handOf id)) := by
    rw [getElem?_places, hx, Option.map_some]
  obtain ⟨hid, hget⟩ := List.getElem?_eq_some_iff.mp hown
  rw [← hget, Multiset.cons_coe, Multiset.coe_eq_coe]
  exact (List.getElem_cons_eraseIdx_perm hid).symm

/-- What another exchange has. -/
theorem place_mem_others {other : ExchangeId} {z : Exchange} (hne : other ≠ id)
    (hz : a.client.exchange? other = some z) :
    z.place (a.handOf other) ∈ (a.places.eraseIdx id : Multiset Place) := by
  rw [Multiset.mem_coe, List.mem_eraseIdx_iff_getElem?]
  refine ⟨other, hne, ?_⟩
  rw [getElem?_places, hz, Option.map_some]

/-- What the exchange has whose turn it is changes, and what others have stays. -/
theorem places_split (hx : c.exchange? id = some x) :
    ∃ rest : Multiset Place,
      ((⟨c, id, h, j⟩ : Snapshot).places : Multiset Place) = x.place h ::ₘ rest ∧
      ∀ y t h' j', ((⟨c.put id y t, id, h', j'⟩ : Snapshot).places : Multiset Place) =
        y.place h' ::ₘ rest := by
  have hown : ∀ {c : Client} {x : Exchange} {h : Hand} {j : Journal}, c.exchange? id = some x →
      ((⟨c, id, h, j⟩ : Snapshot).places : Multiset Place) =
        x.place h ::ₘ ((⟨c, id, h, j⟩ : Snapshot).places.eraseIdx id : List Place) := by
    intro c x h j hx
    rw [places_eq_cons (a := ⟨c, id, h, j⟩) hx, handOf, if_pos rfl]
  refine ⟨_, hown hx, fun y t h' j' => ?_⟩
  rw [hown (Client.exchange?_put_self hx), places_put hx y t h' j', List.eraseIdx_set_eq]

/-- A client that nobody has used is sound. -/
theorem sound_make (settings : Settings) (supply : Supply) :
    Sound settings.pool { client := Client.make settings supply } where
  tidy := fun id x hx => by simp [Client.make, Client.exchange?] at hx
  aims := fun id x hx => by simp [Client.make, Client.exchange?] at hx
  numbered := fun c hc => absurd hc List.not_mem_nil
  custody := ⟨0, 0, .refl, Multiset.nodup_zero, fun _ h => absurd h (Multiset.notMem_zero _)⟩

/-- Between the steps of exchanges nothing is in hand. -/
theorem handOf_empty (c : Client) (actor : ExchangeId) (j : Journal) (id : ExchangeId) :
    (⟨c, actor, .empty, j⟩ : Snapshot).handOf id = .empty := by
  simp only [handOf, ite_self]

/-- What exchanges have between their steps. -/
theorem places_idle (c : Client) (actor : ExchangeId) (j : Journal) :
    (⟨c, actor, .empty, j⟩ : Snapshot).places = c.exchanges.map (·.place .empty) := by
  refine List.ext_getElem? fun id => ?_
  rw [getElem?_places, handOf_empty, List.getElem?_map]
  rfl

/-- Soundness between the steps of exchanges. -/
theorem sound_idle_iff (settings : PoolSettings) (c : Client) (actor : ExchangeId) (j : Journal) :
    Sound settings ⟨c, actor, .empty, j⟩ ↔
      (∀ x ∈ c.exchanges, x.Tidy .empty ∧ x.Aims c.shared .empty) ∧
        c.shared.pool.IsNumbered ∧
          ∃ gone opened,
            Moves (fresh settings)
              (custodyOf c.shared.pool (c.exchanges.map (·.place .empty) : List Place) gone
                opened) ∧
            (streamsOf (c.exchanges.map (·.place .empty) : List Place) opened).Nodup ∧
            ∀ transport ∈ streamsOf (c.exchanges.map (·.place .empty) : List Place) opened,
              transport < c.shared.nextTransport := by
  rw [← places_idle c actor j]
  constructor
  · intro ha
    refine ⟨fun x hx => ?_, ha.numbered, ha.custody⟩
    obtain ⟨id, hid⟩ := List.mem_iff_getElem?.mp hx
    have htidy := ha.tidy id x hid
    have haims := ha.aims id x hid
    rw [handOf_empty] at htidy haims
    exact ⟨htidy, haims⟩
  · rintro ⟨hall, hnumbered, hcustody⟩
    refine ⟨fun id x hx => ?_, fun id x hx => ?_, hnumbered, hcustody⟩ <;> rw [handOf_empty]
    · exact (hall x (List.mem_of_getElem? hx)).1
    · exact (hall x (List.mem_of_getElem? hx)).2

/-- The exchange that acts is tidy and well aimed with what is in hand. -/
theorem Sound.actor (ha : Sound settings ⟨c, id, h, j⟩) (hx : c.exchange? id = some x) :
    x.Tidy h ∧ x.Aims c.shared h := by
  have htidy := ha.tidy id x hx
  have haims := ha.aims id x hx
  simp only [handOf, if_true] at htidy haims
  exact ⟨htidy, haims⟩

/-- A move of an exchange leaves a client sound. -/
theorem Sound.move {y : Exchange} {t : Shared} {h' : Hand} {notes : List Note}
    (ha : Sound settings ⟨c, id, h, j⟩) (hx : c.exchange? id = some x)
    (hmove : Move ⟨x, c.shared, h⟩ notes ⟨y, t, h'⟩) (j' : Journal) :
    Sound settings ⟨c.put id y t, id, h', j'⟩ := by
  obtain ⟨htidy, haims⟩ := ha.actor hx
  have hrecalls := recalls_move ha.numbered haims hmove
  have hturn := turn_of_move ha.numbered htidy haims hmove
  obtain ⟨rest, hbefore, hafter⟩ := places_split (h := h) (j := j) hx
  refine ⟨fun k z hz => ?_, fun k z hz => ?_, hrecalls.isNumbered ha.numbered, ?_⟩
  · by_cases hk : k = id
    · subst hk
      rw [Client.exchange?_put_self hx] at hz
      obtain rfl := Option.some.inj hz
      simp only [handOf, if_true]
      exact tidy_move htidy hmove
    · rw [Client.exchange?_put_of_ne hk] at hz
      have hold := ha.tidy k z hz
      simp only [handOf, hk, if_false] at hold ⊢
      exact hold
  · by_cases hk : k = id
    · subst hk
      rw [Client.exchange?_put_self hx] at hz
      obtain rfl := Option.some.inj hz
      simp only [handOf, if_true]
      exact aims_move ha.numbered htidy haims hmove
    · rw [Client.exchange?_put_of_ne hk] at hz
      have hold := (ha.aims k z hz).recalls hrecalls
      simp only [handOf, hk, if_false] at hold ⊢
      exact hold
  · obtain ⟨gone, opened, hmoves, hnodup, hlt⟩ := ha.custody
    rw [hbefore] at hmoves hnodup hlt
    rw [hafter]
    obtain ⟨dead, opened', hturned⟩ :=
      Place.turned_of_turn hturn ((balanced_fresh settings).moves hmoves)
    refine ⟨dead + gone, opened', hmoves.trans hturned.moves, ?_⟩
    rcases hturned.streams with ⟨hle, hnext⟩ | ⟨heq, hnext⟩
    · refine ⟨Multiset.nodup_of_le hle hnodup, fun transport htransport => ?_⟩
      change transport < t.nextTransport
      rw [hnext]
      exact hlt transport (Multiset.mem_of_le hle htransport)
    · rw [heq]
      refine ⟨Multiset.nodup_cons.mpr ⟨fun hmem => absurd (hlt _ hmem) (Nat.lt_irrefl _), hnodup⟩,
        fun transport htransport => ?_⟩
      change transport < t.nextTransport
      rw [hnext]
      rcases Multiset.mem_cons.mp htransport with rfl | hmem
      · exact Nat.lt_succ_self _
      · exact Nat.lt_succ_of_lt (hlt transport hmem)

/-- What the exchange has whose turn it is makes up a custody with what all others have. -/
theorem Sound.custody_actor (ha : Sound settings ⟨c, id, h, j⟩) (hx : c.exchange? id = some x) :
    ∃ rest gone opened, (custodyOf c.shared.pool (x.place h ::ₘ rest) gone opened).Balanced ∧
      (custodyOf c.shared.pool (x.place h ::ₘ rest) gone opened).Traced := by
  obtain ⟨rest, hbefore, -⟩ := places_split (h := h) (j := j) hx
  obtain ⟨gone, opened, hmoves, -⟩ := ha.custody
  rw [hbefore] at hmoves
  exact ⟨rest, gone, opened, (balanced_fresh settings).moves hmoves,
    (traced_fresh settings).moves hmoves⟩

/-- A move of an exchange is a turn of what it has, after which nothing is idle that was not before,
but for what was given back in it. -/
theorem Sound.turn {y : Exchange} {t : Shared} {h' : Hand} {notes : List Note}
    (ha : Sound settings ⟨c, id, h, j⟩) (hx : c.exchange? id = some x)
    (hmove : Move ⟨x, c.shared, h⟩ notes ⟨y, t, h'⟩) :
    (x.place h).Turn c.shared notes (y.place h') t ∧
      (∀ e ∈ t.pool.idle, (∃ f ∈ c.shared.pool.idle, f.toOpened = e.toOpened) ∨
        ∃ l, x.place h = .rested l false ∧ l.poolable = true ∧ l.toOpened = e.toOpened ∧
          notes = []) ∧
      ∀ l, x.place h = .bare → y.place h' = .kept l →
        ∃ f ∈ c.shared.pool.idle, f.toOpened = l.toOpened := by
  obtain ⟨htidy, haims⟩ := ha.actor hx
  have hturn := turn_of_move ha.numbered htidy haims hmove
  obtain ⟨rest, gone, opened, hbalanced, htraced⟩ := ha.custody_actor hx
  exact ⟨hturn, fun e he => Place.idle_of_turn hturn hbalanced htraced he,
    fun l hp hq => Place.found_of_turn hturn hp hq hbalanced htraced⟩

/-- Whatever happens to a client leaves it sound. -/
theorem Sound.step (ha : Sound settings a) (hstep : Step a b) : Sound settings b := by
  cases hstep with
  | @turn c id j next =>
    rw [sound_idle_iff] at ha ⊢
    exact ha
  | move hx hmove => exact ha.move hx hmove _
  | world now supply streams canceled =>
    rw [sound_idle_iff] at ha ⊢
    obtain ⟨hall, hnumbered, hcustody⟩ := ha
    exact ⟨fun x hx => ⟨(hall x hx).1, (hall x hx).2.recalls (.refl _)⟩, hnumbered, hcustody⟩
  | @submit c id j request delivery =>
    rw [sound_idle_iff] at ha ⊢
    obtain ⟨hall, hnumbered, hcustody⟩ := ha
    refine ⟨fun x hx => ?_, hnumbered, ?_⟩
    · rcases List.mem_append.mp hx with hx | hx
      · exact hall x hx
      · obtain rfl := List.mem_singleton.mp hx
        exact ⟨.of_empty rfl, .of_leads (fun ticket => nofun) nofun⟩
    · rw [List.map_append, List.map_singleton, coe_concat]
      have hbare : (ofRequest c.shared request delivery).place .empty = .bare := rfl
      simp only [hbare, Place.custodyOf_bare, Place.streamsOf_cons (p := .bare) rfl]
      exact hcustody

/-- Every client that can come to be is sound. -/
theorem Reachable.sound {settings : Settings} {supply : Supply} (h : Reachable settings supply a) :
    Sound settings.pool a := by
  induction h with
  | start => exact sound_make settings supply
  | next _ hstep ih => exact ih.step hstep

/-- What is there once is nowhere else. -/
private theorem alone_of_nodup {α β : Type} {f : β → Option α} {idle : Multiset α}
    {rest : Multiset β} {p : β} {u : α} (hnodup : (idle + (p ::ₘ rest).filterMap f).Nodup)
    (hp : f p = some u) :
    u ∈ idle + (p ::ₘ rest).filterMap f ∧ u ∉ idle ∧ ∀ q ∈ rest, f q ≠ some u := by
  rw [Multiset.filterMap_cons_some f p rest hp, Multiset.add_cons] at hnodup ⊢
  rw [Multiset.nodup_cons] at hnodup
  refine ⟨Multiset.mem_cons_self _ _, fun hmem => hnodup.1 (Multiset.mem_add.mpr (Or.inl hmem)),
    fun q hq hsame => ?_⟩
  have hmem : u ∈ rest.filterMap f := (Multiset.mem_filterMap f rest).mpr ⟨q, hq, hsame⟩
  exact hnodup.1 (Multiset.mem_add.mpr (Or.inr hmem))

/-- The streams of places are those of their connections and those that are dialed. -/
private theorem transports_eq (places : Multiset Place) :
    places.filterMap Place.transport? =
      (places.filterMap Place.lease?).map (·.transport) + places.filterMap Place.dialed? := by
  induction places using Multiset.induction with
  | empty => rfl
  | cons p rest ih =>
    rw [Multiset.filterMap_cons, Multiset.filterMap_cons, Multiset.filterMap_cons, Multiset.map_add,
      ih]
    cases p <;> simp only [Place.transport?, Place.lease?, Place.dialed?, Option.map_none,
      Option.map_some, Option.or_none, Option.or_some, Option.getD_none,
      Option.getD_some, Multiset.map_singleton, Multiset.map_zero, Multiset.zero_add] <;> ac_rfl

/-- No stream is there twice, idle or with an exchange. -/
theorem Sound.transports_nodup (ha : a.Sound settings) :
    ((a.client.shared.pool.idle : Multiset Idle).map (·.transport) +
        (a.places : Multiset Place).filterMap Place.transport?).Nodup ∧
      ∀ u ∈ (a.client.shared.pool.idle : Multiset Idle).map (·.transport) +
        (a.places : Multiset Place).filterMap Place.transport?,
        u < a.client.shared.nextTransport := by
  obtain ⟨gone, opened, hmoves, hnodup, hlt⟩ := ha.custody
  have hplaces := ((traced_fresh settings).moves hmoves).places
  simp only [custodyOf] at hplaces
  have hle : (a.client.shared.pool.idle : Multiset Idle).map (·.transport) +
      (a.places : Multiset Place).filterMap Place.transport? ≤ streamsOf a.places opened := by
    have hstreams : streamsOf a.places opened =
        (a.client.shared.pool.idle : Multiset Idle).map (·.transport) +
          (a.places : Multiset Place).filterMap Place.transport? + gone.map Opened.transport := by
      rw [streamsOf, hplaces, transports_eq]
      simp only [Multiset.map_add, Multiset.map_map, Function.comp_def]
      ac_rfl
    rw [hstreams]
    exact Multiset.le_add_right _ _
  exact ⟨Multiset.nodup_of_le hle hnodup, fun u hu => hlt u (Multiset.mem_of_le hle hu)⟩

/-- No connection is there twice, idle or with an exchange. -/
theorem Sound.ids_nodup (ha : a.Sound settings) :
    ((a.client.shared.pool.idle : Multiset Idle).map (·.id) +
        (a.places : Multiset Place).filterMap Place.connId?).Nodup ∧
      ∀ u ∈ (a.client.shared.pool.idle : Multiset Idle).map (·.id) +
        (a.places : Multiset Place).filterMap Place.connId?,
        u < a.client.shared.pool.nextId := by
  obtain ⟨gone, opened, hmoves, -⟩ := ha.custody
  have htraced := (traced_fresh settings).moves hmoves
  have hplaces := htraced.places
  have hbelow := htraced.below
  have hunique := htraced.unique
  simp only [custodyOf] at hplaces hbelow hunique
  have hle : (a.client.shared.pool.idle : Multiset Idle).map (·.id) +
      (a.places : Multiset Place).filterMap Place.connId? ≤
        opened.map Opened.id := by
    have hconns : (a.places : Multiset Place).filterMap Place.connId? =
        ((a.places : Multiset Place).filterMap Place.lease?).map (·.id) :=
      (Multiset.map_filterMap ..).symm
    rw [hplaces, hconns]
    simp only [Multiset.map_add, Multiset.map_map, Function.comp_def]
    exact Multiset.le_add_right _ _
  refine ⟨Multiset.nodup_of_le hle hunique, fun u hu => ?_⟩
  obtain ⟨o, ho, rfl⟩ := Multiset.mem_map.mp (Multiset.mem_of_le hle hu)
  exact hbelow o ho

/-- The stream of an exchange is nobody else's. -/
theorem Sound.transport_alone (ha : a.Sound settings) (hx : a.client.exchange? id = some x)
    {u : TransportId} (hu : (x.place (a.handOf id)).transport? = some u) :
    u < a.client.shared.nextTransport ∧ (∀ e ∈ a.client.shared.pool.idle, e.transport ≠ u) ∧
      ∀ other z, other ≠ id → a.client.exchange? other = some z →
        (z.place (a.handOf other)).transport? ≠ some u := by
  obtain ⟨hnodup, hlt⟩ := ha.transports_nodup
  rw [places_eq_cons hx] at hnodup hlt
  obtain ⟨hown, hidle, hrest⟩ := alone_of_nodup hnodup hu
  refine ⟨hlt u hown, fun e he hsame => hidle ?_, fun other z hne hz => ?_⟩
  · exact Multiset.mem_map.mpr ⟨e, Multiset.mem_coe.mpr he, hsame⟩
  · exact hrest _ (place_mem_others hne hz)

/-- The connection of an exchange is nobody else's. -/
theorem Sound.id_alone (ha : a.Sound settings) (hx : a.client.exchange? id = some x) {l : Lease}
    (hl : (x.place (a.handOf id)).lease? = some l) :
    l.id < a.client.shared.pool.nextId ∧ (∀ e ∈ a.client.shared.pool.idle, e.id ≠ l.id) ∧
      ∀ other z k, other ≠ id → a.client.exchange? other = some z →
        (z.place (a.handOf other)).lease? = some k → k.id ≠ l.id := by
  obtain ⟨hnodup, hlt⟩ := ha.ids_nodup
  have hid : (x.place (a.handOf id)).connId? = some l.id := by
    rw [Place.connId?, hl, Option.map_some]
  rw [places_eq_cons hx] at hnodup hlt
  obtain ⟨hown, hidle, hrest⟩ := alone_of_nodup hnodup hid
  refine ⟨hlt l.id hown, fun e he hsame => hidle ?_, fun other z k hne hz hk hsame => ?_⟩
  · exact Multiset.mem_map.mpr ⟨e, Multiset.mem_coe.mpr he, hsame⟩
  · refine hrest _ (place_mem_others hne hz) ?_
    rw [Place.connId?, hk, Option.map_some, hsame]

/-- The streams of idle connections were dialed. -/
theorem Sound.idle_transport_lt (ha : a.Sound settings) {e : Idle}
    (he : e ∈ a.client.shared.pool.idle) : e.transport < a.client.shared.nextTransport :=
  ha.transports_nodup.2 _ (Multiset.mem_add.mpr (Or.inl
    (Multiset.mem_map.mpr ⟨e, Multiset.mem_coe.mpr he, rfl⟩)))

end Snapshot

end HttpClient
