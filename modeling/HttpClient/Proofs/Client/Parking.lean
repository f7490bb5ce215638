import HttpClient.Proofs.Client.Identities
import HttpClient.Proofs.Client.Itinerary
import HttpClient.Proofs.Client.Minding
import HttpClient.Proofs.Client.Release

/-!
# The arena follows the pool

What is parked is parked for a connection that is idle or that an exchange has: where a connection
leaves the pool its entry goes with it, in the same operation, and what is parked anew is for the
connection of the exchange that parks it. So the arena has no more entries than the pool has open
connections, and from an attempt until a final response or a redirect is heard on its connection
nothing is parked for it.
-/

namespace HttpClient

namespace Place

variable {p q : Place} {s t : Shared} {notes : List Note} {rest : Multiset Place}
  {G O : Multiset Opened} {status : CheckoutStatus} {conn : ConnId}

/-- Nothing is parked for a connection that just left the pool. -/
theorem unparked_withPool (pool : Pool) {dead : List Opened} {o : Opened} (ho : o ∈ dead) :
    ∀ e ∈ (s.withPool pool dead).arena.entries, e.conn ≠ o.id := by
  intro e he hsame
  rw [Shared.arena_withPool_eq, Arena.mem_removeAll] at he
  exact he.2 (List.mem_map.mpr ⟨o, ho, hsame.symm⟩)

/-- What was idle when the pool was asked still is, or was found, or nothing is parked for it. -/
theorem open_of_asks (hask : s.Asks status t)
    (hbalanced : (custodyOf s.pool (.bare ::ₘ rest) G O).Balanced)
    (htraced : (custodyOf s.pool (.bare ::ₘ rest) G O).Traced) {f : Idle} (hf : f ∈ s.pool.idle) :
    (∃ e ∈ t.pool.idle, e.id = f.id) ∨ status.place.connId? = some f.id ∨
      ∀ e ∈ t.arena.entries, e.conn ≠ f.id := by
  obtain ⟨dead, hsame, hidle⟩ := split_of_asks hask hbalanced htraced
  have hmem : f.toOpened ∈ (s.pool.idle : Multiset Idle).map Idle.toOpened :=
    Multiset.mem_map_of_mem _ (Multiset.mem_coe.mpr hf)
  rw [hidle, Multiset.mem_add, Multiset.mem_add] at hmem
  rcases hmem with (hmem | hmem) | hmem
  · obtain ⟨e, he, heq⟩ := Multiset.mem_map.mp hmem
    exact Or.inl ⟨e, he, congrArg Opened.id heq⟩
  · obtain ⟨l, hl, heq⟩ := Multiset.mem_map.mp hmem
    have hfound : status.place.lease? = some l := Option.mem_toList.mp (Multiset.mem_coe.mp hl)
    rw [connId?, hfound, Option.map_some]
    exact Or.inr (Or.inl (congrArg (fun o : Opened => some o.id) heq))
  · rw [hsame]
    exact Or.inr (Or.inr (unparked_withPool t.pool hmem))

/-- A connection that was idle, or that an exchange had, is so after its turn, or nothing is parked
for it. -/
theorem open_of_turn (hturn : p.Turn s notes q t)
    (hbalanced : (custodyOf s.pool (p ::ₘ rest) G O).Balanced)
    (htraced : (custodyOf s.pool (p ::ₘ rest) G O).Traced)
    (hopen : (∃ f ∈ s.pool.idle, f.id = conn) ∨ p.connId? = some conn) :
    (∃ e ∈ t.pool.idle, e.id = conn) ∨ q.connId? = some conn ∨
      ∀ e ∈ t.arena.entries, e.conn ≠ conn := by
  have hstays : t.pool.idle = s.pool.idle → (p.connId? = some conn → q.connId? = some conn) →
      (∃ e ∈ t.pool.idle, e.id = conn) ∨ q.connId? = some conn ∨
        ∀ e ∈ t.arena.entries, e.conn ≠ conn := by
    intro hidle hown
    rw [hidle]
    exact hopen.imp_right fun hp => Or.inl (hown hp)
  cases hturn with
  | stay hsame => exact hstays (congrArg Pool.idle hsame.pool) id
  | ask hask =>
    obtain ⟨f, hf, rfl⟩ := hopen.resolve_right nofun
    exact open_of_asks hask hbalanced htraced hf
  | dial hask =>
    obtain ⟨f, hf, rfl⟩ := hopen.resolve_right nofun
    have hasked := open_of_asks hask hbalanced htraced hf
    exact hasked
  | establish | abandon | leave => exact hstays rfl nofun
  | spoil hsame => exact hstays (congrArg Pool.idle hsame.pool) id
  | @close s l =>
    rcases hopen with hidle | hown
    · refine Or.inl ?_
      rw [Shared.discard, Shared.pool_withPool]
      exact hidle
    · obtain rfl : l.id = conn := Option.some.inj hown
      exact Or.inr (Or.inr (unparked_withPool _ (List.mem_singleton_self l.toOpened)))
  | send message y hphase hurl huri hsame => exact hstays (congrArg Pool.idle hsame.pool) id
  | @hear s t l q head realm answer state hnext hsame =>
    refine hstays (congrArg Pool.idle hsame.pool) fun hown => ?_
    have hafter : (l.afterHead head).id = l.id := l.id_afterHead head
    rcases hnext with rfl | rfl | rfl <;> exact (congrArg some hafter).trans hown
  | lose hreading =>
    refine hstays rfl fun hown => ?_
    rcases hreading with rfl | ⟨read, rfl⟩ <;> exact hown
  | skim bytes isLast hle hsame => exact hstays (congrArg Pool.idle hsame.pool) id
  | rest | spill | keep => exact hstays rfl id
  | @store s l keep =>
    rcases hrelease : s.pool.release s.moment l with ⟨pool, dead⟩
    simp only [Shared.release, hrelease, Shared.pool_withPool]
    unfold Pool.release at hrelease
    split at hrelease
    · obtain ⟨rfl, rfl⟩ := Prod.mk.inj hrelease
      refine Or.inl ?_
      rcases hopen with ⟨f, hf, hconn⟩ | hown
      · exact ⟨f, List.mem_append_left _ hf, hconn⟩
      · exact ⟨_, List.mem_append_right _ (List.mem_singleton_self _), Option.some.inj hown⟩
    · obtain ⟨rfl, rfl⟩ := Prod.mk.inj hrelease
      rcases hopen with hidle | hown
      · exact Or.inl hidle
      · obtain rfl : l.id = conn := Option.some.inj hown
        exact Or.inr (Or.inr (unparked_withPool _ (List.mem_singleton_self l.toOpened)))
  | pump hpumped hsame =>
    refine hstays (congrArg Pool.idle hsame.pool) fun hown => ?_
    cases hpumped <;> exact hown

end Place

namespace Snapshot

open Exchange

/-- A connection that is idle, or that an exchange has. -/
def Open (a : Snapshot) (conn : ConnId) : Prop :=
  (∃ e ∈ a.client.shared.pool.idle, e.id = conn) ∨
    ∃ id x, a.client.exchange? id = some x ∧ (x.place (a.handOf id)).connId? = some conn

/-- At most one state is parked for a connection, and for none that is not open. -/
structure Tended (a : Snapshot) : Prop where
  single : a.client.shared.arena.IsSingle
  isOpen : ∀ e ∈ a.client.shared.arena.entries, a.Open e.conn

variable {settings : Settings} {supply : Supply} {a b : Snapshot} {c : Client} {id : ExchangeId}
  {h h' : Hand} {j j' : Journal} {x y : Exchange} {t : Shared} {notes : List Note} {conn : ConnId}

/-- What is gone is not open. -/
theorem Gone.not_open (hgone : a.Gone conn) : ¬a.Open conn := by
  rintro (⟨e, he, hsame⟩ | ⟨id, x, hx, hconn⟩)
  · exact hgone.idle e he hsame
  · obtain ⟨l, hlease, hsame⟩ := Option.map_eq_some_iff.mp hconn
    exact hgone.places id x l hx hlease hsame

/-- Between the steps of exchanges a connection is open if it is idle or one has it then. -/
theorem open_idle_iff (c : Client) (actor : ExchangeId) (j : Journal) (conn : ConnId) :
    Open ⟨c, actor, .empty, j⟩ conn ↔ (∃ e ∈ c.shared.pool.idle, e.id = conn) ∨
      ∃ x ∈ c.exchanges, (x.place .empty).connId? = some conn := by
  refine or_congr_right ⟨?_, ?_⟩
  · rintro ⟨id, x, hx, hconn⟩
    rw [handOf_empty] at hconn
    exact ⟨x, List.mem_of_getElem? hx, hconn⟩
  · rintro ⟨x, hx, hconn⟩
    obtain ⟨id, hid⟩ := List.mem_iff_getElem?.mp hx
    exact ⟨id, x, hid, by rwa [handOf_empty]⟩

/-- What is open stays open when an exchange moves, or nothing is parked for it. -/
theorem Open.move (hopen : Open ⟨c, id, h, j⟩ conn) (ha : Sound settings.pool ⟨c, id, h, j⟩)
    (hx : c.exchange? id = some x) (hmove : Move ⟨x, c.shared, h⟩ notes ⟨y, t, h'⟩) :
    Open ⟨c.put id y t, id, h', j'⟩ conn ∨ ∀ e ∈ t.arena.entries, e.conn ≠ conn := by
  have hown : ((∃ f ∈ c.shared.pool.idle, f.id = conn) ∨ (x.place h).connId? = some conn) →
      Open ⟨c.put id y t, id, h', j'⟩ conn ∨ ∀ e ∈ t.arena.entries, e.conn ≠ conn := by
    intro hbefore
    obtain ⟨rest, gone, opened, hbalanced, htraced⟩ := ha.custody_actor hx
    rcases Place.open_of_turn (ha.turn hx hmove).1 hbalanced htraced hbefore with
      hidle | hplace | hnone
    · exact Or.inl (Or.inl hidle)
    · exact Or.inl (Or.inr ⟨id, y, Client.exchange?_put_self hx, by rwa [handOf, if_pos rfl]⟩)
    · exact Or.inr hnone
  rcases hopen with hidle | ⟨k, z, hz, hplace⟩
  · exact hown (Or.inl hidle)
  · by_cases hk : k = id
    · subst hk
      obtain rfl := Option.some.inj (hz.symm.trans hx)
      rw [handOf, if_pos rfl] at hplace
      exact hown (Or.inr hplace)
    · rw [handOf, if_neg hk] at hplace
      exact Or.inl (Or.inr ⟨k, z, (Client.exchange?_put_of_ne hk).trans hz,
        by rwa [handOf, if_neg hk]⟩)

/-- A move of an exchange leaves the arena tended. -/
theorem Tended.move (htended : Tended ⟨c, id, h, j⟩) (ha : Sound settings.pool ⟨c, id, h, j⟩)
    (hx : c.exchange? id = some x) (hmove : Move ⟨x, c.shared, h⟩ notes ⟨y, t, h'⟩) :
    Tended ⟨c.put id y t, id, h', j'⟩ where
  single := by
    rcases arena_of_move hmove with hsub | ⟨l, limit, head, key, n, -, -, hput⟩
    · exact htended.single.of_sublist hsub
    · have hnext := htended.single.put l.id key n
      rwa [← hput] at hnext
  isOpen := by
    intro e he
    have hbefore : Open ⟨c, id, h, j⟩ e.conn := by
      rcases ha.parks hx hmove he with hold | ⟨hplace, -⟩
      · exact htended.isOpen e hold
      · exact Or.inr ⟨id, x, hx, by rwa [handOf, if_pos rfl]⟩
    exact (hbefore.move ha hx hmove).resolve_right fun hnone => hnone e he rfl

/-- Whatever happens to a client leaves the arena tended. -/
theorem Tended.step (htended : Tended a) (ha : Sound settings.pool a) (hstep : Step a b) :
    Tended b := by
  cases hstep with
  | turn next =>
    refine ⟨htended.single, fun e he => ?_⟩
    have hopen := htended.isOpen e he
    rw [open_idle_iff] at hopen ⊢
    exact hopen
  | move hx hmove => exact htended.move ha hx hmove
  | world now supply streams canceled => exact ⟨htended.single, htended.isOpen⟩
  | submit request delivery =>
    refine ⟨htended.single, fun e he => ?_⟩
    have hopen := htended.isOpen e he
    rw [open_idle_iff] at hopen ⊢
    exact hopen.imp_right fun ⟨x, hx, hconn⟩ => ⟨x, List.mem_append_left _ hx, hconn⟩

/-- The arena is tended in every client that can come to be. -/
theorem Reachable.tended (hreach : Reachable settings supply a) : Tended a := by
  induction hreach with
  | start => exact ⟨List.nodup_nil, fun e he => absurd he List.not_mem_nil⟩
  | next hbefore hstep ih => exact ih.step hbefore.sound hstep

/-- What is handed over for a connection was reached there last, by a request with the same key. -/
theorem Reachable.handed {l : Lease} {realm : Realm} {n : Negotiator}
    (hreach : Reachable settings supply a)
    (hhanded : (a.client.shared.unpark l realm).1 = some n) :
    ⟨l.id, realm.key, n⟩ ∈ a.client.shared.arena.entries ∧
      a.journal.reached? l.id = some (realm.key, n) := by
  have hmem : ⟨l.id, realm.key, n⟩ ∈ a.client.shared.arena.entries := by
    rcases htake : a.client.shared.arena.take l.id realm.key with ⟨stored, arena⟩
    simp only [Shared.unpark, htake] at hhanded
    rw [hhanded] at htake
    exact Arena.stored_of_take htake
  exact ⟨hmem, hreach.resumed.keyed _ hmem⟩

end Snapshot

namespace Client

open Snapshot Exchange

/-- The arena of a client has entries of idle and of checked out connections only, and not more than
there are. -/
structure Tends (c : Client) : Prop where
  isOpen : ∀ e ∈ c.shared.arena.entries, (∃ i ∈ c.shared.pool.idle, i.id = e.conn) ∨
    ∃ x ∈ c.exchanges, ∃ l ∈ x.leases, l.id = e.conn
  size : c.shared.arena.size ≤ c.shared.pool.stats.idle + c.shared.pool.stats.inUse
  /-- Nothing is parked once all connections are closed. -/
  empty : c.shared.pool.stats.idle = 0 → c.shared.pool.stats.inUse = 0 → c.shared.arena = {}

variable {settings : Settings} {supply : Supply} {c : Client} {j : Journal}

/-- An arena that is tended has no more entries than there are open connections. -/
theorem tends_of_tended (hsound : Sound settings.pool ⟨c, 0, .empty, j⟩)
    (htended : Tended ⟨c, 0, .empty, j⟩) : c.Tends := by
  obtain ⟨hall, -⟩ := (sound_idle_iff ..).mp hsound
  have hopen : ∀ e ∈ c.shared.arena.entries, (∃ i ∈ c.shared.pool.idle, i.id = e.conn) ∨
      ∃ x ∈ c.exchanges, ∃ l ∈ x.leases, l.id = e.conn := by
    intro e he
    refine ((open_idle_iff ..).mp (htended.isOpen e he)).imp_right ?_
    rintro ⟨x, hx, hconn⟩
    obtain ⟨l, hlease, hsame⟩ := Option.map_eq_some_iff.mp hconn
    rw [← Option.mem_toList, ← (leases_eq (hall x hx).1).1] at hlease
    exact ⟨x, hx, l, hlease, hsame⟩
  have hsize : c.shared.arena.size ≤ c.shared.pool.stats.idle + c.shared.pool.stats.inUse := by
    have hsubset : c.shared.arena.entries.map Parked.conn ⊆
        c.shared.pool.idle.map (·.id) ++ (c.exchanges.flatMap Exchange.leases).map (·.id) := by
      intro conn hconn
      obtain ⟨e, he, rfl⟩ := List.mem_map.mp hconn
      rcases hopen e he with ⟨i, hi, hsame⟩ | ⟨x, hx, l, hl, hsame⟩
      · exact List.mem_append_left _ (List.mem_map.mpr ⟨i, hi, hsame⟩)
      · exact List.mem_append_right _
          (List.mem_map.mpr ⟨l, List.mem_flatMap.mpr ⟨x, hx, hl⟩, hsame⟩)
    have hle := (htended.single.subperm hsubset).length_le
    rw [List.length_append, List.length_map, List.length_map, List.length_map,
      ← (counts_of_sound hsound).inUse] at hle
    exact hle
  refine ⟨hopen, hsize, fun hidle hinUse => ?_⟩
  rw [hidle, hinUse] at hsize
  have hnil := List.eq_nil_of_length_eq_zero (Nat.le_zero.mp hsize)
  exact congrArg Arena.mk hnil

/-- The arena follows the pool. In every client that can come to be, also in the midst of a step, at
most one state is parked for a connection, and for none but those that are idle or that an exchange
has; and what is handed over was parked for the same key. So there are never more entries than open
connections. And once a request with a realm is out on a connection, a state is parked for that
connection only after the request heard there a final response or a redirect that it follows. -/
theorem arena_follows_pool (settings : Settings) (supply : Supply) :
    (∀ a, Reachable settings supply a → a.Tended ∧
      ∀ l realm n, (a.client.shared.unpark l realm).1 = some n →
        ⟨l.id, realm.key, n⟩ ∈ a.client.shared.arena.entries ∧
          a.journal.reached? l.id = some (realm.key, n)) ∧
    (∀ events, ((make settings supply).run events).Tends) ∧
    ∀ before later id x l limit, ((make settings supply).run before).exchange? id = some x →
      x.realm.isSome = true → x.phase = .sending l limit →
      ∀ e ∈ ((make settings supply).run (before ++ later)).shared.arena.entries, e.conn = l.id →
        ∃ since event rest, later = since ++ event :: rest ∧
          ((make settings supply).run (before ++ since)).Settles event id l.id := by
  refine ⟨fun a hreach => ⟨hreach.tended, fun l realm n => hreach.handed⟩, fun events => ?_, ?_⟩
  · have hreach := reachable_run settings supply events
    exact tends_of_tended hreach.sound hreach.tended
  · intro before later id x l limit hx hrealm hphase e he hconn
    have hreach := reachable_run settings supply before
    have hlast := (reachable_run settings supply (before ++ later)).tended
    rcases minds_of_run hreach (hreach.minds hx hrealm hphase) later with
      ⟨since, event, rest, hsplit, hsettles⟩ | hminds
    · exact ⟨since, event, rest, hsplit, by rwa [run_append]⟩
    · rw [← run_append, ← journal_append] at hminds
      rcases hminds with hgone | ⟨z, -, -, hfree⟩
      · exact absurd (hconn ▸ hlast.isOpen e he) hgone.not_open
      · exact absurd hconn (hfree e he)

end Client

end HttpClient
