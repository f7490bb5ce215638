import HttpClient.Pool.Checkout
import Mathlib.Data.Multiset.MapFold
import Mathlib.Data.Multiset.Count
import Mathlib.Data.Multiset.UnionInter
import Mathlib.Logic.Relation

/-!
# Custody of connections and slots

A pool is looked at together with what its callers hold, what has left it and what was ever
opened. All that an operation can do is a chain of elementary moves, and a move takes a unit
from a counter only where the counter is positive. Two laws survive every move: the books are
balanced, and every connection that was opened is in exactly one place.
-/

namespace HttpClient

/-- A pool, and where everything is that it does not hold itself. -/
structure Custody where
  pool : Pool
  /-- The connections that are checked out. -/
  leases : Multiset Lease
  /-- The slots for which no connection was opened yet. -/
  reservations : Multiset Reservation
  /-- The connections that left the pool for good. -/
  gone : Multiset Opened
  /-- All connections that were ever opened. -/
  opened : Multiset Opened

namespace Custody

/-- An elementary change of custody. -/
inductive Move : Custody → Custody → Prop
  /-- A sweep is noted, or the queue of waiting callers changes. -/
  | note {p L R G O} (lastSweep : Nat) (waiting : List Ticket) (nextTicket : Nat) :
    Move ⟨p, L, R, G, O⟩
      ⟨{ p with lastSweep := lastSweep, waiting := waiting, nextTicket := nextTicket }, L, R, G, O⟩
  /-- An idle connection is checked out. -/
  | lend {p L R G O e before after} (h : p.idle = before ++ e :: after) :
    Move ⟨p, L, R, G, O⟩
      ⟨{ p with idle := before ++ after, inUse := p.inUse + 1 },
        { toOpened := e.toOpened, reused := true } ::ₘ L, R, G, O⟩
  /-- An idle connection leaves the pool, with its slot. -/
  | retire {p L R G O e before after} (h : p.idle = before ++ e :: after)
    (hslot : e.target ∈ p.slots) (htotal : 0 < p.total) :
    Move ⟨p, L, R, G, O⟩
      ⟨Pool.forget { p with idle := before ++ after } e.target, L, R, e.toOpened ::ₘ G, O⟩
  /-- A slot is claimed where no limit is reached. -/
  | claim {p L R G O} (target : Target) (hhost : p.isFullFor target = false)
    (hall : p.isFull = false) :
    Move ⟨p, L, R, G, O⟩
      ⟨{ p with slots := target :: p.slots, total := p.total + 1 }, L, ⟨target⟩ ::ₘ R, G, O⟩
  /-- A slot becomes a connection. -/
  | fulfill {p L R G O} (now : Nat) (r : Reservation) (transport : TransportId) :
    Move ⟨p, L, r ::ₘ R, G, O⟩
      ⟨(p.fulfill now r transport).2, (p.fulfill now r transport).1 ::ₘ L, R, G,
        (p.fulfill now r transport).1.toOpened ::ₘ O⟩
  /-- A slot is given back. -/
  | abandon {p L R G O} (r : Reservation) (hslot : r.target ∈ p.slots) (htotal : 0 < p.total) :
    Move ⟨p, L, r ::ₘ R, G, O⟩ ⟨p.forget r.target, L, R, G, O⟩
  /-- A lease will not go back to the idle set. -/
  | mark {p L R G O} (l : Lease) : Move ⟨p, l ::ₘ L, R, G, O⟩ ⟨p, l.unpoolable ::ₘ L, R, G, O⟩
  /-- A lease goes back to the idle set. -/
  | keep {p L R G O} (l : Lease) (idleAt : Nat) (huse : 0 < p.inUse) :
    Move ⟨p, l ::ₘ L, R, G, O⟩
      ⟨{ p.giveBack with idle := p.idle ++ [{ toOpened := l.toOpened, idleAt := idleAt }] },
        L, R, G, O⟩
  /-- A lease is closed, and its slot given back. -/
  | discard {p L R G O} (l : Lease) (huse : 0 < p.inUse) (hslot : l.target ∈ p.slots)
    (htotal : 0 < p.total) :
    Move ⟨p, l ::ₘ L, R, G, O⟩ ⟨p.giveBack.forget l.target, L, R, l.toOpened ::ₘ G, O⟩

/-- Any number of elementary changes, one after the other. -/
abbrev Moves : Custody → Custody → Prop := Relation.ReflTransGen Move

/-- The counters of the pool say what is there, and no limit is exceeded. -/
structure Balanced (c : Custody) : Prop where
  /-- A slot is held for every idle connection, every lease and every reservation. -/
  slots : (c.pool.slots : Multiset Target) =
    (c.pool.idle : Multiset Idle).map (·.target) + c.leases.map (·.target) +
      c.reservations.map (·.target)
  total : c.pool.total = c.pool.slots.length
  inUse : c.pool.inUse = c.leases.card
  perHost : ∀ max ∈ c.pool.settings.maxPerHost, ∀ t, c.pool.openCount t ≤ max
  overall : ∀ max ∈ c.pool.settings.maxConnections, c.pool.total ≤ max

/-- Every connection that was opened is in one place, and no number is given twice. -/
structure Traced (c : Custody) : Prop where
  /-- Nothing is lost, and nothing is in two places. -/
  places : c.opened =
    (c.pool.idle : Multiset Idle).map Idle.toOpened + c.leases.map Lease.toOpened + c.gone
  unique : (c.opened.map Opened.id).Nodup
  below : ∀ o ∈ c.opened, o.id < c.pool.nextId

/-- The custody of a pool that nobody has used yet. -/
def fresh (settings : PoolSettings) : Custody := ⟨{ settings := settings }, 0, 0, 0, 0⟩

theorem balanced_fresh (settings : PoolSettings) : (fresh settings).Balanced where
  slots := rfl
  total := rfl
  inUse := rfl
  perHost := fun _ _ _ => Nat.zero_le _
  overall := fun _ _ => Nat.zero_le _

theorem traced_fresh (settings : PoolSettings) : (fresh settings).Traced where
  places := rfl
  unique := Multiset.nodup_zero
  below := fun _ h => absurd h (Multiset.notMem_zero _)

end Custody

/-- Giving back a slot takes it from its target's slots. -/
theorem Pool.coe_slots_forget (p : Pool) (target : Target) :
    ((p.forget target).slots : Multiset Target) = (p.slots : Multiset Target).erase target := by
  simp only [Pool.forget, Multiset.coe_erase]

/-- Giving back a slot keeps the number of slots right. -/
theorem Pool.total_forget {p : Pool} {target : Target} (hslot : target ∈ p.slots)
    (h : p.total = p.slots.length) : (p.forget target).total = (p.forget target).slots.length := by
  simp only [Pool.forget, List.length_erase_of_mem hslot, h]

/-- Giving back a slot raises no count. -/
theorem Pool.openCount_forget_le (p : Pool) (target t : Target) :
    (p.forget target).openCount t ≤ p.openCount t :=
  List.erase_sublist.count_le t

/-- What is added at the end is there once more. -/
theorem coe_concat {α : Type} (l : List α) (a : α) :
    ((l ++ [a] : List α) : Multiset α) = a ::ₘ (l : Multiset α) :=
  Multiset.coe_eq_coe.mpr (List.perm_append_singleton a l)

/-- What stands between others is there once more than without it. -/
theorem coe_insert {α : Type} (before after : List α) (a : α) :
    ((before ++ a :: after : List α) : Multiset α) =
      a ::ₘ ((before ++ after : List α) : Multiset α) :=
  Multiset.coe_eq_coe.mpr List.perm_middle

namespace Custody

variable {p : Pool} {L : Multiset Lease} {R : Multiset Reservation} {G O : Multiset Opened}

/-- An idle connection has a slot. -/
theorem Balanced.idle_mem_slots (h : Balanced ⟨p, L, R, G, O⟩) {e : Idle} (he : e ∈ p.idle) :
    e.target ∈ p.slots := by
  rw [← Multiset.mem_coe, h.slots]
  simp only [Multiset.mem_add]
  exact Or.inl (Or.inl (Multiset.mem_map_of_mem (·.target) (Multiset.mem_coe.mpr he)))

/-- A lease has a slot. -/
theorem Balanced.lease_mem_slots {l : Lease} (h : Balanced ⟨p, l ::ₘ L, R, G, O⟩) :
    l.target ∈ p.slots := by
  rw [← Multiset.mem_coe, h.slots]
  simp only [Multiset.map_cons, Multiset.mem_add, Multiset.mem_cons, true_or, or_true]

/-- A reservation has a slot. -/
theorem Balanced.reservation_mem_slots {r : Reservation} (h : Balanced ⟨p, L, r ::ₘ R, G, O⟩) :
    r.target ∈ p.slots := by
  rw [← Multiset.mem_coe, h.slots]
  simp only [Multiset.map_cons, Multiset.mem_add, Multiset.mem_cons, true_or, or_true]

/-- Where a slot is held the number of slots is positive. -/
theorem Balanced.total_pos {c : Custody} (h : c.Balanced) {target : Target}
    (hslot : target ∈ c.pool.slots) : 0 < c.pool.total := by
  rw [h.total]
  exact List.length_pos_of_mem hslot

/-- Where a lease is out the number of leases is positive. -/
theorem Balanced.inUse_pos {l : Lease} (h : Balanced ⟨p, l ::ₘ L, R, G, O⟩) : 0 < p.inUse := by
  have hcard := h.inUse
  simp only [Multiset.card_cons] at hcard
  omega

/-- Lending an idle connection moves its slot from the idle set to the leases. -/
private theorem balanced_lend {e : Idle} {before after : List Idle}
    (h : Balanced ⟨p, L, R, G, O⟩) (hidle : p.idle = before ++ e :: after) :
    Balanced ⟨{ p with idle := before ++ after, inUse := p.inUse + 1 },
      { toOpened := e.toOpened, reused := true } ::ₘ L, R, G, O⟩ where
  slots := by
    have hslots := h.slots
    simp only [hidle, coe_insert, Multiset.map_cons] at hslots ⊢
    rw [hslots, Multiset.cons_add, Multiset.add_cons]
  total := h.total
  inUse := by simpa using h.inUse
  perHost := h.perHost
  overall := h.overall

/-- A slot that nobody uses any more is given back without upsetting the books. -/
private theorem balanced_forget {q : Pool} {target : Target} {L' : Multiset Lease}
    {R' : Multiset Reservation} {G' O' : Multiset Opened}
    (hslots : (q.slots : Multiset Target) = target ::ₘ
      ((q.idle : Multiset Idle).map (·.target) + L'.map (·.target) + R'.map (·.target)))
    (htotal : q.total = q.slots.length) (hinUse : q.inUse = L'.card)
    (hperHost : ∀ max ∈ q.settings.maxPerHost, ∀ t, q.openCount t ≤ max)
    (hoverall : ∀ max ∈ q.settings.maxConnections, q.total ≤ max) :
    Balanced ⟨q.forget target, L', R', G', O'⟩ where
  slots := by
    rw [Pool.coe_slots_forget, hslots, Multiset.erase_cons_head]
    rfl
  total := by
    refine Pool.total_forget ?_ htotal
    rw [← Multiset.mem_coe, hslots]
    exact Multiset.mem_cons_self _ _
  inUse := hinUse
  perHost := fun max hmax t => (q.openCount_forget_le target t).trans (hperHost max hmax t)
  overall := fun max hmax => (Nat.sub_le _ _).trans (hoverall max hmax)

/-- Where the limits leave room a claimed slot exceeds none. -/
private theorem balanced_claim {target : Target} (h : Balanced ⟨p, L, R, G, O⟩)
    (hhost : p.isFullFor target = false) (hall : p.isFull = false) :
    Balanced ⟨{ p with slots := target :: p.slots, total := p.total + 1 }, L,
      ⟨target⟩ ::ₘ R, G, O⟩ where
  slots := by
    have hslots := h.slots
    simp only [Multiset.map_cons] at hslots ⊢
    rw [← Multiset.cons_coe, hslots, Multiset.add_cons]
  total := by simpa using h.total
  inUse := h.inUse
  perHost := by
    intro max hmax t
    have hle := h.perHost max hmax t
    simp only [Option.mem_def] at hmax
    rw [Pool.isFullFor, hmax, Option.any_some, decide_eq_false_iff_not] at hhost
    simp only [Pool.openCount] at hhost hle ⊢
    by_cases ht : t = target
    · subst ht
      rw [List.count_cons_self]
      omega
    · rwa [List.count_cons_of_ne (Ne.symm ht)]
  overall := by
    intro max hmax
    simp only [Option.mem_def] at hmax
    rw [Pool.isFull, hmax, Option.any_some, decide_eq_false_iff_not] at hall
    change p.total + 1 ≤ max
    omega

/-- The books are balanced after every elementary change. -/
theorem Balanced.move {c d : Custody} (h : c.Balanced) (hm : Move c d) : d.Balanced := by
  cases hm with
  | note lastSweep waiting nextTicket => exact ⟨h.slots, h.total, h.inUse, h.perHost, h.overall⟩
  | lend hidle => exact balanced_lend h hidle
  | @retire p L R G O e before after hidle hslot htotal =>
    refine balanced_forget ?_ h.total h.inUse h.perHost h.overall
    have hslots := h.slots
    simp only [hidle, coe_insert, Multiset.map_cons] at hslots ⊢
    rw [hslots, Multiset.cons_add, Multiset.cons_add]
  | claim target hhost hall => exact balanced_claim h hhost hall
  | @fulfill p L R G O now r transport =>
    refine ⟨?_, h.total, ?_, h.perHost, h.overall⟩
    · have hslots := h.slots
      simp only [Pool.fulfill, Multiset.map_cons] at hslots ⊢
      rw [hslots, Multiset.add_cons, Multiset.add_cons, Multiset.cons_add]
    · simpa [Pool.fulfill] using h.inUse
  | abandon r hslot htotal =>
    refine balanced_forget ?_ h.total h.inUse h.perHost h.overall
    have hslots := h.slots
    simp only [Multiset.map_cons] at hslots
    rw [hslots, Multiset.add_cons]
  | mark l =>
    refine ⟨?_, h.total, ?_, h.perHost, h.overall⟩
    · have hslots := h.slots
      simp only [Multiset.map_cons, Lease.unpoolable] at hslots ⊢
      exact hslots
    · simpa using h.inUse
  | @keep p L R G O l idleAt huse =>
    refine ⟨?_, h.total, ?_, h.perHost, h.overall⟩
    · have hslots := h.slots
      simp only [Multiset.map_cons] at hslots
      simp only [Pool.giveBack, coe_concat, Multiset.map_cons]
      rw [hslots, Multiset.add_cons, Multiset.cons_add, Multiset.cons_add, Multiset.cons_add]
    · have hcard := h.inUse
      simp only [Multiset.card_cons] at hcard
      simp only [Pool.giveBack]
      omega
  | @discard p L R G O l huse hslot htotal =>
    refine balanced_forget (q := p.giveBack) ?_ h.total ?_ h.perHost h.overall
    · have hslots := h.slots
      simp only [Multiset.map_cons] at hslots
      simp only [Pool.giveBack]
      rw [hslots, Multiset.add_cons, Multiset.cons_add]
    · have hcard := h.inUse
      simp only [Multiset.card_cons] at hcard
      simp only [Pool.giveBack]
      omega

/-- The books are balanced after any number of changes. -/
theorem Balanced.moves {c d : Custody} (h : c.Balanced) (hm : Moves c d) : d.Balanced := by
  induction hm with
  | refl => exact h
  | tail _ hm ih => exact ih.move hm

/-- No elementary change takes back a number. -/
theorem nextId_move {c d : Custody} (hm : Move c d) : c.pool.nextId ≤ d.pool.nextId := by
  cases hm with
  | fulfill => exact Nat.le_succ _
  | note | lend | retire | claim | abandon | mark | keep | discard => exact Nat.le_refl _

/-- No number of changes takes back a number. -/
theorem nextId_moves {c d : Custody} (hm : Moves c d) : c.pool.nextId ≤ d.pool.nextId := by
  induction hm with
  | refl => exact Nat.le_refl _
  | tail _ hm ih => exact ih.trans (nextId_move hm)

/-- Every connection is in one place after an elementary change, and stays as it was opened. -/
theorem Traced.move {c d : Custody} (h : c.Traced) (hm : Move c d) : d.Traced := by
  cases hm with
  | note lastSweep waiting nextTicket => exact ⟨h.places, h.unique, h.below⟩
  | lend hidle =>
    refine ⟨?_, h.unique, h.below⟩
    have hplaces := h.places
    simp only [hidle, coe_insert, Multiset.map_cons] at hplaces ⊢
    rw [hplaces, Multiset.cons_add, Multiset.add_cons]
  | retire hidle hslot htotal =>
    refine ⟨?_, h.unique, h.below⟩
    have hplaces := h.places
    simp only [hidle, coe_insert, Multiset.map_cons] at hplaces
    simp only [Pool.forget]
    rw [hplaces, Multiset.cons_add, Multiset.cons_add, Multiset.add_cons]
  | claim target hhost hall => exact ⟨h.places, h.unique, h.below⟩
  | @fulfill p L R G O now r transport =>
    have hbelow := h.below
    refine ⟨?_, ?_, ?_⟩
    · have hplaces := h.places
      simp only [Pool.fulfill, Multiset.map_cons] at hplaces ⊢
      rw [hplaces, Multiset.add_cons, Multiset.cons_add]
    · simp only [Pool.fulfill, Multiset.map_cons, Multiset.nodup_cons]
      refine ⟨fun hmem => ?_, h.unique⟩
      obtain ⟨o, ho, hid⟩ := Multiset.mem_map.mp hmem
      exact absurd (hbelow o ho) (by simp [hid])
    · intro o ho
      simp only [Pool.fulfill, Multiset.mem_cons] at ho ⊢
      rcases ho with rfl | ho
      · exact Nat.lt_succ_self _
      · exact Nat.lt_succ_of_lt (hbelow o ho)
  | abandon r hslot htotal => exact ⟨h.places, h.unique, h.below⟩
  | mark l =>
    refine ⟨?_, h.unique, h.below⟩
    have hplaces := h.places
    simp only [Multiset.map_cons] at hplaces ⊢
    exact hplaces
  | keep l idleAt huse =>
    refine ⟨?_, h.unique, h.below⟩
    have hplaces := h.places
    simp only [Multiset.map_cons] at hplaces
    simp only [coe_concat, Multiset.map_cons]
    rw [hplaces, Multiset.add_cons, Multiset.cons_add, Multiset.cons_add, Multiset.cons_add]
  | discard l huse hslot htotal =>
    refine ⟨?_, h.unique, h.below⟩
    have hplaces := h.places
    simp only [Multiset.map_cons] at hplaces
    simp only [Pool.forget, Pool.giveBack]
    rw [hplaces, Multiset.add_cons, Multiset.cons_add, Multiset.add_cons]

/-- Every connection is in one place after any number of changes. -/
theorem Traced.moves {c d : Custody} (h : c.Traced) (hm : Moves c d) : d.Traced := by
  induction hm with
  | refl => exact h
  | tail _ hm ih => exact ih.move hm

end Custody

end HttpClient
