import HttpClient.Proofs.Pool.Seniority

/-!
# Making room by eviction

In a pool that stands no limit is exceeded, so that where a limit is reached one slot less is room
enough. The loops that make room therefore close one connection at most, the second loop finds
room where the first had to close one, and a reservation that fails was stopped before any
connection was closed.
-/

namespace HttpClient

/-- A count reaches a limit, where there is one. -/
def IsReached (limit : Option Nat) (count : Nat) : Prop := ∃ max ∈ limit, max ≤ count

theorem any_eq_true_iff_isReached {limit : Option Nat} {count : Nat} :
    limit.any (· ≤ count) = true ↔ IsReached limit count := by
  cases limit with
  | none => simp [IsReached]
  | some max => simp [IsReached]

namespace Pool

variable {p : Pool} {target : Target} {which : Idle → Bool} {e : Idle}

/-- The pool after an idle connection was closed and its slot given back. -/
def retire (p : Pool) (e : Idle) : Pool := Pool.forget { p with idle := p.idle.erase e } e.target

/-- The pool after a slot was claimed for a target. -/
def claim (p : Pool) (target : Target) : Pool :=
  { p with slots := target :: p.slots, total := p.total + 1 }

theorem isFullFor_iff : isFullFor target p = true ↔
    IsReached p.settings.maxPerHost (p.openCount target) :=
  any_eq_true_iff_isReached

theorem isFull_iff : isFull p = true ↔ IsReached p.settings.maxConnections p.total :=
  any_eq_true_iff_isReached

/-! ### The loop that makes room -/

/-- The connection evicted is the first of its class. -/
theorem evict?_of_find? (hfind : p.idle.find? which = some e) :
    p.evict? which = some (e, p.retire e) := by
  obtain ⟨he, before, after, hsplit, hbefore⟩ := List.find?_eq_some_iff_append.mp hfind
  have hfirst : e ∉ before := by
    intro hmem
    have hnot := hbefore e hmem
    rw [he] at hnot
    cases hnot
  have herase : p.idle.eraseP which = p.idle.erase e := by
    rw [hsplit, List.eraseP_append_right _ (by simpa using hbefore), List.eraseP_cons_of_pos he,
      List.erase_append_right _ hfirst, List.erase_cons_head]
  rw [evict?, hfind, Option.map_some, herase, retire]

theorem makeRoom_of_room {isFull : Pool → Bool} (hroom : ¬ isFull p = true) :
    p.makeRoom isFull which = (true, p, []) := by
  rw [makeRoom, if_neg hroom]

/-- Where nothing can be evicted no room is made, and nothing changes. -/
theorem makeRoom_of_find?_none {isFull : Pool → Bool} (hfull : isFull p = true)
    (hnone : p.idle.find? which = none) : p.makeRoom isFull which = (false, p, []) := by
  have hevict : p.evict? which = none := by rw [evict?, hnone, Option.map_none]
  rw [makeRoom, if_pos hfull]
  split
  · rfl
  · rename_i hsome
    rw [hevict] at hsome
    cases hsome

/-- Where one slot less is room enough one connection is evicted, and no second. -/
theorem makeRoom_of_find? {isFull : Pool → Bool} (hfull : isFull p = true)
    (hfind : p.idle.find? which = some e) (hroom : ¬ isFull (p.retire e) = true) :
    p.makeRoom isFull which = (true, p.retire e, [e.toOpened]) := by
  have hevict := evict?_of_find? hfind
  rw [makeRoom, if_pos hfull]
  split
  · rename_i hnone
    rw [hevict] at hnone
    cases hnone
  · rename_i u q hsome
    rw [hevict] at hsome
    simp only [Option.some.injEq, Prod.mk.injEq] at hsome
    obtain ⟨rfl, rfl⟩ := hsome
    rw [makeRoom_of_room hroom]

end Pool

namespace Custody

variable {p : Pool} {L : Multiset Lease} {R : Multiset Reservation} {G O : Multiset Opened}
  {e : Idle}

/-- Closing an idle connection leaves room in all. -/
theorem Balanced.room_of_retire (h : Balanced ⟨p, L, R, G, O⟩) (he : e ∈ p.idle) :
    ¬ (p.retire e).isFull = true := by
  rw [Pool.isFull_iff]
  rintro ⟨max, hmax, hle⟩
  have hbound := h.overall max hmax
  have hpos := h.total_pos (h.idle_mem_slots he)
  simp only [Pool.retire, Pool.forget] at hle hbound hpos
  omega

/-- Closing an idle connection of a target leaves room for the target. -/
theorem Balanced.room_of_retire_target (h : Balanced ⟨p, L, R, G, O⟩) (he : e ∈ p.idle) :
    ¬ (p.retire e).isFullFor e.target = true := by
  rw [Pool.isFullFor_iff]
  rintro ⟨max, hmax, hle⟩
  have hbound := h.perHost max hmax e.target
  have hpos := List.count_pos_iff.mpr (h.idle_mem_slots he)
  simp only [Pool.retire, Pool.forget, Pool.openCount, List.count_erase_self] at hle hbound
  omega

end Custody

namespace Pool

variable {p : Pool} {target : Target} {e : Idle} {L : Multiset Lease} {R : Multiset Reservation}
  {G O : Multiset Opened}

/-! ### The outcomes of a reservation -/

/-- Without a limit that is reached a slot is claimed at once. -/
theorem reserve_of_room (hhost : ¬ isFullFor target p = true) (hall : ¬ isFull p = true) :
    p.reserve target = (some ⟨target⟩, p.claim target, []) := by
  simp only [reserve, makeRoom_of_room hhost, makeRoom_of_room hall, if_true]
  rfl

/-- A target that holds as many slots as it may gives up the first of its idle connections, which
leaves room in all as well. -/
theorem reserve_of_find? (h : Custody.Balanced ⟨p, L, R, G, O⟩) (hhost : isFullFor target p = true)
    (hfind : p.idle.find? (·.target = target) = some e) :
    p.reserve target = (some ⟨target⟩, (p.retire e).notify.claim target, [e.toOpened]) := by
  have hmem := List.mem_of_find?_eq_some hfind
  have htarget : e.target = target := by simpa using List.find?_some hfind
  have hroom : ¬ isFullFor target (p.retire e) = true := by
    rw [← htarget]
    exact h.room_of_retire_target hmem
  simp only [reserve, makeRoom_of_find? hhost hfind hroom,
    makeRoom_of_room (h.room_of_retire hmem), if_true]
  rfl

/-- Where all slots are taken the first of all idle connections is given up. -/
theorem reserve_of_head (h : Custody.Balanced ⟨p, L, R, G, O⟩) (hhost : ¬ isFullFor target p = true)
    (hall : isFull p = true) (hfind : p.idle.find? (fun _ => true) = some e) :
    p.reserve target = (some ⟨target⟩, (p.retire e).notify.claim target, [e.toOpened]) := by
  have hroom := h.room_of_retire (List.mem_of_find?_eq_some hfind)
  simp only [reserve, makeRoom_of_room hhost, makeRoom_of_find? hall hfind hroom, if_true]
  rfl

/-- No slot can be had for a target: it holds as many as it may and none of its connections is idle,
or all slots are taken and no connection is idle at all. -/
def IsExhausted (p : Pool) (target : Target) : Prop :=
  IsReached p.settings.maxPerHost (p.openCount target) ∧ p.idleOf target = [] ∨
    IsReached p.settings.maxConnections p.total ∧ p.idle = []

/-- A slot is claimed for a target after the connection of a scope that was idle longest was
closed. -/
def ReservesOver (p : Pool) (target : Target) (scope : List Idle) : Prop :=
  ∃ e ∈ scope, (∀ u ∈ scope, e.idleAt ≤ u.idleAt) ∧
    p.reserve target = (some ⟨target⟩, (p.retire e).notify.claim target, [e.toOpened])

/-- A reservation for a target fails only where it must, and closes a connection only where that
makes the room it needs. -/
structure Thrifty (p : Pool) (target : Target) : Prop where
  fails : (p.reserve target).1 = none ↔ p.IsExhausted target
  /-- A reservation that fails changes nothing and closes nothing. -/
  atomic : (p.reserve target).1 = none → p.reserve target = (none, p, [])
  /-- Where no limit is reached nothing is closed. -/
  free : ¬ IsReached p.settings.maxPerHost (p.openCount target) →
    ¬ IsReached p.settings.maxConnections p.total →
      p.reserve target = (some ⟨target⟩, p.claim target, [])
  /-- Where the limit of the target is reached one of its own connections is closed. -/
  perHost : IsReached p.settings.maxPerHost (p.openCount target) → p.idleOf target ≠ [] →
    p.ReservesOver target (p.idleOf target)
  /-- Where only the limit of all is reached one connection of all is closed. -/
  overall : ¬ IsReached p.settings.maxPerHost (p.openCount target) →
    IsReached p.settings.maxConnections p.total → p.idle ≠ [] → p.ReservesOver target p.idle

theorem find?_eq_none_iff_idleOf : p.idle.find? (·.target = target) = none ↔
    p.idleOf target = [] := by
  rw [idleOf, List.filter_eq_nil_iff, List.find?_eq_none]

/-- Where no slot can be had, a reservation fails at once. -/
theorem reserve_of_isExhausted (h : p.IsExhausted target) :
    p.reserve target = (none, p, []) := by
  rw [IsExhausted, ← isFullFor_iff, ← isFull_iff] at h
  by_cases hhost : isFullFor target p = true
  · have hnone : p.idle.find? (·.target = target) = none := by
      rw [find?_eq_none_iff_idleOf]
      rcases h with ⟨-, hlacks⟩ | ⟨-, hidle⟩
      · exact hlacks
      · rw [idleOf, hidle, List.filter_nil]
    simp only [reserve, makeRoom_of_find?_none hhost hnone, Bool.false_eq_true, if_false]
    rfl
  · obtain ⟨hall, hidle⟩ := h.resolve_left fun hfull => hhost hfull.1
    have hnone : p.idle.find? (fun _ => true) = none := by rw [hidle, List.find?_nil]
    simp only [reserve, makeRoom_of_room hhost, makeRoom_of_find?_none hall hnone, if_true,
      Bool.false_eq_true, if_false]
    rfl

/-- Where a target is at its limit one of its connections makes room. -/
theorem reservesOver_idleOf {now : Nat} (h : Custody.Balanced ⟨p, L, R, G, O⟩)
    (horder : p.InOrder now) (hhost : isFullFor target p = true) (hidle : p.idleOf target ≠ []) :
    p.ReservesOver target (p.idleOf target) := by
  cases hfind : p.idle.find? (·.target = target) with
  | none => exact absurd (find?_eq_none_iff_idleOf.mp hfind) hidle
  | some e =>
    obtain ⟨htarget, -⟩ := List.find?_eq_some_iff_append.mp hfind
    refine ⟨e, ?_, ?_, reserve_of_find? h hhost hfind⟩
    · exact List.mem_filter.mpr ⟨List.mem_of_find?_eq_some hfind, htarget⟩
    · intro u hu
      obtain ⟨hmem, htarget⟩ := List.mem_filter.mp hu
      exact horder.idleAt_le hfind u hmem htarget

/-- Where all slots are taken one of all connections makes room. -/
theorem reservesOver_idle {now : Nat} (h : Custody.Balanced ⟨p, L, R, G, O⟩)
    (horder : p.InOrder now) (hhost : ¬ isFullFor target p = true) (hall : isFull p = true)
    (hidle : p.idle ≠ []) : p.ReservesOver target p.idle := by
  cases hfind : p.idle.find? (fun _ => true) with
  | none =>
    refine absurd (List.eq_nil_iff_forall_not_mem.mpr fun u hu => ?_) hidle
    exact List.find?_eq_none.mp hfind u hu rfl
  | some e =>
    refine ⟨e, List.mem_of_find?_eq_some hfind, ?_, reserve_of_head h hhost hall hfind⟩
    intro u hu
    exact horder.idleAt_le hfind u hu rfl

theorem ReservesOver.ne_none {scope : List Idle} (h : p.ReservesOver target scope) :
    (p.reserve target).1 ≠ none := by
  obtain ⟨e, -, -, heq⟩ := h
  rw [heq]
  exact Option.some_ne_none _

/-- Where a slot can be had, a reservation gets it. -/
theorem reserve_ne_none {now : Nat} (h : Custody.Balanced ⟨p, L, R, G, O⟩)
    (horder : p.InOrder now) (hspare : ¬ p.IsExhausted target) : (p.reserve target).1 ≠ none := by
  rw [IsExhausted, ← isFullFor_iff, ← isFull_iff, not_or] at hspare
  by_cases hhost : isFullFor target p = true
  · exact (reservesOver_idleOf h horder hhost fun hnil => hspare.1 ⟨hhost, hnil⟩).ne_none
  · by_cases hall : isFull p = true
    · exact (reservesOver_idle h horder hhost hall fun hnil => hspare.2 ⟨hall, hnil⟩).ne_none
    · rw [reserve_of_room hhost hall]
      exact Option.some_ne_none _

/-- Where the books are balanced and the idle connections in order, reservations are thrifty. -/
theorem thrifty_of_balanced {now : Nat} (h : Custody.Balanced ⟨p, L, R, G, O⟩)
    (horder : p.InOrder now) (target : Target) : p.Thrifty target := by
  have hfails : (p.reserve target).1 = none → p.IsExhausted target := by
    intro hnone
    by_contra hspare
    exact reserve_ne_none h horder hspare hnone
  constructor
  case fails =>
    refine ⟨hfails, fun hshort => ?_⟩
    rw [reserve_of_isExhausted hshort]
  case atomic =>
    intro hnone
    exact reserve_of_isExhausted (hfails hnone)
  case free =>
    intro hhost hall
    rw [← isFullFor_iff] at hhost
    rw [← isFull_iff] at hall
    exact reserve_of_room hhost hall
  case perHost =>
    intro hhost hidle
    exact reservesOver_idleOf h horder (isFullFor_iff.mpr hhost) hidle
  case overall =>
    intro hhost hall hidle
    rw [← isFullFor_iff] at hhost
    exact reservesOver_idle h horder hhost (isFull_iff.mpr hall) hidle

end Pool

namespace Ledger

/-- Whatever callers do with a pool, it keeps its limits, fails to reserve a slot only where nothing
can be given up for it, and gives up one connection at most: the one that was idle longest among
those of the target where its own limit is reached, and else among all. -/
theorem thrifty_play (settings : PoolSettings) (reports : Bool) (commands : List PoolCommand)
    (target : Target) (hpool : .dropPool ∉ commands) :
    let p := ((ofSettings settings reports).play commands).2.pool
    p.settings = settings ∧ p.Thrifty target := by
  have hstanding := standing_play settings reports hpool
  obtain ⟨leases, reservations, gone, opened, hbalanced⟩ := hstanding.balanced
  exact ⟨hstanding.settings, Pool.thrifty_of_balanced hbalanced hstanding.inOrder target⟩

/-- An idle connection to each of two targets, the one to the second idle longer. -/
def spares : List PoolCommand :=
  [.connect "first" ⟨.http, "one.test", 80⟩, .connect "second" ⟨.http, "two.test", 80⟩,
    .advance 5, .release "second", .advance 5, .release "first"]

theorem thrifty_spares : .dropPool ∉ spares ∧
    let p := ((ofSettings { maxConnections := some 2 } true).play spares).2.pool
    (p.settings = { maxConnections := some 2 } ∧ p.Thrifty ⟨.http, "one.test", 80⟩) ∧
      (p.reserve ⟨.http, "one.test", 80⟩).2.2.map Opened.id = [2] :=
  ⟨by simp [spares], thrifty_play _ true spares _ (by simp [spares]), by decide +kernel⟩

end Ledger

end HttpClient
