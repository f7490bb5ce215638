import HttpClient.Proofs.Pool.Seniority

/-!
# The freshest connection is handed out

What acquiring takes away is told apart: the expired connections that were looked at, of which each
is reported and gives back its slot, and the last usable connection of the target. The loop over
the idle set reads as two filters of it, and as the set stands in the order of release the last
connection is the one that was released last.
-/

namespace HttpClient

namespace Idle

/-- An idle connection that may still be handed out: it is open, not idle for too long and not too
old. -/
structure IsUsable (e : Idle) (s : PoolSettings) (m : Moment) : Prop where
  alive : m.alive e.transport = true
  idle : ∀ timeout ∈ s.idleTimeout, m.now ≤ e.idleAt + timeout
  age : ∀ ttl ∈ s.connectionTtl, m.now ≤ e.createdAt + ttl

/-- The lease of a connection that comes out of the idle set. -/
def lend (e : Idle) : Lease := { toOpened := e.toOpened, reused := true }

/-- A limit on a duration is kept where it is not exceeded. -/
private theorem any_lt_eq_false_iff {limit : Option Nat} {now since : Nat} :
    limit.any (· < now - since) = false ↔ ∀ bound ∈ limit, now ≤ since + bound := by
  cases limit with
  | none => simp
  | some bound =>
    simp only [Option.any_some, decide_eq_false_iff_not, Option.mem_def, Option.some.injEq,
      forall_eq']
    omega

/-- Exactly the connections that are not expired are usable. -/
theorem isExpired_eq_false_iff {e : Idle} {s : PoolSettings} {m : Moment} :
    e.isExpired s m = false ↔ e.IsUsable s m := by
  simp only [isExpired, Bool.or_eq_false_iff, any_lt_eq_false_iff, Bool.not_eq_false']
  constructor
  · rintro ⟨⟨halive, hidle⟩, hage⟩
    exact ⟨halive, hidle, hage⟩
  · rintro ⟨halive, hidle, hage⟩
    exact ⟨⟨halive, hidle⟩, hage⟩

theorem isExpired_iff {e : Idle} {s : PoolSettings} {m : Moment} :
    e.isExpired s m = true ↔ ¬ e.IsUsable s m := by
  rw [← isExpired_eq_false_iff, Bool.not_eq_false]

end Idle

namespace Pool

variable {p q : Pool} {m : Moment} {target : Target} {e : Idle}

/-- True when all targets are to be looked after. -/
def isDue (p : Pool) (m : Moment) : Bool := p.settings.cleanerPeriod ≤ m.now - p.lastSweep

/-- True for an idle connection that is taken out when a target is looked after. -/
def isDoomed (p : Pool) (m : Moment) (target : Target) (e : Idle) : Bool :=
  (p.isDue m || e.target = target) && e.isExpired p.settings m

/-- The usable connection of a target that was released last. -/
def freshest? (p : Pool) (m : Moment) (target : Target) : Option Idle :=
  (p.idle.filter fun e => e.target = target && !e.isExpired p.settings m).getLast?

/-- Looking after a target takes out what is doomed, and nothing else. -/
theorem reap_spec (p : Pool) (m : Moment) (target : Target) :
    (p.reap m target).1.idle = p.idle.filter (fun e => !p.isDoomed m target e) ∧
      (p.reap m target).2 = (p.idle.filter (p.isDoomed m target)).map Idle.toOpened := by
  simp only [reap, expel_eq]
  split <;> exact ⟨rfl, rfl⟩

/-- A connection is taken exactly where a usable one is idle. -/
theorem freshest?_isSome_iff : (p.freshest? m target).isSome = true ↔
    ∃ e ∈ p.idle, e.target = target ∧ e.IsUsable p.settings m := by
  rw [freshest?, List.getLast?_isSome, ne_eq, List.filter_eq_nil_iff, not_forall]
  simp only [not_forall, not_not, exists_prop, Bool.and_eq_true, decide_eq_true_eq,
    Bool.not_eq_true', Idle.isExpired_eq_false_iff]

/-- No usable connection of the target was released after the one that is taken. -/
theorem newest_of_freshest? (h : p.freshest? m target = some e) :
    e.target = target ∧ e.IsUsable p.settings m ∧
      ∃ older newer, p.idle = older ++ e :: newer ∧
        ∀ u ∈ newer, u.target = target → ¬ u.IsUsable p.settings m := by
  obtain ⟨before, hlast⟩ := List.getLast?_eq_some_iff.mp h
  obtain ⟨front, back, hsplit, -, hback⟩ := List.filter_eq_append_iff.mp hlast
  obtain ⟨skipped, newer, hrest, -, he, hnewer⟩ := List.filter_eq_cons_iff.mp hback
  simp only [Bool.and_eq_true, decide_eq_true_eq, Bool.not_eq_true',
    Idle.isExpired_eq_false_iff] at he
  refine ⟨he.1, he.2, front ++ skipped, newer, ?_, ?_⟩
  · rw [hsplit, hrest, List.append_assoc]
  · intro u hu htarget husable
    refine absurd hnewer (List.ne_nil_of_mem (List.mem_filter.mpr ⟨hu, ?_⟩))
    simp only [Bool.and_eq_true, decide_eq_true_eq, Bool.not_eq_true',
      Idle.isExpired_eq_false_iff]
    exact ⟨htarget, husable⟩

/-- No usable connection of the target has been idle for a shorter time. -/
theorem InOrder.idleAt_freshest? {now : Nat} (horder : p.InOrder now)
    (h : p.freshest? m target = some e) :
    ∀ u ∈ p.idle, u.target = target → u.IsUsable p.settings m → u.idleAt ≤ e.idleAt := by
  obtain ⟨-, -, older, newer, hsplit, hnewer⟩ := newest_of_freshest? h
  have hsorted := horder.sorted
  rw [hsplit, List.pairwise_append] at hsorted
  intro u hu htarget husable
  rw [hsplit] at hu
  rcases List.mem_append.mp hu with hu | hu
  · exact hsorted.2.2 u hu e List.mem_cons_self
  · rcases List.mem_cons.mp hu with rfl | hu
    · exact Nat.le_refl _
    · exact absurd husable (hnewer u hu htarget)

/-- After the target was looked after its newest connection is the freshest there was. -/
theorem find?_reap (p : Pool) (m : Moment) (target : Target) :
    (p.reap m target).1.idle.reverse.find? (·.target = target) = p.freshest? m target := by
  rw [← List.getLast?_filter, (reap_spec p m target).1, List.filter_filter, freshest?]
  congr 1
  refine List.filter_congr fun e _ => ?_
  by_cases htarget : e.target = target <;> simp [isDoomed, htarget]

/-- What acquiring answers, and which connections are left idle. -/
theorem acquire_spec {found : Option Lease} {dead : List Opened}
    (heq : p.acquire m target = (found, q, dead)) :
    found = (p.freshest? m target).map Idle.lend ∧
      dead = (p.idle.filter (p.isDoomed m target)).map Idle.toOpened ∧
      (p.idle : Multiset Idle) = (p.idle.filter (p.isDoomed m target) : List Idle) +
        ((p.freshest? m target).toList : List Idle) + q.idle := by
  obtain ⟨hidle, hdead⟩ := reap_spec p m target
  have hfind := find?_reap p m target
  have hparts : (p.idle : Multiset Idle) = (p.idle.filter (p.isDoomed m target) : List Idle) +
      ((p.reap m target).1.idle : List Idle) := by
    rw [hidle, Multiset.coe_add]
    exact Multiset.coe_eq_coe.mpr (List.filter_append_perm _ _).symm
  rcases hreap : p.reap m target with ⟨p₁, dead₁⟩
  simp only [hreap] at hdead hfind hparts
  simp only [acquire, hreap, idle_bury, hfind] at heq
  cases hfresh : p.freshest? m target with
  | none =>
    simp only [hfresh, Prod.mk.injEq] at heq
    obtain ⟨rfl, rfl, rfl⟩ := heq
    refine ⟨rfl, hdead, ?_⟩
    rw [idle_bury, Option.toList_none, Multiset.coe_nil, Multiset.add_zero]
    exact hparts
  | some e =>
    rw [hfresh] at hfind
    obtain ⟨before, after, hsplit, hrest⟩ := Custody.newest_split hfind
    simp only [hfresh, hrest, Prod.mk.injEq] at heq
    obtain ⟨rfl, rfl, rfl⟩ := heq
    refine ⟨rfl, hdead, ?_⟩
    rw [hparts, hsplit, coe_insert, Option.toList_some, Multiset.coe_singleton,
      Multiset.add_assoc, Multiset.singleton_add]

/-- What acquiring a connection for a target does: which connection is taken, which are gone and
what is left. -/
structure Acquires (p : Pool) (m : Moment) (target : Target) (taken : Option Idle)
    (gone : List Idle) (q : Pool) : Prop where
  /-- A connection is taken exactly where a usable one of the target is idle. -/
  found : taken.isSome = true ↔ ∃ e ∈ p.idle, e.target = target ∧ e.IsUsable p.settings m
  /-- It is one of these, and none of them was released after it. -/
  newest : ∀ e ∈ taken, e.target = target ∧ e.IsUsable p.settings m ∧
    ∃ older newer, p.idle = older ++ e :: newer ∧
      ∀ u ∈ newer, u.target = target → ¬ u.IsUsable p.settings m
  youngest : ∀ e ∈ taken, ∀ u ∈ p.idle, u.target = target → u.IsUsable p.settings m →
    u.idleAt ≤ e.idleAt
  expired : ∀ e ∈ gone, ¬ e.IsUsable p.settings m
  /-- No expired connection of the target is left, and none of any target once in a cleaner
  period. -/
  clean : ∀ e ∈ q.idle, e.target = target ∨ p.settings.cleanerPeriod ≤ m.now - p.lastSweep →
    e.IsUsable p.settings m
  /-- All other idle connections are left. -/
  parts : (p.idle : Multiset Idle) = gone + (taken.toList : List Idle) + q.idle
  /-- They stand in the order in which they stood. -/
  order : q.idle.Sublist p.idle
  /-- What is gone has given back its slot. -/
  slots : (p.slots : Multiset Target) = (gone.map (·.target) : List Target) + q.slots
  total : q.total + gone.length = p.total
  inUse : q.inUse = p.inUse + taken.toList.length
  /-- A look at all targets is noted. -/
  lastSweep : q.lastSweep =
    if p.settings.cleanerPeriod ≤ m.now - p.lastSweep then m.now else p.lastSweep

variable {L : Multiset Lease} {R : Multiset Reservation} {G O : Multiset Opened}
  {found : Option Lease} {dead : List Opened}

/-- The slots of what is gone are given back, and no other. -/
private theorem slots_of_acquire (h : Custody.Balanced ⟨p, L, R, G, O⟩)
    (heq : p.acquire m target = (found, q, dead)) :
    (p.slots : Multiset Target) =
        ((p.idle.filter (p.isDoomed m target)).map (·.target) : List Target) + q.slots ∧
      q.total = q.slots.length ∧
      q.inUse = p.inUse + (p.freshest? m target).toList.length := by
  obtain ⟨rfl, -, hparts⟩ := acquire_spec heq
  have hafter := h.moves (Custody.acquire_moves h heq)
  have htargets := congrArg (Multiset.map (·.target)) hparts
  have hbefore := h.slots
  have hleases := h.inUse
  simp only [Multiset.map_add, Multiset.map_coe] at htargets hbefore
  rw [htargets] at hbefore
  cases hfresh : p.freshest? m target with
  | none =>
    simp only [hfresh, Option.map_none, Custody.grant] at hafter
    simp only [hfresh, Option.toList_none, List.map_nil, Multiset.coe_nil,
      Multiset.add_zero] at hbefore
    refine ⟨?_, hafter.total, ?_⟩
    · rw [hbefore, hafter.slots, Multiset.map_coe]
      simp only [Multiset.add_assoc]
    · rw [hafter.inUse, hleases]
      rfl
  | some e =>
    simp only [hfresh, Option.map_some, Custody.grant] at hafter
    simp only [hfresh, Option.toList_some, List.map_cons, List.map_nil,
      Multiset.coe_singleton] at hbefore
    refine ⟨?_, hafter.total, ?_⟩
    · rw [hbefore, hafter.slots, Multiset.map_coe, Multiset.map_cons]
      simp only [Multiset.add_assoc, Multiset.singleton_add, Multiset.cons_add, Multiset.add_cons,
        Idle.lend]
    · rw [hafter.inUse, Multiset.card_cons, hleases]
      rfl

private theorem lastSweep_bury (p : Pool) (dead : List Opened) :
    (p.bury dead).lastSweep = p.lastSweep := by
  unfold bury
  split <;> rfl

/-- The clock of the cleaner starts anew with each look at all targets. -/
private theorem lastSweep_acquire (heq : p.acquire m target = (found, q, dead)) :
    q.lastSweep =
      if p.settings.cleanerPeriod ≤ m.now - p.lastSweep then m.now else p.lastSweep := by
  have hswept : (p.reap m target).1.lastSweep =
      if p.settings.cleanerPeriod ≤ m.now - p.lastSweep then m.now else p.lastSweep := by
    simp only [reap, expel_eq]
    split <;> rfl
  rcases hreap : p.reap m target with ⟨p₁, dead₁⟩
  simp only [hreap] at hswept
  simp only [acquire, hreap] at heq
  rw [← hswept, ← lastSweep_bury p₁ dead₁]
  split at heq
  · simp only [Prod.mk.injEq] at heq
    rw [heq.2.1]
  · simp only [Prod.mk.injEq] at heq
    rw [← heq.2.1]

/-- Where the books are balanced and the idle connections in order, acquiring takes the freshest. -/
theorem acquires_of_balanced {now : Nat} (h : Custody.Balanced ⟨p, L, R, G, O⟩)
    (horder : p.InOrder now) (heq : p.acquire m target = (found, q, dead)) :
    p.Acquires m target (p.freshest? m target) (p.idle.filter (p.isDoomed m target)) q := by
  obtain ⟨-, -, hparts⟩ := acquire_spec heq
  obtain ⟨hslots, htotal, hinUse⟩ := slots_of_acquire h heq
  constructor
  case found => exact freshest?_isSome_iff
  case newest =>
    intro e he
    exact newest_of_freshest? he
  case youngest =>
    intro e he
    exact horder.idleAt_freshest? he
  case expired =>
    intro e he
    have hdoomed := (List.mem_filter.mp he).2
    rw [isDoomed, Bool.and_eq_true] at hdoomed
    exact Idle.isExpired_iff.mp hdoomed.2
  case clean =>
    intro e he hlooked
    have hkept := (idle_acquire_sublist_reap heq).subset he
    rw [(reap_spec p m target).1, List.mem_filter, Bool.not_eq_true', isDoomed,
      Bool.and_eq_false_iff] at hkept
    rcases hkept.2 with hspared | husable
    · rw [isDue, Bool.or_eq_false_iff, decide_eq_false_iff_not, decide_eq_false_iff_not] at hspared
      rcases hlooked with htarget | hdue
      · exact absurd htarget hspared.2
      · exact absurd hdue hspared.1
    · exact Idle.isExpired_eq_false_iff.mp husable
  case parts => exact hparts
  case order => exact idle_acquire_sublist heq
  case slots => exact hslots
  case total =>
    have hcard := congrArg Multiset.card hslots
    have hbefore := h.total
    simp only [Multiset.card_add, Multiset.coe_card, List.length_map] at hcard hbefore
    omega
  case inUse => exact hinUse
  case lastSweep => exact lastSweep_acquire heq

end Pool

namespace Ledger

variable {l : Ledger}

/-- A command that acquires reports what acquiring closes before anything else. -/
theorem closed_acquire (hopen : l.isOpen = true) (hreports : l.reports = true) (name : String)
    (target : Target) :
    (l.pool.acquire l.moment target).2.2.map Opened.id <+:
      (l.step (.acquire name target)).2.closed := by
  rcases hacquire : l.pool.acquire l.moment target with ⟨found, p, dead⟩
  have hreported : ({ l with closed := [] }.withPool p dead).closed = dead.map Opened.id := by
    rw [closed_withPool (l := { l with closed := [] }) hopen hreports, List.nil_append]
  have hmoment : { l with closed := [] }.moment = l.moment := rfl
  have hnotClosed : ¬ (!l.isOpen) = true := by simp [hopen]
  simp only [step, run, hmoment, hacquire, if_neg hnotClosed]
  rw [← hreported]
  refine List.IsPrefix.trans ?_ (wanes_serveAll _).closed
  cases found with
  | none => exact List.prefix_rfl
  | some lease => exact (wanes_fill _ name (.lease lease)).closed

/-- Whoever acquires a connection for a target at any moment gets the freshest one, and what else
leaves the idle set then is closed and reported. -/
structure HandsOutFreshest (l : Ledger) (target : Target) : Prop where
  acquires : ∀ m found q dead, l.pool.acquire m target = (found, q, dead) → ∃ taken gone,
    found = taken.map Idle.lend ∧ dead = gone.map Idle.toOpened ∧
      l.pool.Acquires m target taken gone q
  /-- What acquiring closes is reported at once, in a pool that reports what it closes. -/
  reported : l.reports = true → ∀ name, (l.pool.acquire l.moment target).2.2.map Opened.id <+:
    (l.step (.acquire name target)).2.closed

/-- Whatever callers do with a pool, it keeps its settings and hands out the freshest connection:
the usable one of the target that was released last, where there is one. -/
theorem handsOutFreshest_play (settings : PoolSettings) (reports : Bool)
    (commands : List PoolCommand) (target : Target) (hpool : .dropPool ∉ commands) :
    let l := ((ofSettings settings reports).play commands).2
    l.pool.settings = settings ∧ l.reports = reports ∧ l.HandsOutFreshest target := by
  have hstanding := standing_play settings reports hpool
  obtain ⟨leases, reservations, gone, opened, hbalanced⟩ := hstanding.balanced
  refine ⟨hstanding.settings, hstanding.reports, ?_⟩
  constructor
  case acquires =>
    intro m found q dead heq
    obtain ⟨hfound, hdead, -⟩ := Pool.acquire_spec heq
    exact ⟨_, _, hfound, hdead, Pool.acquires_of_balanced hbalanced hstanding.inOrder heq⟩
  case reported =>
    intro hreports name
    exact closed_acquire hstanding.isOpen hreports name target

/-- Two idle connections to a target, of which one has been idle for longer than is allowed. -/
def leftovers : List PoolCommand :=
  [.connect "first" ⟨.http, "one.test", 80⟩, .connect "second" ⟨.http, "one.test", 80⟩,
    .release "second", .advance 70000, .release "first"]

theorem handsOutFreshest_leftovers : .dropPool ∉ leftovers ∧
    let l := ((ofSettings {} true).play leftovers).2
    (l.pool.settings = {} ∧ l.reports = true ∧ l.HandsOutFreshest ⟨.http, "one.test", 80⟩) ∧
      (l.pool.acquire l.moment ⟨.http, "one.test", 80⟩).1.map (·.id) = some 1 ∧
      (l.pool.acquire l.moment ⟨.http, "one.test", 80⟩).2.2.map (·.id) = [2] :=
  ⟨by simp [leftovers], handsOutFreshest_play {} true leftovers _ (by simp [leftovers]),
    by decide +kernel, by decide +kernel⟩

end Ledger

end HttpClient
