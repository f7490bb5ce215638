import HttpClient.Proofs.Pool.Asking
import HttpClient.Proofs.Pool.Commands
import Mathlib.Algebra.BigOperators.Finprod

/-!
# The accounts of a pool

Commands of any callers, in any order, are played on a ledger whose pool nobody has used yet. After
each of them the counters of the pool say what is there and no limit is exceeded, and every
connection that was shown as opened is idle, checked out or was reported closed, once.
-/

namespace HttpClient

/-- A command that was done. -/
structure Turn where
  command : PoolCommand
  reply : PoolReply
  /-- The connections reported closed meanwhile. -/
  closed : List ConnId

/-- The connections that a turn shows as opened. -/
def Turn.opened (t : Turn) : List Opened := t.command.opened t.reply

namespace Ledger

open Custody

/-- The ledger of a pool that nobody has used yet. -/
def ofSettings (settings : PoolSettings) (reports : Bool) : Ledger :=
  { pool := { settings := settings }, reports := reports }

/-- Does commands one after the other. -/
def play : Ledger → List PoolCommand → List Turn × Ledger
  | l, [] => ([], l)
  | l, command :: commands =>
    let (reply, next) := l.step command
    let (turns, last) := next.play commands
    (⟨command, reply, next.closed⟩ :: turns, last)

/-- The leases that are out, also those that a caller who waited was not yet asked for. -/
def leases (l : Ledger) : List Lease :=
  l.holdings.filterMap fun entry => (l.held? entry.2).bind Checkout.lease?

/-- The slots for which no connection was opened yet. -/
def reservations (l : Ledger) : List Reservation :=
  l.holdings.filterMap fun entry => (l.held? entry.2).bind Checkout.reservation?

/-- The custody of all that names stand for. -/
theorem custody_carried (l : Ledger) (G O : Multiset Opened) :
    l.custody l.carried G O = ⟨l.pool, l.leases, l.reservations, G, O⟩ := by
  simp only [custody, carried, Multiset.filterMap_coe, List.filterMap_map, leases, reservations]
  rfl

variable {start : Custody} {reports : Bool} {l : Ledger} {before : Multiset ConnId}
  {O : Multiset Opened}

/-- Before the first command nothing is accounted for. -/
theorem accounted_ofSettings (settings : PoolSettings) (reports : Bool) :
    Accounted (fresh settings) reports (ofSettings settings reports)
      (ofSettings settings reports).carried 0 0 where
  isOpen := rfl
  moves := ⟨0, .refl, rfl, fun _ => rfl⟩
  nodup := Multiset.nodup_zero
  queue := Multiset.zero_le _
  undecided := fun _ h => absurd h (Multiset.notMem_zero _)
  tickets_lt := fun _ h => absurd h (Multiset.notMem_zero _)
  outcomes_lt := fun _ h => absurd h List.not_mem_nil
  names := List.nodup_nil

/-- A command and the service of the waiting callers after it are accounted for. -/
theorem Accounted.step (hstart : start.Balanced) (h : Accounted start reports l l.carried before O)
    {command : PoolCommand} (hpool : command ≠ .dropPool) :
    Accounted start reports (l.step command).2 (l.step command).2.carried (before + l.closed)
      (command.opened (l.step command).1 + O) := by
  have hrun := (Accounted.run hstart (l := { l with closed := [] }) h.read hpool).serveAll hstart
  simp only [carried, Ledger.step, holdings_serveAll]
  exact hrun

/-- A name stands for what it was given to. -/
theorem mem_holdings_fill (l : Ledger) (name : String) (holding : Holding) :
    (name, holding) ∈ (l.fill name holding).holdings := by
  rw [fill]
  split
  · rw [holdings_dropHolding]
    exact List.mem_cons_self
  · exact List.mem_cons_self

/-- The connection that an acquiring caller is answered leads where it was asked to, and is checked
out afterwards. -/
theorem acquired_of_step {name : String} {target : Target} {lease : Lease} {poolable : Bool}
    (h : (l.step (.acquire name target)).1 = .connection lease poolable) :
    lease.target = target ∧ lease ∈ (l.step (.acquire name target)).2.leases := by
  rcases hacquire : l.pool.acquire l.moment target with ⟨found, p, dead⟩
  have hmoment : { l with closed := [] }.moment = l.moment := rfl
  simp only [Ledger.step, Ledger.run, hmoment, hacquire] at h ⊢
  split at h
  · cases h
  · rename_i hopen
    cases found with
    | none => cases h
    | some found =>
      obtain ⟨rfl, -⟩ : found = lease ∧ _ := by
        simpa only [fillLease, shown, PoolReply.connection.injEq] using h
      refine ⟨Pool.target_of_acquire hacquire,
        List.mem_filterMap.mpr ⟨(name, .lease found), ?_, rfl⟩⟩
      simp only [if_neg hopen, holdings_serveAll]
      exact mem_holdings_fill ..

/-- All leases that are out are connections that were opened. -/
theorem Accounted.opened_of_lease (hstart : start.Traced)
    (h : Accounted start reports l l.carried before O) {lease : Lease}
    (hmem : lease ∈ l.leases) : lease.toOpened ∈ O := by
  obtain ⟨gone, hmoves, -⟩ := h.moves
  rw [custody_carried] at hmoves
  have hplaces : O = _ := (hstart.moves hmoves).places
  rw [hplaces]
  simp only [Multiset.mem_add]
  exact Or.inl (Or.inr (Multiset.mem_map_of_mem _ (Multiset.mem_coe.mpr hmem)))

/-- A run of commands is accounted for, and acquires only connections opened for the target. -/
theorem Accounted.play (hbalanced : start.Balanced) (htraced : start.Traced)
    (commands : List PoolCommand) {l : Ledger} {before : Multiset ConnId} {O : Multiset Opened}
    (h : Accounted start reports l l.carried before O) (hpool : .dropPool ∉ commands) :
    ∃ reported, Accounted start reports (l.play commands).2 (l.play commands).2.carried reported
        (((l.play commands).1.flatMap Turn.opened : List Opened) + O) ∧
      reported + (l.play commands).2.closed =
        before + l.closed + ((l.play commands).1.flatMap Turn.closed : List ConnId) ∧
      ∀ turn ∈ (l.play commands).1, ∀ name target lease poolable,
        turn.command = .acquire name target → turn.reply = .connection lease poolable →
          lease.target = target ∧
            lease.toOpened ∈ (((l.play commands).1.flatMap Turn.opened : List Opened) + O) := by
  induction commands generalizing l before O with
  | nil =>
    refine ⟨before, ?_, ?_, fun turn hturn => absurd hturn List.not_mem_nil⟩
    · rw [Ledger.play, List.flatMap_nil, Multiset.coe_nil, Multiset.zero_add]
      exact h
    · rw [Ledger.play, List.flatMap_nil, Multiset.coe_nil, Multiset.add_zero]
  | cons command commands ih =>
    rw [List.mem_cons, not_or] at hpool
    have hstep := h.step hbalanced (Ne.symm hpool.1)
    obtain ⟨reported, hplay, hreported, hacquired⟩ := ih hstep hpool.2
    simp only [Ledger.play, List.flatMap_cons, Turn.opened, ← Multiset.coe_add]
    have hopened : ∀ rest : List Opened,
        (command.opened (l.step command).1 : Multiset Opened) + rest + O =
          rest + (command.opened (l.step command).1 + O) := by
      intro rest
      rw [Multiset.add_comm (command.opened _ : Multiset Opened), Multiset.add_assoc]
    simp only [hopened]
    refine ⟨reported, hplay, ?_, ?_⟩
    · rw [hreported, Multiset.add_assoc]
    · intro turn hturn name target lease poolable hcommand hreply
      rcases List.mem_cons.mp hturn with rfl | hturn
      · subst hcommand
        obtain ⟨htarget, hmem⟩ := acquired_of_step hreply
        exact ⟨htarget, Multiset.mem_add.mpr
          (Or.inr (hstep.opened_of_lease htraced hmem))⟩
      · exact hacquired turn hturn name target lease poolable hcommand hreply

/-- The counters of a pool say what is there, and no limit of its settings is exceeded. -/
structure InBalance (settings : PoolSettings) (l : Ledger) : Prop where
  /-- A target's slots are its idle connections, its leases and its reservations. -/
  openCount : ∀ target, l.pool.openCount target =
    (l.pool.idleOf target).length + (l.leases.filter (·.target = target)).length +
      (l.reservations.filter (·.target = target)).length
  total : l.pool.total = finsum fun target => l.pool.openCount target
  inUse : l.pool.inUse = l.leases.length
  perHost : ∀ max ∈ settings.maxPerHost, ∀ target, l.pool.openCount target ≤ max
  overall : ∀ max ∈ settings.maxConnections, l.pool.total ≤ max
  stats : l.pool.stats = ⟨l.pool.idle.length, l.leases.length,
    l.pool.idle.length + l.leases.length + l.reservations.length⟩
  /-- The pool came to be by moves that lower only positive counters, and whatever command comes
  next changes it by such moves again. -/
  guarded : ∃ gone opened,
    Moves (fresh settings) ⟨l.pool, l.leases, l.reservations, gone, opened⟩ ∧
      ∀ command, command ≠ .dropPool → ∃ gone' opened',
        Moves ⟨l.pool, l.leases, l.reservations, gone, opened⟩
          ⟨(l.step command).2.pool, (l.step command).2.leases,
            (l.step command).2.reservations, gone', opened'⟩

/-- Every connection that turns showed as opened is in one place, and was reported closed once if
it is gone. -/
structure InOnePlace (turns : List Turn) (l : Ledger) : Prop where
  /-- A connection is idle, checked out or gone, each as it was opened, and those that are gone
  are the ones that were reported closed. -/
  places : ∃ gone : Multiset Opened,
    (turns.flatMap Turn.opened : Multiset Opened) =
      (l.pool.idle.map Idle.toOpened : List Opened) +
        (l.leases.map Lease.toOpened : List Opened) + gone ∧
      gone.map Opened.id = (turns.flatMap Turn.closed : List ConnId)
  /-- No number is given twice. -/
  ids : ((turns.flatMap Turn.opened).map Opened.id).Nodup
  /-- Nothing is reported closed twice. -/
  closedOnce : (turns.flatMap Turn.closed).Nodup
  /-- What was ever reported closed is neither idle nor checked out. -/
  stays : ∀ id ∈ turns.flatMap Turn.closed,
    (∀ e ∈ l.pool.idle, e.id ≠ id) ∧ ∀ lease ∈ l.leases, lease.id ≠ id
  /-- Whoever acquires a connection gets one that was opened for the target asked for. -/
  acquired : ∀ turn ∈ turns, ∀ name target lease poolable,
    turn.command = .acquire name target → turn.reply = .connection lease poolable →
      lease.target = target ∧ lease.toOpened ∈ turns.flatMap Turn.opened

end Ledger

namespace Custody

/-- The settings of a pool never change. -/
theorem Moves.settings {c d : Custody} (h : Moves c d) : d.pool.settings = c.pool.settings := by
  induction h with
  | refl => rfl
  | tail _ hm ih =>
    rw [← ih]
    cases hm <;> rfl

variable {p : Pool} {L : List Lease} {R : List Reservation} {G O : Multiset Opened}

/-- The slots of a target, counted by what they are held for. -/
theorem Balanced.openCount_eq (h : Balanced ⟨p, L, R, G, O⟩) (target : Target) :
    p.openCount target = (p.idleOf target).length + (L.filter (·.target = target)).length +
      (R.filter (·.target = target)).length := by
  have hcount := congrArg (Multiset.count target) h.slots
  simp only [Multiset.map_coe, Multiset.count_add, Multiset.coe_count, List.count,
    List.countP_map] at hcount
  simp only [Pool.openCount, Pool.idleOf, ← List.countP_eq_length_filter]
  exact hcount

/-- All slots, counted by what they are held for. -/
theorem Balanced.total_eq (h : Balanced ⟨p, L, R, G, O⟩) :
    p.total = p.idle.length + L.length + R.length := by
  have hcard := congrArg Multiset.card h.slots
  simp only [Multiset.map_coe, Multiset.card_add, Multiset.coe_card, List.length_map] at hcard
  exact h.total.trans hcard

/-- All slots, counted by target. -/
theorem Balanced.total_eq_finsum (h : Balanced ⟨p, L, R, G, O⟩) :
    p.total = finsum fun target => p.openCount target := by
  have hsupport : (Function.support fun target => p.openCount target) ⊆
      ((p.slots.toFinset : Finset Target) : Set Target) := by
    intro target htarget
    rw [Function.mem_support, Pool.openCount] at htarget
    rw [Finset.mem_coe, List.mem_toFinset]
    exact List.count_pos_iff.mp (Nat.pos_of_ne_zero htarget)
  rw [finsum_eq_sum_of_support_subset _ hsupport]
  exact h.total.trans (List.sum_toFinset_count_eq_length p.slots).symm

end Custody

namespace Ledger

open Custody

/-- Where all is accounted for from the first command on, the books are balanced. -/
theorem Accounted.inBalance {settings : PoolSettings} {reports : Bool} {l : Ledger}
    {before : Multiset ConnId} {O : Multiset Opened}
    (h : Accounted (fresh settings) reports l l.carried before O) :
    l.InBalance settings := by
  obtain ⟨gone, hmoves, hgone⟩ := h.moves
  rw [custody_carried] at hmoves
  have hbalanced := (balanced_fresh settings).moves hmoves
  have hsettings : l.pool.settings = settings := Moves.settings hmoves
  refine ⟨hbalanced.openCount_eq, hbalanced.total_eq_finsum, hbalanced.inUse, ?_, ?_, ?_, ?_⟩
  · rw [← hsettings]
    exact hbalanced.perHost
  · rw [← hsettings]
    exact hbalanced.overall
  · rw [Pool.stats, hbalanced.total_eq, hbalanced.inUse]
    rfl
  · refine ⟨gone, O, hmoves, fun command hcommand => ?_⟩
    -- seen from here all is accounted for without any move, and the command adds its own
    have hhere : Accounted (l.custody l.carried gone O) reports l l.carried before O :=
      { h with moves := ⟨gone, .refl, hgone⟩ }
    rw [← custody_carried] at hbalanced
    obtain ⟨gone', hmoves', -⟩ := (hhere.step hbalanced hcommand).moves
    rw [custody_carried, custody_carried] at hmoves'
    exact ⟨gone', _, hmoves'⟩

/-- Where all is accounted for and reported, every connection is in one place. -/
theorem Accounted.places {settings : PoolSettings} {l : Ledger} {reported : Multiset ConnId}
    {opened : List Opened} {closed : List ConnId}
    (h : Accounted (fresh settings) true l l.carried reported opened)
    (hclosed : reported + l.closed = (closed : Multiset ConnId)) :
    (∃ gone : Multiset Opened,
      (opened : Multiset Opened) = (l.pool.idle.map Idle.toOpened : List Opened) +
        (l.leases.map Lease.toOpened : List Opened) + gone ∧
      gone.map Opened.id = closed) ∧
    (opened.map Opened.id).Nodup := by
  obtain ⟨gone, hmoves, -, hgone⟩ := h.moves
  rw [custody_carried] at hmoves
  obtain ⟨hplaces, hunique, -⟩ := (traced_fresh settings).moves hmoves
  exact ⟨⟨gone, hplaces, (hgone rfl).trans hclosed⟩, Multiset.coe_nodup.mp hunique⟩

/-- What is gone went once, and is nowhere else. -/
theorem gone_apart {idle : List Idle} {leases : List Lease} {opened : List Opened}
    {gone : Multiset Opened} {closed : List ConnId}
    (hplaces : (opened : Multiset Opened) = (idle.map Idle.toOpened : List Opened) +
      (leases.map Lease.toOpened : List Opened) + gone)
    (hgone : gone.map Opened.id = closed) (hids : (opened.map Opened.id).Nodup) :
    closed.Nodup ∧ ∀ id ∈ closed, (∀ e ∈ idle, e.id ≠ id) ∧ ∀ lease ∈ leases, lease.id ≠ id := by
  have hparts := congrArg (Multiset.map Opened.id) hplaces
  rw [Multiset.map_add, Multiset.map_add, hgone, Multiset.map_coe] at hparts
  rw [← Multiset.coe_nodup, hparts, Multiset.nodup_add] at hids
  obtain ⟨-, hclosed, happart⟩ := hids
  have hnowhere : ∀ o ∈ idle.map Idle.toOpened ++ leases.map Lease.toOpened, o.id ∉ closed := by
    intro o ho hmem
    refine Multiset.disjoint_left.mp happart ?_ (Multiset.mem_coe.mpr hmem)
    rw [← Multiset.map_add, Multiset.coe_add]
    exact Multiset.mem_map_of_mem _ (Multiset.mem_coe.mpr ho)
  refine ⟨Multiset.coe_nodup.mp hclosed, fun id hid => ⟨fun e he heq => ?_, fun lease hl heq => ?_⟩⟩
  · refine hnowhere e.toOpened (List.mem_append_left _ (List.mem_map_of_mem he)) ?_
    rwa [heq]
  · refine hnowhere lease.toOpened (List.mem_append_right _ (List.mem_map_of_mem hl)) ?_
    rwa [heq]

/-- Two callers, one of whom waits for the only slot while the other keeps it with an idle
connection. -/
def rivals : List PoolCommand :=
  [.connect "first" ⟨.http, "one.test", 80⟩, .wait "second" ⟨.http, "two.test", 80⟩ (some 5000),
    .release "first", .poll "second", .fulfill "second" false, .remove "second", .advance 1000]

/-- Whatever callers do with a pool, its books are balanced. -/
theorem inBalance_play (settings : PoolSettings) (reports : Bool) (commands : List PoolCommand)
    (hpool : .dropPool ∉ commands) :
    ((ofSettings settings reports).play commands).2.InBalance settings := by
  obtain ⟨reported, h, -⟩ := (accounted_ofSettings settings reports).play
    (balanced_fresh settings) (traced_fresh settings) commands hpool
  exact h.inBalance

theorem inBalance_rivals : .dropPool ∉ rivals ∧
    ((ofSettings { maxConnections := some 1 } true).play rivals).2.InBalance
      { maxConnections := some 1 } :=
  ⟨by simp [rivals], inBalance_play _ true rivals (by simp [rivals])⟩

/-- Whatever callers do with a pool that reports what it closes, every connection is in one place
and is reported once when it is gone. -/
theorem inOnePlace_play (settings : PoolSettings) (commands : List PoolCommand)
    (hpool : .dropPool ∉ commands) :
    InOnePlace ((ofSettings settings true).play commands).1
      ((ofSettings settings true).play commands).2 := by
  obtain ⟨reported, h, hclosed, hacquired⟩ := (accounted_ofSettings settings true).play
    (balanced_fresh settings) (traced_fresh settings) commands hpool
  rw [Multiset.add_zero] at h hacquired
  have hreported := hclosed.trans (Multiset.zero_add _)
  obtain ⟨⟨gone, hplaces, hgone⟩, hids⟩ := h.places hreported
  obtain ⟨hclosedOnce, hstays⟩ := gone_apart hplaces hgone hids
  refine ⟨⟨gone, hplaces, hgone⟩, hids, hclosedOnce, hstays, ?_⟩
  intro turn hturn name target lease poolable hcommand hreply
  obtain ⟨htarget, hmem⟩ := hacquired turn hturn name target lease poolable hcommand hreply
  exact ⟨htarget, Multiset.mem_coe.mp hmem⟩

theorem inOnePlace_rivals : .dropPool ∉ rivals ∧
    ((ofSettings { maxConnections := some 1 } true).play rivals).1.flatMap Turn.closed = [1, 2] ∧
    InOnePlace ((ofSettings { maxConnections := some 1 } true).play rivals).1
      ((ofSettings { maxConnections := some 1 } true).play rivals).2 :=
  ⟨by simp [rivals], by decide +kernel, inOnePlace_play _ rivals (by simp [rivals])⟩

end Ledger

end HttpClient
