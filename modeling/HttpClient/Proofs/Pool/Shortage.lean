import HttpClient.Proofs.Pool.Waiting

/-!
# Why an attempt fails

An attempt fails exactly where no idle connection of the target is left and a limit is reached
with nothing to evict. Such a shortage outlasts every operation that does not wake the callers
that wait: what changes the pool without waking them only tightens it. Who else waits does not
matter to an attempt.
-/

namespace HttpClient

namespace Pool

variable {p q r : Pool} {target : Target}

/-- No idle connection leads to the target. -/
def Lacks (p : Pool) (target : Target) : Prop := ∀ e ∈ p.idle, e.target ≠ target

/-- Nothing can be handed out for the target: no idle connection leads there, and a limit is
reached with no idle connection that could make room. -/
structure Shortage (p : Pool) (target : Target) : Prop where
  lacks : p.Lacks target
  full : isFullFor target p = true ∨ isFull p = true ∧ p.idle = []

/-- The second pool has no more to offer than the first. -/
structure Tightens (p q : Pool) : Prop where
  settings : q.settings = p.settings
  idle : ∀ e ∈ q.idle, e ∈ p.idle
  openCount : ∀ target, p.openCount target ≤ q.openCount target
  total : p.total ≤ q.total

/-- Pools with the same limits, connections and slots have the same to offer. -/
theorem Tightens.of_eq (hsettings : q.settings = p.settings) (hidle : q.idle = p.idle)
    (hslots : q.slots = p.slots) (htotal : q.total = p.total) : Tightens p q :=
  ⟨hsettings, fun _ he => hidle ▸ he, fun _ => (congrArg (List.count _) hslots).ge, htotal.ge⟩

theorem Tightens.refl (p : Pool) : Tightens p p := .of_eq rfl rfl rfl rfl

theorem Tightens.trans (hpq : Tightens p q) (hqr : Tightens q r) : Tightens p r :=
  ⟨hqr.settings.trans hpq.settings, fun e he => hpq.idle e (hqr.idle e he),
    fun target => (hpq.openCount target).trans (hqr.openCount target), hpq.total.trans hqr.total⟩

/-- A limit that is reached stays reached while the count does not fall. -/
private theorem any_le_mono {limit : Option Nat} {m n : Nat} (hle : m ≤ n)
    (h : limit.any (· ≤ m) = true) : limit.any (· ≤ n) = true := by
  cases limit with
  | none => exact h
  | some bound =>
    simp only [Option.any_some, decide_eq_true_eq] at h ⊢
    exact h.trans hle

theorem Tightens.lacks (h : Tightens p q) (hp : p.Lacks target) : q.Lacks target :=
  fun e he => hp e (h.idle e he)

theorem Tightens.isFull (h : Tightens p q) (hp : isFull p = true) : isFull q = true := by
  rw [Pool.isFull, h.settings]
  exact any_le_mono h.total hp

theorem Tightens.isFullFor (h : Tightens p q) (hp : isFullFor target p = true) :
    isFullFor target q = true := by
  rw [Pool.isFullFor, h.settings]
  exact any_le_mono (h.openCount target) hp

/-- A shortage lasts while the pool only tightens. -/
theorem Tightens.shortage (h : Tightens p q) (hp : p.Shortage target) : q.Shortage target := by
  refine ⟨h.lacks hp.lacks, hp.full.imp h.isFullFor ?_⟩
  rintro ⟨hfull, hidle⟩
  refine ⟨h.isFull hfull, List.eq_nil_iff_forall_not_mem.mpr fun e he => ?_⟩
  exact List.not_mem_nil (hidle ▸ h.idle e he)

/-! ### What an operation does to those who wait -/

/-- An operation wakes all callers that wait, or it leaves them alone and only tightens the
pool. -/
structure Heeds (p q : Pool) : Prop where
  nextTicket : q.nextTicket = p.nextTicket
  waiting : q.waiting = p.notify.waiting ∨ q.waiting = p.waiting ∧ Tightens p q

theorem Heeds.trans (hpq : Heeds p q) (hqr : Heeds q r) : Heeds p r := by
  refine ⟨hqr.nextTicket.trans hpq.nextTicket, ?_⟩
  rcases hpq.waiting with hwoken | ⟨hsame, htight⟩ <;>
    rcases hqr.waiting with hwoken' | ⟨hsame', htight'⟩
  · exact Or.inl (waiting_notify_congr hwoken ▸ hwoken')
  · exact Or.inl (hsame'.trans hwoken)
  · refine Or.inl (hwoken'.trans ?_)
    simp only [notify, hsame]
  · exact Or.inr ⟨hsame'.trans hsame, htight.trans htight'⟩

/-- A caller that was not woken waited before, and the pool has no more to offer to it. -/
theorem Heeds.spared {t : Ticket} (h : Heeds p q) (ht : t ∈ q.waiting)
    (hcalm : t.notified = false) : t ∈ p.waiting ∧ Tightens p q := by
  rcases h.waiting with hwoken | ⟨hsame, htight⟩
  · rw [hwoken] at ht
    obtain ⟨u, -, rfl⟩ := List.mem_map.mp ht
    cases hcalm
  · exact ⟨hsame ▸ ht, htight⟩

/-- The callers stay in the queue with what they asked for. -/
theorem Heeds.map_waiting {α : Type} (h : Heeds p q) {f : Ticket → α}
    (hf : ∀ t : Ticket, f { t with notified := true } = f t) :
    q.waiting.map f = p.waiting.map f := by
  rcases h.waiting with hwoken | ⟨hsame, -⟩
  · rw [hwoken, notify, List.map_map]
    exact List.map_congr_left fun t _ => hf t
  · rw [hsame]

/-- Connections are closed without waking anybody only where there were none to close. -/
private theorem heeds_bury {dead : List Opened} (hticket : q.nextTicket = p.nextTicket)
    (hwaiting : q.waiting = p.waiting) (htight : dead = [] → Tightens p q) :
    Heeds p (q.bury dead) := by
  cases dead with
  | nil => exact ⟨hticket, Or.inr ⟨hwaiting, htight rfl⟩⟩
  | cons o dead =>
    refine ⟨hticket, Or.inl ?_⟩
    simp only [Pool.bury, List.isEmpty_cons, Bool.false_eq_true, if_false, notify, hwaiting]

/-- An operation that wakes nobody and leaves the queue as it is. -/
private theorem Tightens.heeds (h : Tightens p q) (hticket : q.nextTicket = p.nextTicket)
    (hwaiting : q.waiting = p.waiting) : Heeds p q :=
  ⟨hticket, Or.inr ⟨hwaiting, h⟩⟩

private theorem tightens_expel {which : Idle → Bool} (heq : p.expel which = (q, [])) :
    Tightens p q := by
  obtain ⟨hq, hdead⟩ := Prod.mk.injEq .. ▸ heq
  rw [List.map_eq_nil_iff.mp hdead, List.foldl_nil] at hq
  subst hq
  exact ⟨rfl, fun e he => List.mem_of_mem_filter he, fun _ => Nat.le_refl _, Nat.le_refl _⟩

private theorem tightens_reap {m : Moment} (heq : p.reap m target = (q, [])) : Tightens p q := by
  simp only [reap] at heq
  split at heq
  · obtain ⟨hsettings, hidle, hopen, htotal⟩ := tightens_expel heq
    exact ⟨hsettings, hidle, hopen, htotal⟩
  · exact tightens_expel heq

/-- Acquiring takes one connection out of the idle set, and closes others only with a word. -/
theorem heeds_acquire {m : Moment} {found : Option Lease} {dead : List Opened}
    (heq : p.acquire m target = (found, q, dead)) : Heeds p q := by
  rcases hreap : p.reap m target with ⟨p₁, dead₁⟩
  have hburied : Heeds p (p₁.bury dead₁) :=
    heeds_bury (loses_reap hreap).nextTicket (loses_reap hreap).waiting
      fun hnil => tightens_reap (hnil ▸ hreap)
  simp only [acquire, hreap] at heq
  split at heq
  · simp only [Prod.mk.injEq] at heq
    obtain ⟨-, rfl, -⟩ := heq
    exact hburied
  · rename_i e hfind
    obtain ⟨before, after, hidle, hrest⟩ := Custody.newest_split hfind
    simp only [Prod.mk.injEq] at heq
    obtain ⟨-, rfl, -⟩ := heq
    refine hburied.trans (Tightens.heeds ⟨rfl, fun u hu => ?_, ?_, Nat.le_refl _⟩ rfl rfl)
    · rw [hidle]
      rw [hrest] at hu
      rcases List.mem_append.mp hu with hbefore | hafter
      · exact List.mem_append_left _ hbefore
      · exact List.mem_append_right _ (List.mem_cons_of_mem e hafter)
    · exact fun _ => Nat.le_refl _

/-- Making room changes nothing where it evicts nobody. -/
private theorem makeRoom_silent {isFull : Pool → Bool} {which : Idle → Bool} {ok : Bool}
    (heq : p.makeRoom isFull which = (ok, q, [])) : q = p := by
  unfold makeRoom at heq
  split at heq
  · split at heq
    · simp only [Prod.mk.injEq] at heq
      exact heq.2.1.symm
    · simp at heq
  · simp only [Prod.mk.injEq] at heq
    exact heq.2.1.symm

/-- Reserving takes a slot, and evicts only with a word. -/
theorem heeds_reserve {found : Option Reservation} {dead : List Opened}
    (heq : p.reserve target = (found, q, dead)) : Heeds p q := by
  have hhost := loses_makeRoom (isFullFor target) (fun e => e.target = target) p
  rcases hmake : p.makeRoom (isFullFor target) (fun e => e.target = target) with
    ⟨okHost, p₁, dead₁⟩
  rw [hmake] at hhost
  simp only [reserve, hmake] at heq
  cases okHost with
  | false =>
    simp only [Bool.false_eq_true, if_false, Prod.mk.injEq] at heq
    obtain ⟨-, rfl, -⟩ := heq
    exact heeds_bury hhost.nextTicket hhost.waiting
      fun hnil => makeRoom_silent (hnil ▸ hmake) ▸ .refl p
  | true =>
    have hall := loses_makeRoom isFull (fun _ => true) p₁
    rcases hmake₂ : p₁.makeRoom isFull (fun _ => true) with ⟨ok, p₂, dead₂⟩
    rw [hmake₂] at hall
    have hburied : Heeds p (p₂.bury (dead₁ ++ dead₂)) := by
      refine heeds_bury (hall.nextTicket.trans hhost.nextTicket)
        (hall.waiting.trans hhost.waiting) fun hnil => ?_
      obtain ⟨hnil₁, hnil₂⟩ := List.append_eq_nil_iff.mp hnil
      subst hnil₁ hnil₂
      rw [makeRoom_silent hmake₂, makeRoom_silent hmake]
      exact .refl p
    simp only [hmake₂, if_true] at heq
    cases ok with
    | false =>
      simp only [Bool.false_eq_true, if_false, Prod.mk.injEq] at heq
      obtain ⟨-, rfl, -⟩ := heq
      exact hburied
    | true =>
      simp only [if_true, Prod.mk.injEq] at heq
      obtain ⟨-, rfl, -⟩ := heq
      refine hburied.trans (Tightens.heeds ⟨rfl, fun _ he => he, fun u => ?_, ?_⟩ rfl rfl)
      · exact List.count_le_count_cons
      · exact Nat.le_succ _

theorem heeds_attempt {m : Moment} {found : Option Checkout} {dead : List Opened}
    (heq : p.attempt m target = (found, q, dead)) : Heeds p q := by
  rcases hacquire : p.acquire m target with ⟨lease, p₁, expired⟩
  have hacquired := heeds_acquire hacquire
  simp only [attempt, hacquire] at heq
  cases lease with
  | some lease =>
    simp only [Prod.mk.injEq] at heq
    obtain ⟨-, rfl, -⟩ := heq
    exact hacquired
  | none =>
    rcases hreserve : p₁.reserve target with ⟨reservation, p₂, evicted⟩
    simp only [hreserve, Prod.mk.injEq] at heq
    obtain ⟨-, rfl, -⟩ := heq
    exact hacquired.trans (heeds_reserve hreserve)

/-- Opening a connection takes nothing from the limits. -/
theorem heeds_fulfill (p : Pool) (now : Nat) (reservation : Reservation) (transport : TransportId) :
    Heeds p (p.fulfill now reservation transport).2 :=
  Tightens.heeds (.of_eq rfl rfl rfl rfl) rfl rfl

/-- Whatever is given back wakes all who wait. -/
theorem heeds_abandon (p : Pool) (reservation : Reservation) : Heeds p (p.abandon reservation) :=
  ⟨rfl, Or.inl rfl⟩

theorem heeds_discard (p : Pool) (l : Lease) : Heeds p (p.discard l) := ⟨rfl, Or.inl rfl⟩

theorem heeds_release {m : Moment} {l : Lease} {dead : List Opened}
    (heq : p.release m l = (q, dead)) : Heeds p q := by
  unfold release at heq
  split at heq
  · simp only [Prod.mk.injEq] at heq
    obtain ⟨rfl, -⟩ := heq
    exact ⟨rfl, Or.inl rfl⟩
  · simp only [Prod.mk.injEq] at heq
    obtain ⟨rfl, -⟩ := heq
    exact heeds_discard p l

/-! ### A shortage is what makes an attempt fail -/

/-- Where acquiring misses, no idle connection of the target is left. -/
theorem lacks_of_acquire {m : Moment} {dead : List Opened}
    (heq : p.acquire m target = (none, q, dead)) : q.Lacks target := by
  rcases hreap : p.reap m target with ⟨p₁, dead₁⟩
  simp only [acquire, hreap] at heq
  split at heq
  · rename_i hfind
    simp only [Prod.mk.injEq, true_and] at heq
    obtain ⟨rfl, -⟩ := heq
    intro e he htarget
    have hmiss := List.find?_eq_none.mp hfind e (List.mem_reverse.mpr he)
    exact hmiss (decide_eq_true htarget)
  · simp at heq

/-- Making room fails only when the limit is reached and all of the class are evicted. -/
private theorem full_of_makeRoom (isFull : Pool → Bool) (which : Idle → Bool) (p : Pool)
    (h : (p.makeRoom isFull which).1 = false) :
    isFull (p.makeRoom isFull which).2.1 = true ∧
      ∀ e ∈ (p.makeRoom isFull which).2.1.idle, which e = false := by
  fun_induction makeRoom isFull which p with
  | case1 p hfull hnone =>
    refine ⟨hfull, fun e he => ?_⟩
    have hmiss := List.find?_eq_none.mp (Option.map_eq_none_iff.mp hnone) e he
    exact Bool.eq_false_iff.mpr hmiss
  | case2 p hfull e r hsome ok q dead hmore ih =>
    rw [hmore] at ih
    exact ih h
  | case3 p hfull => cases h

/-- Making room takes idle connections away and adds none. -/
private theorem idle_makeRoom (isFull : Pool → Bool) (which : Idle → Bool) (p : Pool) :
    ∀ e ∈ (p.makeRoom isFull which).2.1.idle, e ∈ p.idle := by
  fun_induction makeRoom isFull which p with
  | case1 p hfull hnone => exact fun e he => he
  | case2 p hfull e r hsome ok q dead hmore ih =>
    rw [hmore] at ih
    obtain ⟨found, -, hpair⟩ := Option.map_eq_some_iff.mp hsome
    simp only [Prod.mk.injEq] at hpair
    obtain ⟨rfl, rfl⟩ := hpair
    exact fun u hu => List.mem_of_mem_eraseP (ih u hu)
  | case3 p hfull => exact fun e he => he

private theorem shortage_bury (dead : List Opened) (h : p.Shortage target) :
    (p.bury dead).Shortage target := by
  unfold Pool.bury
  split
  · exact h
  · exact ⟨h.lacks, h.full⟩

/-- Where reserving misses for want of an idle connection, there is a shortage. -/
theorem shortage_of_reserve {dead : List Opened} (hlacks : p.Lacks target)
    (heq : p.reserve target = (none, q, dead)) : q.Shortage target := by
  have hhost := full_of_makeRoom (isFullFor target) (fun e => e.target = target) p
  have hkept := idle_makeRoom (isFullFor target) (fun e => e.target = target) p
  rcases hmake : p.makeRoom (isFullFor target) (fun e => e.target = target) with
    ⟨okHost, p₁, dead₁⟩
  rw [hmake] at hhost hkept
  simp only [reserve, hmake] at heq
  cases okHost with
  | false =>
    simp only [Bool.false_eq_true, if_false, Prod.mk.injEq, true_and] at heq
    obtain ⟨rfl, -⟩ := heq
    exact shortage_bury dead₁ ⟨fun e he => hlacks e (hkept e he), Or.inl (hhost rfl).1⟩
  | true =>
    have hall := full_of_makeRoom isFull (fun _ => true) p₁
    rcases hmake₂ : p₁.makeRoom isFull (fun _ => true) with ⟨ok, p₂, dead₂⟩
    rw [hmake₂] at hall
    simp only [hmake₂, if_true] at heq
    cases ok with
    | true => simp at heq
    | false =>
      obtain ⟨hfull, hnobody⟩ := hall rfl
      have hidle : p₂.idle = [] :=
        List.eq_nil_iff_forall_not_mem.mpr fun e he => Bool.noConfusion (hnobody e he)
      simp only [Bool.false_eq_true, if_false, Prod.mk.injEq, true_and] at heq
      obtain ⟨rfl, -⟩ := heq
      refine shortage_bury _ ⟨fun e he => ?_, Or.inr ⟨hfull, hidle⟩⟩
      exact absurd (hidle ▸ he) List.not_mem_nil

/-- A failed attempt leaves a shortage. -/
theorem shortage_of_attempt {m : Moment} {dead : List Opened}
    (heq : p.attempt m target = (none, q, dead)) : q.Shortage target := by
  rcases hacquire : p.acquire m target with ⟨lease, p₁, expired⟩
  simp only [attempt, hacquire] at heq
  cases lease with
  | some lease => simp at heq
  | none =>
    rcases hreserve : p₁.reserve target with ⟨reservation, p₂, evicted⟩
    simp only [hreserve, Prod.mk.injEq, Option.map_eq_none_iff] at heq
    obtain ⟨rfl, rfl, -⟩ := heq
    exact shortage_of_reserve (lacks_of_acquire hacquire) hreserve

/-- Slots of other targets are given back without changing what a target holds. -/
private theorem openCount_foldl_forget (target : Target) (leaving : List Idle) (p : Pool)
    (h : ∀ e ∈ leaving, e.target ≠ target) :
    let q := leaving.foldl (fun p e => p.forget e.target) p
    q.settings = p.settings ∧ q.idle = p.idle ∧ q.openCount target = p.openCount target := by
  induction leaving generalizing p with
  | nil => exact ⟨rfl, rfl, rfl⟩
  | cons e leaving ih =>
    obtain ⟨hsettings, hidle, hcount⟩ :=
      ih (p.forget e.target) fun u hu => h u (List.mem_cons_of_mem e hu)
    refine ⟨hsettings, hidle, hcount.trans ?_⟩
    exact List.count_erase_of_ne (h e (List.mem_cons_self ..)).symm

/-- Looking after the idle connections does not end a shortage. -/
private theorem shortage_expel {which : Idle → Bool} {dead : List Opened} (h : p.Shortage target)
    (heq : p.expel which = (q, dead)) : q.Shortage target := by
  obtain ⟨hsettings, hidle, hcount⟩ := openCount_foldl_forget target
    (p.idle.filter which) { p with idle := p.idle.filter fun e => !which e }
    fun e he => h.lacks e (List.mem_of_mem_filter he)
  obtain ⟨rfl, -⟩ := Prod.mk.injEq .. ▸ heq
  refine ⟨fun e he => ?_, h.full.imp (fun hfull => ?_) ?_⟩
  · exact h.lacks e (List.mem_of_mem_filter (hidle ▸ he))
  · rw [isFullFor, hsettings, hcount]
    exact hfull
  · rintro ⟨hfull, hnone⟩
    simp only [hnone, List.filter_nil, List.foldl_nil, and_true]
    exact hfull

/-- Where there is a shortage, acquiring misses and does not end it. -/
theorem acquire_of_shortage (m : Moment) (h : p.Shortage target) :
    (p.acquire m target).1 = none ∧ (p.acquire m target).2.1.Shortage target := by
  rcases hreap : p.reap m target with ⟨p₁, dead₁⟩
  have hreaped : p₁.Shortage target := by
    simp only [reap] at hreap
    split at hreap
    · exact shortage_expel (p := { p with lastSweep := m.now }) ⟨h.lacks, h.full⟩ hreap
    · exact shortage_expel h hreap
  have hburied := shortage_bury dead₁ hreaped
  have hfind : (p₁.bury dead₁).idle.reverse.find? (·.target = target) = none := by
    refine List.find?_eq_none.mpr fun e he => ?_
    simpa using hburied.lacks e (List.mem_reverse.mp he)
  simp only [acquire, hreap, hfind]
  exact ⟨trivial, hburied⟩

/-- Where there is a shortage, no slot can be had. -/
theorem reserve_of_shortage (h : p.Shortage target) : (p.reserve target).1 = none := by
  have hspare : p.evict? (fun e => e.target = target) = none := by
    refine Option.map_eq_none_iff.mpr (List.find?_eq_none.mpr fun e he => ?_)
    simpa using h.lacks e he
  by_cases hhost : isFullFor target p = true
  · have hmake : p.makeRoom (isFullFor target) (fun e => e.target = target) = (false, p, []) := by
      rw [makeRoom, if_pos hhost]
      split
      · rfl
      · rename_i hsome
        simp [hspare] at hsome
    simp only [reserve, hmake, Bool.false_eq_true, if_false]
  · obtain ⟨hfull, hidle⟩ := h.full.resolve_left hhost
    have hmake : p.makeRoom (isFullFor target) (fun e => e.target = target) = (true, p, []) := by
      rw [makeRoom, if_neg hhost]
    have hmake₂ : p.makeRoom isFull (fun _ => true) = (false, p, []) := by
      rw [makeRoom, if_pos hfull]
      split
      · rfl
      · rename_i hsome
        simp [evict?, hidle] at hsome
    simp only [reserve, hmake, hmake₂, if_true, Bool.false_eq_true, if_false]

/-- Where there is a shortage, every attempt fails. -/
theorem attempt_of_shortage (m : Moment) (h : p.Shortage target) :
    (p.attempt m target).1 = none := by
  obtain ⟨hmiss, hlasting⟩ := acquire_of_shortage m h
  rcases hacquire : p.acquire m target with ⟨lease, p₁, expired⟩
  rw [hacquire] at hmiss hlasting
  subst hmiss
  simp only [attempt, hacquire, reserve_of_shortage hlasting, Option.map_none]

/-! ### The queue does not matter to an attempt -/

/-- The pool with an empty queue. -/
def unqueued (p : Pool) : Pool := { p with waiting := [], nextTicket := 0 }

/-- Burying only tells the queue. -/
private theorem unqueued_bury (p : Pool) (dead : List Opened) :
    (p.bury dead).unqueued = p.unqueued := by
  unfold Pool.bury
  split <;> rfl

private theorem bury_unqueued (p : Pool) (dead : List Opened) :
    p.unqueued.bury dead = p.unqueued := by
  unfold Pool.bury
  split <;> rfl

private theorem expel_unqueued (p : Pool) (which : Idle → Bool) :
    p.unqueued.expel which = ((p.expel which).1.unqueued, (p.expel which).2) := by
  have hcommutes (leaving : List Idle) (p : Pool) :
      leaving.foldl (fun p e => p.forget e.target) p.unqueued =
        (leaving.foldl (fun p e => p.forget e.target) p).unqueued :=
    List.foldl_hom unqueued fun _ _ => rfl
  simp only [expel, ← hcommutes]
  rfl

private theorem reap_unqueued (p : Pool) (m : Moment) (target : Target) :
    p.unqueued.reap m target = ((p.reap m target).1.unqueued, (p.reap m target).2) := by
  by_cases hdue : p.settings.cleanerPeriod ≤ m.now - p.lastSweep
  · have hsame : p.unqueued.settings.cleanerPeriod ≤ m.now - p.unqueued.lastSweep := hdue
    simp only [reap, hdue, hsame, if_true]
    exact expel_unqueued { p with lastSweep := m.now } _
  · have hsame : ¬ p.unqueued.settings.cleanerPeriod ≤ m.now - p.unqueued.lastSweep := hdue
    simp only [reap, hdue, hsame, if_false]
    exact expel_unqueued p _

private theorem evict?_unqueued (p : Pool) (which : Idle → Bool) :
    p.unqueued.evict? which = (p.evict? which).map fun (e, q) => (e, q.unqueued) := by
  simp only [evict?, Option.map_map]
  rfl

private theorem makeRoom_unqueued (isFull : Pool → Bool) (which : Idle → Bool)
    (hfull : ∀ p, isFull p.unqueued = isFull p) (p : Pool) :
    p.unqueued.makeRoom isFull which =
      ((p.makeRoom isFull which).1, (p.makeRoom isFull which).2.1.unqueued,
        (p.makeRoom isFull which).2.2) := by
  fun_induction makeRoom isFull which p with
  | case1 p h hnone =>
    rw [makeRoom, if_pos ((hfull p).trans h)]
    split
    · rfl
    · rename_i e q hsome
      simp [evict?_unqueued, hnone] at hsome
  | case2 p h e q hsome ok r dead hmore ih =>
    rw [makeRoom, if_pos ((hfull p).trans h)]
    split
    · rename_i hnone
      simp [evict?_unqueued, hsome] at hnone
    · rename_i e' q' hsome'
      simp only [evict?_unqueued, hsome, Option.map_some, Option.some.injEq,
        Prod.mk.injEq] at hsome'
      obtain ⟨rfl, rfl⟩ := hsome'
      rw [ih, hmore]
  | case3 p h => rw [makeRoom, if_neg fun hf => h ((hfull p).symm.trans hf)]

private theorem acquire_unqueued (p : Pool) (m : Moment) (target : Target) :
    (p.unqueued.acquire m target).1 = (p.acquire m target).1 ∧
      (p.unqueued.acquire m target).2.1 = (p.acquire m target).2.1.unqueued := by
  rcases hreap : p.reap m target with ⟨p₁, dead⟩
  have hburied := unqueued_bury p₁ dead
  simp only [acquire, reap_unqueued, hreap, bury_unqueued, ← hburied]
  cases hfind : (p₁.bury dead).idle.reverse.find? (·.target = target) with
  | none => simp only [unqueued, hfind, and_self]
  | some e => simp only [unqueued, hfind, and_self]

private theorem reserve_unqueued (p : Pool) (target : Target) :
    (p.unqueued.reserve target).1 = (p.reserve target).1 := by
  have hhost := makeRoom_unqueued (isFullFor target) (fun e => e.target = target)
    (fun _ => rfl) p
  rcases hmake : p.makeRoom (isFullFor target) (fun e => e.target = target) with ⟨okHost, p₁, dead₁⟩
  rw [hmake] at hhost
  have hall := makeRoom_unqueued isFull (fun _ => true) (fun _ => rfl) p₁
  simp only [reserve, hmake, hhost, hall]
  split
  · split <;> rfl
  · rfl

private theorem attempt_unqueued (p : Pool) (m : Moment) (target : Target) :
    (p.unqueued.attempt m target).1 = (p.attempt m target).1 := by
  obtain ⟨hfound, hpool⟩ := acquire_unqueued p m target
  rcases hacquire : p.acquire m target with ⟨found, p₁, dead⟩
  rcases hsame : p.unqueued.acquire m target with ⟨found', p₂, dead'⟩
  simp only [hacquire, hsame] at hfound hpool
  subst hfound hpool
  cases found' with
  | some lease => simp only [attempt, hacquire, hsame]
  | none => simp only [attempt, hacquire, hsame, reserve_unqueued]

/-- An attempt gives the same whoever waits. -/
theorem attempt_congr (m : Moment) (target : Target) (h : p.unqueued = q.unqueued) :
    (p.attempt m target).1 = (q.attempt m target).1 := by
  rw [← attempt_unqueued p, h, attempt_unqueued]

end Pool

end HttpClient
