import HttpClient.Proofs.Pool.Custody

/-!
# What the operations of a pool do to custody

Each operation is a chain of elementary moves, from any state whose books are balanced. The
statements hold for all that is checked out, reserved or gone besides, so that they apply to a
caller among many.
-/

namespace HttpClient

/-- What a caller who asked has got. -/
def CheckoutStatus.checkout? : CheckoutStatus → Option Checkout
  | .ready checkout => some checkout
  | _ => none

namespace Custody

/-- The custody after a caller got something. -/
def grant (c : Custody) : Option Checkout → Custody
  | none => c
  | some (.idle lease) => { c with leases := lease ::ₘ c.leases }
  | some (.reserved r) => { c with reservations := r ::ₘ c.reservations }

variable {p q : Pool} {L : Multiset Lease} {R : Multiset Reservation} {G O : Multiset Opened}

/-- Waking the waiting callers changes nothing else. -/
theorem notify_moves : Moves ⟨p, L, R, G, O⟩ ⟨p.notify, L, R, G, O⟩ :=
  .single (.note p.lastSweep _ p.nextTicket)

/-- After closing connections the waiting callers may be woken. -/
theorem bury_moves (dead : List Opened) : Moves ⟨p, L, R, G, O⟩ ⟨p.bury dead, L, R, G, O⟩ := by
  unfold Pool.bury
  split
  · exact .refl
  · exact notify_moves

/-- Taking out a class of the idle connections retires them one after the other. -/
private theorem retire_all (which : Idle → Bool) (rest : List Idle) :
    ∀ (before : List Idle) (p : Pool) (G : Multiset Opened), Balanced ⟨p, L, R, G, O⟩ →
      p.idle = before ++ rest →
      Moves ⟨p, L, R, G, O⟩
        ⟨(rest.filter which).foldl (fun p e => p.forget e.target)
            { p with idle := before ++ rest.filter fun e => !which e },
          L, R, ((rest.filter which).map Idle.toOpened : List Opened) + G, O⟩ := by
  induction rest with
  | nil =>
    intro before p G _ hidle
    simp only [List.append_nil] at hidle
    simpa [← hidle] using Relation.ReflTransGen.refl
  | cons e rest ih =>
    intro before p G h hidle
    by_cases he : which e = true
    · have hslot := h.idle_mem_slots (e := e) (by simp [hidle])
      have hmove := Move.retire (L := L) (R := R) (G := G) (O := O) hidle hslot (h.total_pos hslot)
      have hrest := ih before _ _ (h.move hmove) rfl
      rw [List.filter_cons_of_pos he, List.filter_cons_of_neg (by simp [he]), List.foldl_cons,
        List.map_cons, ← Multiset.cons_coe, Multiset.cons_add, ← Multiset.add_cons]
      exact .head hmove hrest
    · rw [List.filter_cons_of_neg he, List.filter_cons_of_pos (by simpa using he),
        List.append_cons before]
      refine ih (before ++ [e]) p G h ?_
      rw [hidle, List.append_cons]

/-- Taking out a class of the idle connections closes them and gives back their slots. -/
theorem expel_moves (h : Balanced ⟨p, L, R, G, O⟩) {which : Idle → Bool} {dead : List Opened}
    (heq : p.expel which = (q, dead)) : Moves ⟨p, L, R, G, O⟩ ⟨q, L, R, dead + G, O⟩ := by
  obtain ⟨rfl, rfl⟩ := Prod.mk.injEq .. ▸ heq
  exact retire_all which p.idle [] p G h rfl

/-- Looking after a target closes what is expired. -/
theorem reap_moves (h : Balanced ⟨p, L, R, G, O⟩) {m : Moment} {target : Target}
    {dead : List Opened} (heq : p.reap m target = (q, dead)) :
    Moves ⟨p, L, R, G, O⟩ ⟨q, L, R, dead + G, O⟩ := by
  simp only [Pool.reap] at heq
  split at heq
  · have hnote : Move ⟨p, L, R, G, O⟩ ⟨{ p with lastSweep := m.now }, L, R, G, O⟩ :=
      .note m.now p.waiting p.nextTicket
    exact .head hnote (expel_moves (h.move hnote) heq)
  · exact expel_moves h heq

/-- The newest idle connection of a class, and the others around it. -/
theorem newest_split {idle : List Idle} {which : Idle → Bool} {e : Idle}
    (hfind : idle.reverse.find? which = some e) :
    ∃ before after, idle = before ++ e :: after ∧
      (idle.reverse.eraseP which).reverse = before ++ after := by
  obtain ⟨he, newer, older, hsplit, hnewer⟩ := List.find?_eq_some_iff_append.mp hfind
  refine ⟨older.reverse, newer.reverse, ?_, ?_⟩
  · have hrev := congrArg List.reverse hsplit
    simpa using hrev
  · rw [hsplit, List.eraseP_append_right _ (by simpa using hnewer), List.eraseP_cons_of_pos he,
      List.reverse_append]

/-- Acquiring closes what is expired and may check out an idle connection. -/
theorem acquire_moves (h : Balanced ⟨p, L, R, G, O⟩) {m : Moment} {target : Target}
    {found : Option Lease} {dead : List Opened} (heq : p.acquire m target = (found, q, dead)) :
    Moves ⟨p, L, R, G, O⟩ (grant ⟨q, L, R, dead + G, O⟩ (found.map .idle)) := by
  rcases hreap : p.reap m target with ⟨p₁, dead₁⟩
  have hreaped := (reap_moves h hreap).trans (bury_moves dead₁)
  simp only [Pool.acquire, hreap] at heq
  split at heq
  · obtain ⟨rfl, rfl, rfl⟩ : none = found ∧ p₁.bury dead₁ = q ∧ dead₁ = dead := by
      simpa only [Prod.mk.injEq] using heq
    exact hreaped
  · rename_i e hfind
    obtain ⟨before, after, hidle, hrest⟩ := newest_split hfind
    simp only [Prod.mk.injEq] at heq
    obtain ⟨rfl, rfl, rfl⟩ := heq
    rw [hrest]
    exact hreaped.tail (.lend hidle)

/-- Evicting an idle connection closes it and gives back its slot. -/
theorem evict_moves (h : Balanced ⟨p, L, R, G, O⟩) {which : Idle → Bool} {e : Idle}
    (heq : p.evict? which = some (e, q)) :
    Moves ⟨p, L, R, G, O⟩ ⟨q, L, R, e.toOpened ::ₘ G, O⟩ := by
  obtain ⟨found, hfind, hpair⟩ := Option.map_eq_some_iff.mp heq
  simp only [Prod.mk.injEq] at hpair
  obtain ⟨rfl, rfl⟩ := hpair
  obtain ⟨he, before, after, hidle, hbefore⟩ := List.find?_eq_some_iff_append.mp hfind
  have hslot := h.idle_mem_slots (List.mem_of_find?_eq_some hfind)
  have herase : p.idle.eraseP which = before ++ after := by
    rw [hidle, List.eraseP_append_right _ (by simpa using hbefore), List.eraseP_cons_of_pos he]
  rw [herase]
  exact .single (.retire hidle hslot (h.total_pos hslot))

/-- Making room evicts idle connections, and there is room at the end if it says so. -/
theorem makeRoom_moves (isFull : Pool → Bool) (which : Idle → Bool) (p : Pool) :
    ∀ G, Balanced ⟨p, L, R, G, O⟩ →
      Moves ⟨p, L, R, G, O⟩
        ⟨(p.makeRoom isFull which).2.1, L, R, (p.makeRoom isFull which).2.2 + G, O⟩ ∧
      ((p.makeRoom isFull which).1 = true → isFull (p.makeRoom isFull which).2.1 = false) := by
  fun_induction Pool.makeRoom isFull which p with
  | case1 p hfull hnone =>
    intro G h
    simpa using Relation.ReflTransGen.refl
  | case2 p hfull e r hsome ok q dead hmore ih =>
    intro G h
    have hevict := evict_moves h hsome
    obtain ⟨hmoves, hroom⟩ := ih _ (h.moves hevict)
    rw [hmore] at hmoves hroom
    refine ⟨hevict.trans ?_, hroom⟩
    rw [← Multiset.cons_coe, Multiset.cons_add, ← Multiset.add_cons]
    exact hmoves
  | case3 p hfull =>
    intro G h
    simpa [hfull] using Relation.ReflTransGen.refl

/-- Evicting leaves room for a target where there was room. -/
private theorem isFullFor_evict {which : Idle → Bool} {e : Idle}
    (heq : p.evict? which = some (e, q)) {target : Target} (h : p.isFullFor target = false) :
    q.isFullFor target = false := by
  obtain ⟨found, -, hpair⟩ := Option.map_eq_some_iff.mp heq
  simp only [Prod.mk.injEq] at hpair
  obtain ⟨rfl, rfl⟩ := hpair
  have hle := Pool.openCount_forget_le { p with idle := p.idle.eraseP which } found.target target
  rw [Pool.isFullFor, Option.any_eq_false_iff_get] at h ⊢
  intro hsome
  have hroom := h hsome
  rw [decide_eq_false_iff_not, Nat.not_le] at hroom ⊢
  exact hle.trans_lt hroom

/-- Making room leaves room for a target where there was room. -/
private theorem isFullFor_makeRoom (isFull : Pool → Bool) (which : Idle → Bool) (p : Pool)
    {target : Target} (h : p.isFullFor target = false) :
    (p.makeRoom isFull which).2.1.isFullFor target = false := by
  fun_induction Pool.makeRoom isFull which p with
  | case1 p hfull hnone => exact h
  | case2 p hfull e r hsome ok q dead hmore ih =>
    have hroom := ih (isFullFor_evict hsome h)
    rwa [hmore] at hroom
  | case3 p hfull => exact h

/-- Waking the waiting callers takes no room. -/
private theorem isFull_bury (p : Pool) (dead : List Opened) (target : Target) :
    (p.bury dead).isFullFor target = p.isFullFor target ∧ (p.bury dead).isFull = p.isFull := by
  unfold Pool.bury
  split <;> exact ⟨rfl, rfl⟩

/-- Reserving may close idle connections, and may claim a slot where the limits leave room. -/
theorem reserve_moves (h : Balanced ⟨p, L, R, G, O⟩) {target : Target} {r : Option Reservation}
    {dead : List Opened} (heq : p.reserve target = (r, q, dead)) :
    Moves ⟨p, L, R, G, O⟩ (grant ⟨q, L, R, dead + G, O⟩ (r.map .reserved)) := by
  obtain ⟨hhost, hhostRoom⟩ := makeRoom_moves (Pool.isFullFor target)
    (fun e => e.target = target) p G h
  rcases hmake : p.makeRoom (Pool.isFullFor target) (fun e => e.target = target) with
    ⟨okHost, p₁, dead₁⟩
  rw [hmake] at hhost hhostRoom
  simp only [Pool.reserve, hmake] at heq
  cases okHost with
  | false =>
    simp only [Bool.false_eq_true, if_false, Prod.mk.injEq] at heq
    obtain ⟨rfl, rfl, rfl⟩ := heq
    exact hhost.trans (bury_moves _)
  | true =>
    obtain ⟨hall, hallRoom⟩ := makeRoom_moves Pool.isFull (fun _ => true) p₁ _ (h.moves hhost)
    have hkept := isFullFor_makeRoom Pool.isFull (fun _ => true) p₁
      (hhostRoom rfl)
    rcases hmake₂ : p₁.makeRoom Pool.isFull (fun _ => true) with ⟨ok, p₂, dead₂⟩
    rw [hmake₂] at hall hallRoom hkept
    have hevicted : Moves ⟨p, L, R, G, O⟩
        ⟨p₂.bury (dead₁ ++ dead₂), L, R, (dead₁ ++ dead₂ : List Opened) + G, O⟩ := by
      rw [← Multiset.coe_add, Multiset.add_comm (dead₁ : Multiset Opened),
        Multiset.add_assoc]
      exact (hhost.trans hall).trans (bury_moves _)
    simp only [hmake₂, if_true] at heq
    cases ok with
    | false =>
      simp only [Bool.false_eq_true, if_false, Prod.mk.injEq] at heq
      obtain ⟨rfl, rfl, rfl⟩ := heq
      exact hevicted
    | true =>
      simp only [if_true, Prod.mk.injEq] at heq
      obtain ⟨rfl, rfl, rfl⟩ := heq
      obtain ⟨hroomFor, hroom⟩ := isFull_bury p₂ (dead₁ ++ dead₂) target
      exact hevicted.tail (.claim target (hroomFor.trans hkept) (hroom.trans (hallRoom rfl)))

/-- Giving up a slot gives it back. -/
theorem abandon_moves {r : Reservation} (h : Balanced ⟨p, L, r ::ₘ R, G, O⟩) :
    Moves ⟨p, L, r ::ₘ R, G, O⟩ ⟨p.abandon r, L, R, G, O⟩ := by
  have hslot := h.reservation_mem_slots
  exact .head (.abandon r hslot (h.total_pos hslot)) notify_moves

/-- Discarding a lease closes it and gives back its slot. -/
theorem discard_moves {l : Lease} (h : Balanced ⟨p, l ::ₘ L, R, G, O⟩) :
    Moves ⟨p, l ::ₘ L, R, G, O⟩ ⟨p.discard l, L, R, l.toOpened ::ₘ G, O⟩ := by
  have hslot := h.lease_mem_slots
  exact .head (.discard l h.inUse_pos hslot (h.total_pos hslot)) notify_moves

/-- Releasing a lease keeps it or closes it. -/
theorem release_moves {l : Lease} (h : Balanced ⟨p, l ::ₘ L, R, G, O⟩) {m : Moment}
    {dead : List Opened} (heq : p.release m l = (q, dead)) :
    Moves ⟨p, l ::ₘ L, R, G, O⟩ ⟨q, L, R, dead + G, O⟩ := by
  unfold Pool.release at heq
  split at heq
  · simp only [Prod.mk.injEq] at heq
    obtain ⟨rfl, rfl⟩ := heq
    rw [Multiset.coe_nil, Multiset.zero_add]
    exact .head (.keep l m.now h.inUse_pos) notify_moves
  · simp only [Prod.mk.injEq] at heq
    obtain ⟨rfl, rfl⟩ := heq
    exact discard_moves h

/-- An attempt to check out gives a lease, a slot or nothing. -/
theorem attempt_moves (h : Balanced ⟨p, L, R, G, O⟩) {m : Moment} {target : Target}
    {found : Option Checkout} {dead : List Opened} (heq : p.attempt m target = (found, q, dead)) :
    Moves ⟨p, L, R, G, O⟩ (grant ⟨q, L, R, dead + G, O⟩ found) := by
  rcases hacquire : p.acquire m target with ⟨lease, p₁, expired⟩
  have hacquired := acquire_moves h hacquire
  simp only [Pool.attempt, hacquire] at heq
  cases lease with
  | some lease =>
    simp only [Prod.mk.injEq] at heq
    obtain ⟨rfl, rfl, rfl⟩ := heq
    exact hacquired
  | none =>
    rcases hreserve : p₁.reserve target with ⟨r, p₂, evicted⟩
    have hreserved := reserve_moves (h.moves hacquired) hreserve
    simp only [hreserve, Prod.mk.injEq] at heq
    obtain ⟨rfl, rfl, rfl⟩ := heq
    rw [← Multiset.coe_add, Multiset.add_comm (expired : Multiset Opened), Multiset.add_assoc]
    exact hacquired.trans hreserved

/-- An attempt that may end in waiting gives what it finds. -/
theorem attemptUntil_moves (h : Balanced ⟨p, L, R, G, O⟩) {m : Moment} {t : Ticket}
    {status : CheckoutStatus} {dead : List Opened}
    (heq : p.attemptUntil m t = (status, q, dead)) :
    Moves ⟨p, L, R, G, O⟩ (grant ⟨q, L, R, dead + G, O⟩ status.checkout?) := by
  rcases hattempt : p.attempt m t.target with ⟨found, p₁, dead₁⟩
  have hattempted := attempt_moves h hattempt
  simp only [Pool.attemptUntil, hattempt] at heq
  cases found with
  | some checkout =>
    simp only [Prod.mk.injEq] at heq
    obtain ⟨rfl, rfl, rfl⟩ := heq
    exact hattempted
  | none =>
    dsimp only at heq
    split at heq
    · simp only [Prod.mk.injEq] at heq
      obtain ⟨rfl, rfl, rfl⟩ := heq
      exact hattempted
    · simp only [Prod.mk.injEq] at heq
      obtain ⟨rfl, rfl, rfl⟩ := heq
      exact hattempted.tail (.note p₁.lastSweep _ p₁.nextTicket)

/-- A checkout gives what it finds. -/
theorem checkout_moves (h : Balanced ⟨p, L, R, G, O⟩) {m : Moment} {target : Target}
    {wait : Option Nat} {status : CheckoutStatus} {dead : List Opened}
    (heq : p.checkout m target wait = (status, q, dead)) :
    Moves ⟨p, L, R, G, O⟩ (grant ⟨q, L, R, dead + G, O⟩ status.checkout?) := by
  have hnote : Move ⟨p, L, R, G, O⟩ ⟨{ p with nextTicket := p.nextTicket + 1 }, L, R, G, O⟩ :=
    .note p.lastSweep p.waiting (p.nextTicket + 1)
  exact .head hnote (attemptUntil_moves (h.move hnote) heq)

/-- Leaving the queue changes nothing else. -/
theorem dequeue_moves (ticket : Nat) : Moves ⟨p, L, R, G, O⟩ ⟨p.dequeue ticket, L, R, G, O⟩ :=
  .single (.note p.lastSweep _ p.nextTicket)

/-- A waiting caller who tries again gets what it finds. -/
theorem resume_moves (h : Balanced ⟨p, L, R, G, O⟩) {m : Moment} {ticket : Nat}
    {status : CheckoutStatus} {dead : List Opened}
    (heq : p.resume m ticket = (status, q, dead)) :
    Moves ⟨p, L, R, G, O⟩ (grant ⟨q, L, R, dead + G, O⟩ status.checkout?) := by
  unfold Pool.resume at heq
  split at heq
  · simp only [Prod.mk.injEq] at heq
    obtain ⟨rfl, rfl, rfl⟩ := heq
    rw [Multiset.coe_nil, Multiset.zero_add]
    exact .refl
  · split at heq
    · have hleft := dequeue_moves (p := p) (L := L) (R := R) (G := G) (O := O) ticket
      exact hleft.trans (attemptUntil_moves (h.moves hleft) heq)
    · simp only [Prod.mk.injEq] at heq
      obtain ⟨rfl, rfl, rfl⟩ := heq
      rw [Multiset.coe_nil, Multiset.zero_add]
      exact .refl

end Custody

end HttpClient
