import HttpClient.Proofs.Client.Connections

/-!
# Connections that are gone

A connection that no exchange has and that is not idle is gone: it never comes back, because what an
exchange comes to have was idle or has a new number. A connection that an exchange has is gone once
the exchange has nothing any more, unless it went back to the pool at the end of a response.
-/

namespace HttpClient

namespace Place

variable {p q : Place} {s t : Shared} {notes : List Note}

/-- What an exchange has after a turn it had before, or it was idle, or it is new. -/
theorem lease_of_turn {k : Lease} (hturn : p.Turn s notes q t) (hq : q.lease? = some k) :
    (∃ l, p.lease? = some l ∧ k.toOpened = l.toOpened) ∨ (p = .bare ∧ q = .kept k) ∨
      s.pool.nextId ≤ k.id := by
  cases hturn with
  | stay => exact Or.inl ⟨k, hq, rfl⟩
  | @ask s t status hask =>
    rcases status with (l | r) | ticket | _
    · rw [CheckoutStatus.place, lease?, Option.some.injEq] at hq
      subst hq
      exact Or.inr (Or.inl ⟨rfl, rfl⟩)
    all_goals cases hq
  | dial | abandon | leave | close | store => cases hq
  | establish =>
    obtain rfl := Option.some.inj hq
    exact Or.inr (Or.inr (Nat.le_refl _))
  | spoil | send | skim | rest | spill | keep => exact Or.inl ⟨k, hq, rfl⟩
  | @hear s t l q head realm answer state hnext =>
    refine Or.inl ⟨l, rfl, ?_⟩
    have hafter : k = l.afterHead head := by
      rcases hnext with rfl | rfl | rfl <;> exact (Option.some.inj hq).symm
    rw [hafter]
    exact l.toOpened_afterHead head
  | lose hreading =>
    obtain rfl := Option.some.inj hq
    rcases hreading with rfl | ⟨read, rfl⟩ <;> exact Or.inl ⟨_, rfl, rfl⟩
  | @pump s t l next effect notes hpumped =>
    have hown : k = l := by
      cases hpumped <;> exact (Option.some.inj hq).symm
    exact Or.inl ⟨l, rfl, by rw [hown]⟩

end Place

namespace Snapshot

open Exchange

/-- A connection that no exchange has and that is not idle. -/
structure Gone (a : Snapshot) (conn : ConnId) : Prop where
  issued : conn < a.client.shared.pool.nextId
  idle : ∀ e ∈ a.client.shared.pool.idle, e.id ≠ conn
  places : ∀ id x l, a.client.exchange? id = some x →
    (x.place (a.handOf id)).lease? = some l → l.id ≠ conn

variable {settings : PoolSettings} {a b : Snapshot} {c : Client} {id : ExchangeId} {h h' : Hand}
  {j j' : Journal} {x y : Exchange} {t : Shared} {notes : List Note} {conn : ConnId}

/-- Between the steps of exchanges a connection is gone if none has it then. -/
theorem gone_idle_iff (c : Client) (actor : ExchangeId) (j : Journal) (conn : ConnId) :
    Gone ⟨c, actor, .empty, j⟩ conn ↔ conn < c.shared.pool.nextId ∧
      (∀ e ∈ c.shared.pool.idle, e.id ≠ conn) ∧
        ∀ x ∈ c.exchanges, ∀ l, (x.place .empty).lease? = some l → l.id ≠ conn := by
  constructor
  · intro hgone
    refine ⟨hgone.issued, hgone.idle, fun x hx l hl => ?_⟩
    obtain ⟨id, hid⟩ := List.mem_iff_getElem?.mp hx
    exact hgone.places id x l hid (by rw [handOf_empty]; exact hl)
  · rintro ⟨hissued, hidle, hplaces⟩
    refine ⟨hissued, hidle, fun id x l hx hl => ?_⟩
    rw [handOf_empty] at hl
    exact hplaces x (List.mem_of_getElem? hx) l hl

/-- No move of an exchange takes back the number of a connection. -/
theorem Sound.nextId_le (ha : Sound settings ⟨c, id, h, j⟩) (hx : c.exchange? id = some x)
    (hmove : Move ⟨x, c.shared, h⟩ notes ⟨y, t, h'⟩) :
    c.shared.pool.nextId ≤ t.pool.nextId := by
  obtain ⟨hturn, -⟩ := ha.turn hx hmove
  obtain ⟨rest, hbefore, -⟩ := places_split (h := h) (j := j) hx
  obtain ⟨gone, opened, hmoves, -⟩ := ha.custody
  rw [hbefore] at hmoves
  obtain ⟨dead, opened', hturned⟩ :=
    Place.turned_of_turn hturn ((Custody.balanced_fresh settings).moves hmoves)
  exact Custody.nextId_moves hturned.moves

/-- What is gone stays gone when an exchange moves. -/
theorem Gone.move (hgone : Gone ⟨c, id, h, j⟩ conn) (ha : Sound settings ⟨c, id, h, j⟩)
    (hx : c.exchange? id = some x) (hmove : Move ⟨x, c.shared, h⟩ notes ⟨y, t, h'⟩) :
    Gone ⟨c.put id y t, id, h', j'⟩ conn := by
  obtain ⟨hturn, hidle, hfound⟩ := ha.turn hx hmove
  have hown : ∀ l, (x.place h).lease? = some l → l.id ≠ conn := by
    have hplaces := hgone.places id x
    simp only [handOf, if_true] at hplaces
    exact fun l hl => hplaces l hx hl
  have hle := ha.nextId_le hx hmove
  refine ⟨hgone.issued.trans_le hle, fun e he => ?_, fun k z l hz hl => ?_⟩
  · rcases hidle e he with ⟨f, hf, hsame⟩ | ⟨l, hplace, -, hsame, -⟩
    · rw [← congrArg Opened.id hsame]
      exact hgone.idle f hf
    · rw [← congrArg Opened.id hsame]
      exact hown l (by rw [hplace]; rfl)
  · by_cases hk : k = id
    · subst hk
      obtain rfl : y = z := Option.some.inj ((Client.exchange?_put_self hx).symm.trans hz)
      simp only [handOf, if_true] at hl
      rcases Place.lease_of_turn hturn hl with ⟨m, hm, hsame⟩ | ⟨hp, hq⟩ | hnew
      · rw [congrArg Opened.id hsame]
        exact hown m hm
      · obtain ⟨f, hf, hsame⟩ := hfound l hp hq
        rw [← congrArg Opened.id hsame]
        exact hgone.idle f hf
      · exact (hgone.issued.trans_le hnew).ne'
    · have hz' : c.exchange? k = some z := (Client.exchange?_put_of_ne hk).symm.trans hz
      have hplaces := hgone.places k z l hz'
      simp only [handOf, hk, if_false] at hplaces hl
      exact hplaces hl

/-- A connection is gone once the exchange that had it has nothing, unless it went back to the pool
at the end of a response. -/
theorem Sound.gone {l : Lease} (ha : Sound settings ⟨c, id, h, j⟩) (hx : c.exchange? id = some x)
    (hmove : Move ⟨x, c.shared, h⟩ notes ⟨y, t, h'⟩) (hp : (x.place h).lease? = some l)
    (hrested : x.place h ≠ .rested l false) (hq : (y.place h').lease? = none) :
    Gone ⟨c.put id y t, id, h', j'⟩ l.id := by
  obtain ⟨hissued, hnotIdle, hothers⟩ := ha.id_alone hx (by simpa [handOf] using hp)
  obtain ⟨-, hidle, -⟩ := ha.turn hx hmove
  refine ⟨Nat.lt_of_lt_of_le hissued (ha.nextId_le hx hmove), fun e he => ?_, fun k z m hz hm => ?_⟩
  · rcases hidle e he with ⟨f, hf, hsame⟩ | ⟨m, hplace, -⟩
    · rw [← congrArg Opened.id hsame]
      exact hnotIdle f hf
    · rw [hplace] at hp
      obtain rfl := Option.some.inj hp
      exact absurd hplace hrested
  · by_cases hk : k = id
    · subst hk
      obtain rfl : y = z := Option.some.inj ((Client.exchange?_put_self hx).symm.trans hz)
      simp only [handOf, if_true] at hm
      rw [hq] at hm
      cases hm
    · have hz' : c.exchange? k = some z := (Client.exchange?_put_of_ne hk).symm.trans hz
      have hother := hothers k z m hk hz'
      simp only [handOf, hk, if_false] at hother hm
      exact hother hm

/-- What is gone stays gone, whatever happens to a client. -/
theorem Gone.step (hgone : Gone a conn) (ha : Sound settings a) (hstep : Step a b) :
    Gone b conn := by
  cases hstep with
  | turn next =>
    rw [gone_idle_iff] at hgone ⊢
    exact hgone
  | move hx hmove => exact hgone.move ha hx hmove
  | world now supply streams canceled =>
    rw [gone_idle_iff] at hgone ⊢
    exact hgone
  | submit request delivery =>
    rw [gone_idle_iff] at hgone ⊢
    obtain ⟨hissued, hidle, hplaces⟩ := hgone
    refine ⟨hissued, hidle, fun x hx => ?_⟩
    rcases List.mem_append.mp hx with hx | hx
    · exact hplaces x hx
    · obtain rfl := List.mem_singleton.mp hx
      intro l hl
      cases hl

end Snapshot

end HttpClient
