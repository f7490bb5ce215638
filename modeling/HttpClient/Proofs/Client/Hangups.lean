import HttpClient.Proofs.Client.Reuse
import HttpClient.Proofs.Client.Events

/-!
# Streams that are hung up

A stream that no exchange has, and over which no idle connection runs, is hung up: nothing is noted
of it any more, because a stream that is dialed has a new number. Where an attempt has a stream and
no head was heard, there is no way back to the pool; so once the exchange has the stream no longer
it is hung up.
-/

namespace HttpClient

namespace Place

/-- True for what an attempt has of a stream before a head is heard. -/
def Tries (u : TransportId) : Place → Prop
  | dialing _ transport => transport = u
  | kept l | asked l | spent l => l.transport = u
  | _ => False

variable {p q : Place} {s t : Shared} {notes : List Note} {u : TransportId}

/-- What an attempt has of a stream is the stream. -/
theorem Tries.transport? (h : p.Tries u) : p.transport? = some u := by
  cases p with
  | dialing | kept | asked | spent => exact congrArg some h
  | bare | draining | streaming | rested => exact absurd h id

/-- Until a head is heard an attempt goes on with its stream, or has nothing. -/
theorem tries_of_turn (hturn : p.Turn s notes q t) (hp : p.Tries u)
    (hsilent : ∀ note ∈ notes, note.head? = none) : q.Tries u ∨ q = .bare := by
  cases hturn with
  | stay | spoil | send => exact Or.inl hp
  | establish => exact Or.inl hp
  | abandon | close => exact Or.inr rfl
  | lose hreading =>
    rcases hreading with rfl | ⟨read, rfl⟩
    · exact Or.inl hp
    · exact absurd hp id
  | hear => exact absurd (hsilent _ List.mem_cons_self) nofun
  | ask | dial | leave | skim | rest | spill | keep | store | pump => exact absurd hp id

/-- The stream of a place it had before, or it was idle, or it is new. -/
theorem transport?_of_turn (hturn : p.Turn s notes q t) (hq : q.transport? = some u) :
    p.transport? = some u ∨ (p = .bare ∧ ∃ l, q = .kept l ∧ l.transport = u) ∨
      s.nextTransport ≤ u := by
  cases hturn with
  | stay | establish | spoil | send | skim | rest | spill | keep => exact Or.inl hq
  | @ask s t status hask =>
    rcases status with (l | r) | ticket | _
    · exact Or.inr (Or.inl ⟨rfl, l, rfl, Option.some.inj hq⟩)
    all_goals cases hq
  | @dial s t r hask =>
    obtain rfl := Option.some.inj hq
    exact Or.inr (Or.inr (Nat.le_of_eq (nextTransport_of_asks hask).symm))
  | abandon | leave | close | store => cases hq
  | @hear s t l q head realm answer state hnext =>
    left
    rw [← hq]
    rcases hnext with rfl | rfl | rfl <;> exact congrArg some (l.transport_afterHead head).symm
  | lose hreading => rcases hreading with rfl | ⟨read, rfl⟩ <;> exact Or.inl hq
  | pump hpumped => cases hpumped <;> exact Or.inl hq

end Place

namespace Exchange

/-- A connection is kept for the next attempt only after its body was read to the end. -/
theorem held_of_move {x y : Exchange} {s t : Shared} {h h' : Hand} {notes : List Note}
    (hm : Move ⟨x, s, h⟩ notes ⟨y, t, h'⟩) (hheld : x.held = none)
    (hhand : ∀ l, h ≠ .rested l true) : y.held = none := by
  cases hm with
  | take | giveBack | spoil | close | refuse | queue | find | dial | establish | abandon | leave |
    retry | finish | challenge | reject | lose | quit | skim | store | pump | touch | hush =>
    first | rfl | exact hheld
  | send limit htarget hbind hcompose =>
    rw [(attempt_frame hbind hcompose).1]
    exact hheld
  | misfit hbind hcompose =>
    rw [(attempt_frame hbind hcompose).1]
    exact hheld
  | follow next hphase hanswer hjudged hstatus hhttp hcheck hpark =>
    rw [(park_frame hpark).1]
    exact hheld
  | answer hphase hanswer hjudged hpark =>
    rw [(park_frame hpark).1]
    exact hheld
  | @rest x s l read limit after => cases after <;> exact hheld
  | @spill x s l read limit after => cases after <;> exact hheld
  | @tire x s l read limit after => cases after <;> exact hheld
  | keep => exact absurd rfl (hhand _)

end Exchange

namespace Snapshot

open Exchange

/-- A stream that no exchange has and over which no idle connection runs. -/
structure HungUp (a : Snapshot) (u : TransportId) : Prop where
  issued : u < a.client.shared.nextTransport
  idle : ∀ e ∈ a.client.shared.pool.idle, e.transport ≠ u
  places : ∀ id x, a.client.exchange? id = some x → (x.place (a.handOf id)).transport? ≠ some u

variable {settings : PoolSettings} {a b : Snapshot} {c : Client} {id k : ExchangeId} {h h' : Hand}
  {j : Journal} {x y : Exchange} {t : Shared} {notes : List Note} {u : TransportId}

/-- Between the steps of exchanges a stream is hung up if none has it then. -/
theorem hungUp_idle_iff (c : Client) (actor : ExchangeId) (j : Journal) (u : TransportId) :
    HungUp ⟨c, actor, .empty, j⟩ u ↔ u < c.shared.nextTransport ∧
      (∀ e ∈ c.shared.pool.idle, e.transport ≠ u) ∧
        ∀ x ∈ c.exchanges, (x.place .empty).transport? ≠ some u := by
  constructor
  · intro hungUp
    refine ⟨hungUp.issued, hungUp.idle, fun x hx => ?_⟩
    obtain ⟨id, hid⟩ := List.mem_iff_getElem?.mp hx
    have hplace := hungUp.places id x hid
    rwa [handOf_empty] at hplace
  · rintro ⟨hissued, hidle, hplaces⟩
    refine ⟨hissued, hidle, fun id x hx => ?_⟩
    rw [handOf_empty]
    exact hplaces x (List.mem_of_getElem? hx)

/-- What is hung up stays hung up when an exchange moves, and nothing is noted of it. -/
theorem HungUp.move (hungUp : HungUp ⟨c, id, h, j⟩ u) (ha : Sound settings ⟨c, id, h, j⟩)
    (hx : c.exchange? id = some x) (hmove : Move ⟨x, c.shared, h⟩ notes ⟨y, t, h'⟩) :
    HungUp ⟨c.put id y t, id, h', j ++ notes.map (Prod.mk id)⟩ u ∧
      ∀ note ∈ notes, note.transport ≠ u := by
  obtain ⟨hturn, hidle, hfound⟩ := ha.turn hx hmove
  have hown : (x.place h).transport? ≠ some u := by
    have hplace := hungUp.places id x hx
    rwa [handOf, if_pos rfl] at hplace
  refine ⟨⟨hungUp.issued.trans_le (Place.nextTransport_of_turn hturn), fun e he => ?_,
    fun k z hz hu => ?_⟩, fun note hnote hsame => ?_⟩
  · rcases hidle e he with ⟨f, hf, hsame⟩ | ⟨l, hplace, -, hsame, -⟩
    · rw [← congrArg Opened.transport hsame]
      exact hungUp.idle f hf
    · rw [← congrArg Opened.transport hsame]
      rintro rfl
      rw [hplace] at hown
      exact hown rfl
  · by_cases hk : k = id
    · subst hk
      obtain rfl : y = z := Option.some.inj ((Client.exchange?_put_self hx).symm.trans hz)
      simp only [handOf, if_true] at hu
      rcases Place.transport?_of_turn hturn hu with hbefore | ⟨hp, l, hq, rfl⟩ | hnew
      · exact hown hbefore
      · obtain ⟨f, hf, hsame⟩ := hfound l hp hq
        exact hungUp.idle f hf (congrArg Opened.transport hsame)
      · exact absurd hungUp.issued (Nat.not_lt.mpr hnew)
    · have hz' : c.exchange? k = some z := (Client.exchange?_put_of_ne hk).symm.trans hz
      have hplace := hungUp.places k z hz'
      simp only [handOf, hk, if_false] at hplace hu
      exact hplace hu
  · rcases Place.transport_of_turn hturn hnote with hnoted | ⟨hnew, -⟩
    · exact hown (hsame ▸ hnoted)
    · exact absurd hungUp.issued (Nat.not_lt.mpr (Nat.le_of_eq (hnew.symm.trans hsame)))

/-- What is hung up stays hung up, whatever happens to a client, and nothing is noted of it. -/
theorem HungUp.step (hungUp : HungUp a u) (ha : Sound settings a) (hstep : Step a b) :
    HungUp b u ∧ b.journal.on u = a.journal.on u := by
  cases hstep with
  | turn next =>
    rw [hungUp_idle_iff] at hungUp ⊢
    exact ⟨hungUp, rfl⟩
  | @move c id h j x notes y t h' hx hmove =>
    obtain ⟨hnext, hnotes⟩ := hungUp.move ha hx hmove
    refine ⟨hnext, ?_⟩
    change Journal.on (j ++ notes.map (Prod.mk id)) u = j.on u
    rw [Journal.on_append, List.filter_eq_nil_iff.mpr, List.append_nil]
    exact fun note hnote hsame => hnotes note hnote (of_decide_eq_true hsame)
  | world now supply streams canceled =>
    rw [hungUp_idle_iff] at hungUp ⊢
    exact ⟨hungUp, rfl⟩
  | submit request delivery =>
    rw [hungUp_idle_iff] at hungUp ⊢
    obtain ⟨hissued, hidle, hplaces⟩ := hungUp
    refine ⟨⟨hissued, hidle, fun x hx => ?_⟩, rfl⟩
    rcases List.mem_append.mp hx with hx | hx
    · exact hplaces x hx
    · obtain rfl := List.mem_singleton.mp hx
      exact nofun

/-- A stream is hung up, or an exchange tries it and keeps nothing for later. -/
def Lets (id : ExchangeId) (u : TransportId) (a : Snapshot) : Prop :=
  HungUp a u ∨
    ∃ x, a.client.exchange? id = some x ∧ x.held = none ∧ (x.place (a.handOf id)).Tries u

/-- The move of an exchange that tries a stream goes on with it, or hangs it up. -/
theorem lets_move (ha : Sound settings ⟨c, id, h, j⟩) (hx : c.exchange? id = some x)
    (hmove : Move ⟨x, c.shared, h⟩ notes ⟨y, t, h'⟩) (hheld : x.held = none)
    (htries : (x.place h).Tries u)
    (hsilent : ∀ note ∈ notes, note.head? = none) :
    Lets id u ⟨c.put id y t, id, h', j ++ notes.map (Prod.mk id)⟩ := by
  obtain ⟨hturn, hidle, -⟩ := ha.turn hx hmove
  rcases Place.tries_of_turn hturn htries hsilent with hgoes | hbare
  · refine Or.inr ⟨y, Client.exchange?_put_self hx, held_of_move hmove hheld ?_, ?_⟩
    · rintro l rfl
      exact False.elim htries
    · rw [handOf, if_pos rfl]
      exact hgoes
  · obtain ⟨hlt, hnot, hothers⟩ := ha.transport_alone hx (u := u) (by
      rw [handOf, if_pos rfl]
      exact htries.transport?)
    refine Or.inl ⟨hlt.trans_le (Place.nextTransport_of_turn hturn), fun e he => ?_,
      fun k z hz hu => ?_⟩
    · rcases hidle e he with ⟨f, hf, hsame⟩ | ⟨l, hplace, -⟩
      · rw [← congrArg Opened.transport hsame]
        exact hnot f hf
      · rw [hplace] at htries
        exact False.elim htries
    · by_cases hk : k = id
      · subst hk
        obtain rfl : y = z := Option.some.inj ((Client.exchange?_put_self hx).symm.trans hz)
        simp only [handOf, if_true, hbare] at hu
        cases hu
      · have hz' : c.exchange? k = some z := (Client.exchange?_put_of_ne hk).symm.trans hz
        have hother := hothers k z hk hz'
        simp only [handOf, hk, if_false] at hother hu
        exact hother hu

/-- As long as it hears no head an exchange that tries a stream goes on with it, or hangs it up. -/
theorem Lets.step {settings : Settings} (hlets : Lets id u a) (ha : Sound settings.pool a)
    (hstep : Step a b) (hsilent : b.journal.heads id = a.journal.heads id) : Lets id u b := by
  rcases hlets with hungUp | ⟨z, hz, hheld, htries⟩
  · exact Or.inl (hungUp.step ha hstep).1
  cases hstep with
  | turn next =>
    rw [handOf_empty] at htries
    exact Or.inr ⟨z, hz, hheld, by rw [handOf_empty]; exact htries⟩
  | world now supply streams canceled => exact Or.inr ⟨z, hz, hheld, htries⟩
  | submit request delivery =>
    obtain ⟨hid, -⟩ := List.getElem?_eq_some_iff.mp hz
    exact Or.inr ⟨z, (List.getElem?_append_left hid).trans hz, hheld, htries⟩
  | @move c k h j x notes y t h' hx hmove =>
    by_cases hk : k = id
    · subst hk
      obtain rfl := Option.some.inj (hz.symm.trans hx)
      rw [handOf, if_pos rfl] at htries
      exact lets_move ha hx hmove hheld htries (Journal.silent_of_heads hsilent rfl)
    · refine Or.inr ⟨z, (Client.exchange?_put_of_ne (Ne.symm hk)).trans hz, hheld, ?_⟩
      simp only [handOf, Ne.symm hk, if_false] at htries ⊢
      exact htries

end Snapshot

namespace Client

open Snapshot Exchange

variable {c : Client} {j : Journal} {id : ExchangeId} {x y : Exchange} {settings : Settings}
  {supply : Supply} {u : TransportId}

/-- Nothing is noted any more of a stream that is hung up. -/
theorem on_of_hungUp (hreach : Reachable settings supply ⟨c, 0, .empty, j⟩)
    (hungUp : HungUp ⟨c, 0, .empty, j⟩ u) (later : List Event) :
    (c.journal later).on u = [] := by
  have hkept : IsKept fun a => Reachable settings supply a ∧ HungUp a u ∧
      a.journal.on u = j.on u := by
    rintro a b ⟨hreach, hungUp, hon⟩ hstep
    obtain ⟨hnext, hsame⟩ := hungUp.step hreach.sound hstep
    exact ⟨hreach.next hstep, hnext, hsame.trans hon⟩
  have hon := (hkept.run later ⟨hreach, hungUp, rfl⟩).2.2
  have happend : Journal.on (j ++ c.journal later) u = j.on u ++ (c.journal later).on u := by
    simp only [Journal.on, List.map_append, List.filter_append]
  exact List.self_eq_append_right.mp (hon.symm.trans happend)

/-- Once an exchange has let go of a stream that it tried without having heard a head, the stream is
hung up. -/
theorem hungUp_of_event (hreach : Reachable settings supply ⟨c, 0, .empty, j⟩)
    (hx : c.exchange? id = some x) (hheld : x.held = none) (htries : x.phase.place.Tries u)
    (event : Event) (hsilent : (j ++ c.notes event).heads id = j.heads id)
    (hy : (c.step event).exchange? id = some y) (hbare : y.phase.place = .bare) :
    HungUp ⟨c.step event, 0, .empty, j ++ c.notes event⟩ u := by
  have hbefore : Lets id u ⟨c, 0, .empty, j⟩ :=
    Or.inr ⟨x, hx, hheld, by rw [handOf_empty, place_of_held hheld]; exact htries⟩
  have hafter := event_of_unheard
    (fun a b hreach hstep hsilent (hlets : Lets id u a) => hlets.step hreach.sound hstep hsilent)
    hreach hbefore event hsilent
  rcases hafter with hungUp | ⟨z, hz, hnone, hgoes⟩
  · exact hungUp
  · obtain rfl := Option.some.inj (hy.symm.trans hz)
    rw [handOf_empty, place_of_held hnone, hbare] at hgoes
    exact False.elim hgoes

end Client

end HttpClient
