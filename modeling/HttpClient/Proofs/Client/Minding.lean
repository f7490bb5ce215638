import HttpClient.Proofs.Client.Departures
import HttpClient.Proofs.Client.Events
import HttpClient.Proofs.Client.Handshake
import HttpClient.Proofs.Exchange.Parks

/-!
# Connections that exchanges go on with

Once its request is out on a connection an exchange with a realm goes on with that connection, or
the connection is closed, until it hears a head there that is the final response or a redirect to
follow. As long as it goes on with it nothing is parked for the connection, because an exchange
parks its state only with such a head, and others only for connections of their own.
-/

namespace HttpClient

/-- What an exchange has of a connection on which it goes on with an attempt. -/
def Place.Minds (conn : ConnId) : Place → Prop
  | kept l | asked l | draining l _ | spent l | rested l true => l.id = conn
  | bare | dialing _ _ | streaming _ | rested _ false => False

/-- False while a body is dropped after which the connection goes back. -/
def Phase.keeps : Phase → Bool
  | draining _ _ _ after => after.keeps
  | _ => true

/-- What a body has is not for an attempt. -/
theorem Body.not_minds (b : Body) {conn : ConnId} {head : ResponseHead} :
    ¬(Phase.answered head b).place.Minds conn := by
  cases hlease : b.lease <;>
  · simp only [Phase.place, hlease]
    exact id

namespace Exchange

variable {x y : Exchange} {s t : Shared} {h h' : Hand} {notes : List Note}

/-- An exchange with a realm goes on with a connection until it parts with what is negotiated there.
-/
structure Minds (x : Exchange) (h : Hand) (conn : ConnId) : Prop where
  realm : x.realm.isSome = true
  place : (x.place h).Minds conn
  /-- What is dropped is the body of a challenge that is answered on the same connection. -/
  keeps : x.phase.keeps = true

/-- As long as it hears no head an exchange goes on with its connection, or it has none any more. -/
theorem minds_move {conn : ConnId} (hx : x.Minds h conn) (htidy : x.Tidy h)
    (hm : Move ⟨x, s, h⟩ notes ⟨y, t, h'⟩) (hsilent : ∀ note ∈ notes, note.head? = none) :
    y.Minds h' conn ∨ (y.place h').lease? = none := by
  obtain ⟨hrealm, hplace, hkeeps⟩ := hx
  have htidy' := tidy_move htidy hm
  have hbare : ∀ {y : Exchange}, y.held = none → y.phase.place = .bare →
      (y.place .empty).lease? = none := by
    intro y hheld hphase
    rw [place_of_held hheld, hphase]
    rfl
  cases hm with
  | take hheld =>
    simp only [place, hheld] at hplace
    exact Or.inl ⟨hrealm, hplace, hkeeps⟩
  | giveBack | close | store =>
    exact Or.inr (hbare (htidy.held_of_hand rfl) (htidy.bare_of_hand rfl))
  | spoil | retry | keep | hush => exact Or.inl ⟨hrealm, hplace, hkeeps⟩
  | refuse hurl hask | queue hurl hask | find hurl hask | dial limit hurl hask =>
    rw [place_of_asked htidy hask] at hplace
    exact hplace.elim
  | establish hphase | abandon hphase | leave hphase =>
    rw [htidy.place_of_phase hphase rfl] at hplace
    exact hplace.elim
  | send limit htarget hbind hcompose =>
    refine Or.inl ⟨?_, ?_, rfl⟩
    · rw [(attempt_frame hbind hcompose).1]
      exact hrealm
    · rw [htidy'.place_of_phase rfl rfl]
      exact hplace
  | misfit hbind hcompose =>
    have hy := (attempt_frame hbind hcompose).1
    refine Or.inl ⟨?_, hplace, ?_⟩ <;> rw [hy]
    · exact hrealm
    · exact hkeeps
  | @finish x s phase delivery hphase hheld hend =>
    rw [place_of_held hheld] at hplace
    rcases hphase with hphase | hphase <;> rw [hphase] at hplace <;> exact hplace.elim
  | challenge | follow | answer | reject => cases hsilent _ List.mem_cons_self
  | lose hphase | quit hphase =>
    rw [htidy.place_of_phase hphase rfl] at hplace
    exact Or.inl ⟨hrealm, hplace, rfl⟩
  | skim hphase =>
    rw [htidy.place_of_phase hphase rfl] at hplace
    rw [hphase] at hkeeps
    refine Or.inl ⟨hrealm, ?_, hkeeps⟩
    rw [htidy'.place_of_phase rfl rfl]
    exact hplace
  | @rest x s l read limit after inbox hphase =>
    rw [htidy.place_of_phase hphase rfl] at hplace
    rw [hphase] at hkeeps
    cases after with
    | answer header keep =>
      obtain rfl : keep = true := hkeeps
      exact Or.inl ⟨hrealm, hplace, rfl⟩
    | follow next => cases hkeeps
  | @spill x s l read limit after item inbox hphase =>
    rw [htidy.place_of_phase hphase rfl] at hplace
    rw [hphase] at hkeeps
    cases after with
    | answer header keep => exact Or.inl ⟨hrealm, hplace, rfl⟩
    | follow next => cases hkeeps
  | @tire x s l read limit after hphase =>
    rw [htidy.place_of_phase hphase rfl] at hplace
    rw [hphase] at hkeeps
    cases after with
    | answer header keep => exact Or.inl ⟨hrealm, hplace, rfl⟩
    | follow next => cases hkeeps
  | @pump x s head body next effect inbox hphase =>
    rw [htidy.place_of_phase hphase rfl] at hplace
    exact absurd hplace body.not_minds
  | @touch x s head body next delivery hphase =>
    rw [htidy.place_of_phase hphase rfl] at hplace
    exact absurd hplace body.not_minds

end Exchange

/-- What is minded is what an exchange has, and does not go back at the end of a body. -/
theorem Place.Minds.lease {p : Place} {conn : ConnId} (h : p.Minds conn) :
    ∃ l, p.lease? = some l ∧ l.id = conn ∧ p ≠ .rested l false := by
  match p, h with
  | .kept l, h => exact ⟨l, rfl, h, nofun⟩
  | .asked l, h => exact ⟨l, rfl, h, nofun⟩
  | .draining l _, h => exact ⟨l, rfl, h, nofun⟩
  | .spent l, h => exact ⟨l, rfl, h, nofun⟩
  | .rested l true, h => exact ⟨l, rfl, h, nofun⟩

namespace Snapshot

open Exchange

/-- A connection is gone, or an exchange goes on with it and nothing is parked for it. -/
def Minds (id : ExchangeId) (conn : ConnId) (a : Snapshot) : Prop :=
  a.Gone conn ∨ ∃ x, a.client.exchange? id = some x ∧ x.Minds (a.handOf id) conn ∧
    ∀ e ∈ a.client.shared.arena.entries, e.conn ≠ conn

variable {settings : Settings} {supply : Supply} {a b : Snapshot} {c : Client}
  {id k : ExchangeId} {h h' : Hand} {j : Journal} {x y : Exchange} {t : Shared} {notes : List Note}
  {conn : ConnId} {l : Lease} {limit : Option Nat}

/-- What is parked in a move is for the connection of the exchange that moves. -/
theorem Sound.parks {e : Parked} (ha : Sound settings.pool ⟨c, id, h, j⟩)
    (hx : c.exchange? id = some x) (hmove : Move ⟨x, c.shared, h⟩ notes ⟨y, t, h'⟩)
    (he : e ∈ t.arena.entries) :
    e ∈ c.shared.arena.entries ∨
      (x.place h).connId? = some e.conn ∧ ¬∀ note ∈ notes, note.head? = none := by
  rcases arena_of_move hmove with hsub | ⟨l, limit, head, key, n, hphase, rfl, hput⟩
  · exact Or.inl (hsub.subset he)
  · rw [hput] at he
    rcases Arena.mem_put he with ⟨hold, -⟩ | rfl
    · exact Or.inl hold
    · have hlease : x.phase.place.lease? = some l := by rw [hphase]; rfl
      refine Or.inr ⟨?_, fun hsilent => absurd (hsilent _ List.mem_cons_self) nofun⟩
      rw [(ha.actor hx).1.place_of_lease hlease, Place.connId?, hlease]
      rfl

/-- As long as it hears no head an exchange goes on with its connection, for which nothing is
parked, or the connection is gone. -/
theorem Minds.step (hminds : Minds id conn a) (ha : Sound settings.pool a) (hstep : Step a b)
    (hsilent : b.journal.heads id = a.journal.heads id) : Minds id conn b := by
  rcases hminds with hgone | ⟨z, hz, hmind, hfree⟩
  · exact Or.inl (hgone.step ha hstep)
  cases hstep with
  | turn next =>
    rw [handOf_empty] at hmind
    exact Or.inr ⟨z, hz, by rw [handOf_empty]; exact hmind, hfree⟩
  | world now supply streams canceled => exact Or.inr ⟨z, hz, hmind, hfree⟩
  | submit request delivery =>
    obtain ⟨hid, -⟩ := List.getElem?_eq_some_iff.mp hz
    exact Or.inr ⟨z, (List.getElem?_append_left hid).trans hz, hmind, hfree⟩
  | @move c k h j x notes y t h' hx hmove =>
    by_cases hk : k = id
    · subst hk
      obtain rfl := Option.some.inj (hz.symm.trans hx)
      rw [handOf, if_pos rfl] at hmind
      have hquiet := Journal.silent_of_heads hsilent rfl
      rcases minds_move hmind (ha.actor hx).1 hmove hquiet with hnext | hnone
      · refine Or.inr ⟨y, Client.exchange?_put_self hx, by rwa [handOf, if_pos rfl], fun e he => ?_⟩
        exact hfree e ((ha.parks hx hmove he).resolve_right fun hnew => hnew.2 hquiet)
      · obtain ⟨l, hlease, rfl, hrested⟩ := hmind.place.lease
        exact Or.inl (ha.gone hx hmove hlease hrested hnone)
    · have hhand : (⟨c, k, h, j⟩ : Snapshot).handOf id = .empty := if_neg (Ne.symm hk)
      refine Or.inr ⟨z, (Client.exchange?_put_of_ne (Ne.symm hk)).trans hz, ?_, fun e he => ?_⟩
      · rw [hhand] at hmind
        rwa [handOf, if_neg (Ne.symm hk)]
      · rcases ha.parks hx hmove he with hold | ⟨hown, -⟩
        · exact hfree e hold
        · -- What is parked is for the connection of another exchange.
          obtain ⟨l, hlease, rfl, -⟩ := hmind.place.lease
          obtain ⟨m, hm, hconn⟩ := Option.map_eq_some_iff.mp hown
          rw [← hconn]
          exact (ha.id_alone hz hlease).2.2 k x m hk hx (by rwa [handOf, if_pos rfl])

/-- A connection that an exchange leaves, and that does not become idle, is gone. -/
theorem Sound.gone_of_left {j' : Journal} (ha : Sound settings.pool ⟨c, 0, .empty, j⟩)
    (hx : c.exchange? id = some x) (hlease : (x.place .empty).lease? = some l)
    (hbare : (y.place .empty).lease? = none) (hnext : t.pool.nextId = c.shared.pool.nextId)
    (hidle : t.pool.idle = c.shared.pool.idle) : Gone ⟨c.put id y t, 0, .empty, j'⟩ l.id := by
  obtain ⟨hissued, hnone, hothers⟩ := ha.id_alone hx (by rwa [handOf_empty])
  refine ⟨hnext.symm ▸ hissued, fun e he => hnone e (hidle ▸ he), fun k z m hz hm => ?_⟩
  rw [handOf_empty] at hm
  by_cases hk : k = id
  · subst hk
    obtain rfl := Option.some.inj ((Client.exchange?_put_self hx).symm.trans hz)
    cases hbare.symm.trans hm
  · refine hothers k z m hk ((Client.exchange?_put_of_ne hk).symm.trans hz) ?_
    rwa [handOf_empty]

/-- A request that is out with a realm minds its connection. -/
theorem Reachable.minds (hreach : Reachable settings supply ⟨c, 0, .empty, j⟩)
    (hx : c.exchange? id = some x) (hrealm : x.realm.isSome = true)
    (hphase : x.phase = .sending l limit) : Minds id l.id ⟨c, 0, .empty, j⟩ := by
  have htidy := hreach.sound.tidy id x hx
  rw [handOf_empty] at htidy
  refine Or.inr ⟨x, hx, ⟨hrealm, ?_, by rw [hphase]; rfl⟩,
    (hreach.bound.binds id x hx).taken l limit hphase hrealm⟩
  rw [handOf_empty, htidy.place_of_phase hphase rfl]
  rfl

end Snapshot

namespace Client

open Snapshot Exchange

variable {settings : Settings} {supply : Supply} {c : Client} {id : ExchangeId} {j : Journal}
  {x : Exchange} {conn : ConnId} {event : Event} {head : Head}

/-- In an event an exchange hears a head on a connection, after which it has its final response or
follows a redirect. -/
structure Settles (c : Client) (event : Event) (id : ExchangeId) (conn : ConnId) : Prop where
  own : event = .run (.exchange id)
  heard : ∃ x l limit head, c.exchange? id = some x ∧ x.phase = .sending l limit ∧ l.id = conn ∧
    x.heard? c.shared = some head
  parted : ∃ y, (c.step event).exchange? id = some y ∧ y.phase.isParted = true

/-- A head that an exchange hears on the connection that it minds is settled there, or the exchange
goes on with the connection, or the connection is gone. -/
theorem minds_of_heard (hreach : Reachable settings supply ⟨c, 0, .empty, j⟩)
    (hx : c.exchange? id = some x) (hmind : x.Minds .empty conn)
    (hfree : ∀ e ∈ c.shared.arena.entries, e.conn ≠ conn) (hheard : x.heard? c.shared = some head)
    (j' : Journal) :
    c.Settles (.run (.exchange id)) id conn ∨
      Minds id conn ⟨c.step (.run (.exchange id)), 0, .empty, j'⟩ := by
  obtain ⟨l, limit, hphase, -, -, hstep, -⟩ := step_of_heard hheard
  obtain ⟨htidy, -⟩ := (hreach.next (.turn id)).sound.actor hx
  have hplace : x.place .empty = .asked l := htidy.place_of_phase hphase rfl
  obtain rfl : l.id = conn := by
    have hmine := hmind.place
    rwa [hplace] at hmine
  have hheld := htidy.held_of_phase hphase rfl
  rcases hnext : x.headArrived c.shared head l with ⟨y, t⟩
  have hparts : Parts x c.shared (l.afterHead head) (x.headArrived c.shared head l).1
      (x.headArrived c.shared head l).2 := parts_headArrived hheld
  rw [hnext] at hstep hparts
  have hput : c.step (.run (.exchange id)) = c.put id y t :=
    c.step_run_of_turn (.exchange id) hx hstep
  have hy : (c.put id y t).exchange? id = some y := exchange?_put_self hx
  rw [hput]
  cases hparts with
  | part hparted =>
    exact Or.inl ⟨rfl, ⟨x, l, limit, head, hx, hphase, rfl, hheard⟩, y, by rwa [hput], hparted⟩
  | answer hdraining hrealm hkept hpool harena =>
    refine Or.inr (Or.inr ⟨y, hy, ⟨hrealm ▸ hmind.realm, ?_, by rw [hdraining]; rfl⟩, ?_⟩)
    · rw [handOf_empty, place_of_held (hkept.trans hheld), hdraining]
      exact l.id_afterHead head
    · change ∀ e ∈ t.arena.entries, e.conn ≠ l.id
      rwa [harena]
  | close hfailed hnone hpool =>
    obtain ⟨e, hfailed⟩ := hfailed
    refine Or.inr (Or.inl (hreach.sound.gone_of_left hx ?_ ?_ ?_ ?_))
    · rw [hplace]
      rfl
    · rw [place_of_held hnone, hfailed]
      rfl
    · rw [hpool]
      rfl
    · rw [hpool]
      rfl

/-- An event settles what is minded, or an exchange goes on with it, or the connection is gone. -/
theorem minds_of_event (hreach : Reachable settings supply ⟨c, 0, .empty, j⟩)
    (hminds : Minds id conn ⟨c, 0, .empty, j⟩) (event : Event) :
    c.Settles event id conn ∨ Minds id conn ⟨c.step event, 0, .empty, j ++ c.notes event⟩ := by
  by_cases hunheard : ∀ x, event = .run (.exchange id) → c.exchange? id = some x →
      x.heard? c.shared = none
  · exact Or.inr (event_of_unheard
      (fun a b hreach hstep hsilent (hminds : Minds id conn a) =>
        hminds.step hreach.sound hstep hsilent)
      hreach hminds event (heads_of_unheard j event hunheard))
  · push Not at hunheard
    obtain ⟨x, rfl, hx, hheard⟩ := hunheard
    obtain ⟨head, hheard⟩ := Option.ne_none_iff_exists'.mp hheard
    rcases hminds with hgone | ⟨z, hz, hmind, hfree⟩
    · have hkept : IsKept fun a => Reachable settings supply a ∧ a.Gone conn :=
        fun a b ha hstep => ⟨ha.1.next hstep, ha.2.step ha.1.sound hstep⟩
      exact Or.inr (Or.inl (hkept.event ⟨hreach, hgone⟩ _).2)
    · obtain rfl := Option.some.inj (hz.symm.trans hx)
      rw [handOf_empty] at hmind
      exact minds_of_heard hreach hx hmind hfree hheard _

/-- Of what an exchange minds nothing is parked until it is settled. -/
theorem minds_of_run (hreach : Reachable settings supply ⟨c, 0, .empty, j⟩)
    (hminds : Minds id conn ⟨c, 0, .empty, j⟩) (events : List Event) :
    (∃ before event later, events = before ++ event :: later ∧
      (c.run before).Settles event id conn) ∨
    Minds id conn ⟨c.run events, 0, .empty, j ++ c.journal events⟩ := by
  induction events generalizing c j with
  | nil =>
    rw [journal, List.append_nil]
    exact Or.inr hminds
  | cons event events ih =>
    rcases minds_of_event hreach hminds event with hsettles | hnext
    · exact Or.inl ⟨[], event, events, rfl, hsettles⟩
    · rcases ih (hreach.event event) hnext with ⟨before, found, later, rfl, hsettles⟩ | hlast
      · exact Or.inl ⟨event :: before, found, later, rfl, hsettles⟩
      · rw [List.append_assoc] at hlast
        exact Or.inr hlast

end Client

end HttpClient
