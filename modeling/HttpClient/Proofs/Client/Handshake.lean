import HttpClient.Proofs.Client.Binding

/-!
# Handshakes stay on their connections

Credentials made from a challenge go out on the connection of the challenge, as the next request
there, or not at all; and a request on a connection begins with a fresh state or with the one that
was reached there. So nothing that was learned on one connection is ever used on another.
-/

namespace HttpClient

/-- A state that a request on a connection may begin with: a fresh one, or the one that was reached
on the same connection. -/
def Journal.Begins (j : Journal) (conn : ConnId) (realm : Realm) (n : Negotiator) : Prop :=
  n = Negotiator.ofRealm (some realm) ∨ j.state? conn = some n

/-- Where the credentials and the state of a request on a connection come from. -/
inductive Presents (earlier : Journal) (id : ExchangeId) (l : Lease) (realm : Realm)
    (after : Exchange) : Option HeaderValue → Prop
  /-- They answer the last head on the connection, and nothing was sent there since. -/
  | answer {header} (h : earlier.Answered id l.toOpened realm header after.negotiator) :
    Presents earlier id l realm after (some header)
  /-- They are sent unasked. -/
  | unasked {n value supply rest} (hbegins : earlier.Begins l.id realm n)
    (h : n.preempt realm (after.authRequest l.target) supply =
      (.ok value, after.negotiator, rest)) : Presents earlier id l realm after value
  | bare (hbegins : earlier.Begins l.id realm after.negotiator) :
    Presents earlier id l realm after none

/-- What goes out on a connection, and what a head there leads to, comes from that connection. -/
structure Proper (settings : Settings) (earlier : Journal) (entry : ExchangeId × Note) : Prop where
  sent : ∀ transport message after realm, entry.2 = .sent transport message after →
    after.realm = some realm → realm.scheme.isConnectionScoped = true →
      ∃ l limit value, after.phase = .sending l limit ∧ l.transport = transport ∧
        message = after.message settings l.target value ∧
        Presents earlier entry.1 l realm after value
  /-- A head belongs to the last request on its connection. -/
  heard : ∀ l head realm answer state, entry.2 = .heard l head realm answer state →
    ∃ y s limit, y.phase = .sending l limit ∧ earlier.Asked entry.1 l.toOpened y ∧
      entry.2 = y.headNote s l head

namespace Exchange

variable {x y z : Exchange} {s t u : Shared} {h h' : Hand} {id : ExchangeId} {l : Lease}
  {gone : ConnId → Prop} {j : Journal} {notes : List Note} {realm : Realm}

/-- Pending credentials that are left after a connection was chosen answer the last head there, and
the state is the one that this head led to. -/
theorem Binds.answered_of_bind {p : PendingAuth} (hx : x.Binds (.ready l) id gone s.arena j)
    (htraced : s.arena.Traced j) (hown : ¬ gone l.id) (hrealm : x.realm = some realm)
    (hscoped : realm.scheme.isConnectionScoped = true) (hbind : x.bind s l = (y, t))
    (hpending : y.pending = some p) :
    j.Answered id l.toOpened realm p.header x.negotiator ∧ y.negotiator = x.negotiator := by
  obtain ⟨hconn, hbefore⟩ := hx.awaits_of_bind hbind hrealm hscoped hpending
  obtain ⟨conn, hsame, hgone | hawaits⟩ := hx.awaits realm p hrealm hscoped hbefore
  · rw [hconn, Option.some.injEq] at hsame
    rw [← hsame] at hgone
    exact absurd hgone hown
  · have hanswered : j.Answered id l.toOpened realm p.header x.negotiator := hawaits.2
    refine ⟨hanswered, ?_⟩
    -- The state may have been parked by another request, but then it is the same.
    rcases (bound_of_bind hrealm hbind).state with hsame | hparked | ⟨-, hnone⟩
    · exact hsame
    · have hreached := (htraced _ hparked).1
      exact Option.some.inj (hreached.symm.trans hanswered.state?)
    · rw [hnone] at hpending
      cases hpending

/-- The credentials of a request that goes out come from its connection. -/
theorem Binds.presents {message : Message} (limit : Option Nat)
    (hx : x.Binds (.ready l) id gone s.arena j) (htidy : x.Tidy (.ready l))
    (htraced : s.arena.Traced j) (hown : ¬ gone l.id) (hrealm : x.realm = some realm)
    (hscoped : realm.scheme.isConnectionScoped = true) (hbind : x.bind s l = (y, t))
    (hcompose : y.compose t l.target = (.ok message, z, u)) :
    ∃ value,
      message = Exchange.message { z with phase := .sending l limit } s.settings l.target value ∧
      Presents j id l realm { z with phase := .sending l limit } value := by
  have hresting := htidy.rests ⟨l, Or.inl rfl⟩
  have hstateful :=
    hx.negotiates.isConnectionScoped hrealm (by rw [hresting]; rfl) hscoped
  have hbound := bound_of_bind hrealm hbind
  have hy := (bind_frame hbind).1
  obtain ⟨value, hcredentials, hmessage⟩ := compose_ok hcompose
  have hz := (credentials_frame hcredentials).1
  have hsettings : u.settings = s.settings := by rw [(attempt_frame hbind hcompose).2]
  refine ⟨value, ?_, ?_⟩
  · rw [hmessage, hsettings]
    rfl
  · have hyrealm : y.realm = some realm := by rw [hy, hrealm]
    have hbegins : y.pending = none → j.Begins l.id realm y.negotiator := by
      intro hnone
      rcases hbound.fresh hstateful hnone with hfresh | hparked
      · exact Or.inl hfresh
      · exact Or.inr (htraced _ hparked).1
    rcases credentials_cases hyrealm hcredentials with
      ⟨p, hpending, rfl, hstate⟩ | ⟨hnone, ⟨rfl, hstate⟩ | hpreempt⟩
    · obtain ⟨hanswered, hkept⟩ :=
        hx.answered_of_bind htraced hown hrealm hscoped hbind hpending
      refine .answer ?_
      simp only
      rw [hstate, hkept]
      exact hanswered
    · refine .bare ?_
      simp only
      rw [hstate]
      exact hbegins hnone
    · have hrequest : z.authRequest l.target = y.authRequest l.target := by rw [hz]; rfl
      rw [← hrequest] at hpreempt
      exact .unasked (hbegins hnone) hpreempt

/-- What a move notes is proper. -/
theorem Binds.proper {note : Note} (hx : x.Binds h id gone s.arena j) (htidy : x.Tidy h)
    (haims : x.Aims s h) (htraced : s.arena.Traced j)
    (hown : ∀ l, (x.place h).lease? = some l → ¬ gone l.id)
    (hconduct : Conduct ⟨x, s, h⟩ notes ⟨y, t, h'⟩) (hnote : note ∈ notes) :
    Proper s.settings j (id, note) := by
  constructor
  · intro transport message after realm hsent hrealm hscoped
    obtain rfl : note = .sent transport message after := hsent
    obtain ⟨hsends, rfl⟩ := sends_of_conduct haims hconduct hnote
    cases hsends with
    | @intro l message y t z u limit hurl hbind hcompose =>
      have hreal : x.realm = some realm := by
        rw [(attempt_frame hbind hcompose).1] at hrealm
        exact hrealm
      obtain ⟨value, hmessage, hpresents⟩ :=
        hx.presents limit htidy htraced (hown l rfl) hreal hscoped hbind hcompose
      exact ⟨l, limit, value, rfl, rfl, hmessage, hpresents⟩
  · intro l head realm answer state hheard
    obtain rfl : note = .heard l head realm answer state := hheard
    obtain ⟨limit, hphase, hhead⟩ := hears_of_conduct hconduct hnote
    obtain ⟨z, hasked, hsame⟩ := hx.asked l limit hphase
    refine ⟨z, s, limit, ?_, hasked, ?_⟩
    · rw [hsame] at hphase
      exact hphase
    · rw [hsame] at hhead
      exact hhead

end Exchange

/-- The stream of a connection that an exchange has. -/
theorem Place.transport?_of_lease {p : Place} {l : Lease} (h : p.lease? = some l) :
    p.transport? = some l.transport := by
  rw [transport?, h, Option.map_some, Option.some_or]

namespace Snapshot

open Exchange

/-- Every exchange is bound to its connection, what is parked was reached on the connection that it
is parked for, and everything in the journal is proper. -/
structure Bound (settings : Settings) (a : Snapshot) : Prop where
  binds : ∀ id x, a.client.exchange? id = some x →
    x.Binds (a.handOf id) id a.Gone a.client.shared.arena a.journal
  traced : a.client.shared.arena.Traced a.journal
  configured : a.client.shared.settings = settings
  proper : a.journal.All (Proper settings)

variable {settings : Settings} {a b : Snapshot} {c : Client} {id : ExchangeId} {h h' : Hand}
  {j : Journal} {x y : Exchange} {t : Shared} {notes : List Note}

theorem bound_make (settings : Settings) (supply : Supply) :
    Bound settings { client := Client.make settings supply } where
  binds := fun id x hx => by simp [Client.make, Client.exchange?] at hx
  traced := fun e he => absurd he List.not_mem_nil
  configured := rfl
  proper := fun earlier entry later hsplit => by simp at hsplit

/-- A request that was just submitted is bound. -/
theorem binds_ofRequest (s : Shared) (request : Request) (delivery : Option Delivery)
    (gone : ConnId → Prop) (arena : Arena) (j : Journal) :
    (ofRequest s request delivery).Binds .empty id gone arena j := by
  refine .of_phase ?_ (awaits_of_none rfl) (Or.inl rfl)
  intro realm hrealm _
  simp only [ofRequest] at hrealm ⊢
  rw [hrealm]
  exact Negotiator.scheme?_ofScheme _

/-- What another exchange has is quiet while an exchange moves. -/
theorem Sound.quiet {k : ExchangeId} {z : Exchange} {l : Lease}
    (ha : Sound settings.pool ⟨c, id, h, j⟩) (hx : c.exchange? id = some x)
    (hmove : Move ⟨x, c.shared, h⟩ notes ⟨y, t, h'⟩) (hk : k ≠ id) (hz : c.exchange? k = some z)
    (hl : (z.place .empty).lease? = some l) : ∀ note ∈ notes, note.Quiet l.toOpened := by
  have hplace : (⟨c, id, h, j⟩ : Snapshot).handOf k = .empty := by simp only [handOf, hk, if_false]
  have hhand : (⟨c, id, h, j⟩ : Snapshot).handOf id = h := by simp only [handOf, if_true]
  have hlease : (z.place ((⟨c, id, h, j⟩ : Snapshot).handOf k)).lease? = some l := by
    rw [hplace]
    exact hl
  have htransport := (ha.transport_alone hz (Place.transport?_of_lease hlease)).2.2 id x hk.symm hx
  have hid := (ha.id_alone hz hlease).2.2 id x
  rw [hhand] at htransport hid
  refine Place.quiet_of_turn (ha.turn hx hmove).1 htransport fun hsame => ?_
  obtain ⟨m, hm, hconn⟩ := Option.map_eq_some_iff.mp hsame
  exact hid m hk.symm hx hm hconn

/-- A connection that an exchange has is not gone. -/
theorem not_gone_of_place {l : Lease} (hx : c.exchange? id = some x)
    (hl : (x.place h).lease? = some l) : ¬ Gone ⟨c, id, h, j⟩ l.id := by
  intro hgoes
  have hplaces := hgoes.places id x l hx
  simp only [handOf, if_true] at hplaces
  exact hplaces hl rfl

/-- The exchange that acts is bound with what is in hand. -/
theorem Bound.actor (ha : Bound settings ⟨c, id, h, j⟩) (hx : c.exchange? id = some x) :
    x.Binds h id (Gone ⟨c, id, h, j⟩) c.shared.arena j := by
  have hbinds := ha.binds id x hx
  simp only [handOf, if_true] at hbinds
  exact hbinds

/-- A move of an exchange leaves everything bound. -/
theorem Bound.move (ha : Bound settings ⟨c, id, h, j⟩) (hsound : Sound settings.pool ⟨c, id, h, j⟩)
    (hx : c.exchange? id = some x) (hmove : Move ⟨x, c.shared, h⟩ notes ⟨y, t, h'⟩) :
    Bound settings ⟨c.put id y t, id, h', j ++ notes.map (Prod.mk id)⟩ := by
  obtain ⟨htidy, haims⟩ := hsound.actor hx
  have hbinds := ha.actor hx
  have hturn := (hsound.turn hx hmove).1
  have hconduct := conduct_of_move htidy hmove
  have hgone : ∀ conn, Gone ⟨c, id, h, j⟩ conn →
      Gone ⟨c.put id y t, id, h', j ++ notes.map (Prod.mk id)⟩ conn :=
    fun conn hgoes => hgoes.move hsound hx hmove
  have hown : ∀ l, (x.place h).lease? = some l → ¬ Gone ⟨c, id, h, j⟩ l.id :=
    fun l hl => not_gone_of_place hx hl
  refine ⟨fun k z hz => ?_, hbinds.traced ha.traced hconduct, ?_, ?_⟩
  · by_cases hk : k = id
    · subst hk
      obtain rfl : y = z := Option.some.inj ((Client.exchange?_put_self hx).symm.trans hz)
      simp only [handOf, if_true]
      exact hbinds.conduct htidy ha.traced hconduct hturn hgone
        fun l hl hrested hnone => hsound.gone hx hmove hl hrested hnone
    · have hz' : c.exchange? k = some z := (Client.exchange?_put_of_ne hk).symm.trans hz
      have htidy' := hsound.tidy k z hz'
      have hbinds' := ha.binds k z hz'
      have hplaced' := fun l => hsound.id_alone hz' (l := l)
      simp only [handOf, hk, if_false] at htidy' hbinds' hplaced' ⊢
      refine hbinds'.others htidy' hgone
        (fun l hl => hsound.quiet hx hmove hk hz' hl) fun l hl e he => ?_
      rcases hconduct.parks he with hold | ⟨m, limit, hphase, hconn⟩
      · exact Or.inl hold
      · have hlease : x.phase.place.lease? = some m := by rw [hphase]; rfl
        have hplace := htidy.place_of_lease hlease
        have hother := (hplaced' l hl).2.2 id x m (Ne.symm hk) hx
        simp only [if_true] at hother
        rw [hconn]
        exact Or.inr (hother (by rw [hplace, hlease]))
  · exact (settings_move hmove).trans ha.configured
  · have hproper : ∀ note ∈ notes, Proper settings j (id, note) := by
      intro note hnote
      rw [← ha.configured]
      exact hbinds.proper htidy haims ha.traced hown hconduct hnote
    exact Place.all_of_turn ha.proper id hturn hproper

/-- Whatever happens to a client leaves everything bound. -/
theorem Bound.step (ha : Bound settings a) (hsound : Sound settings.pool a) (hstep : Step a b) :
    Bound settings b := by
  have hgone : ∀ conn, a.Gone conn → b.Gone conn := fun conn hgoes => hgoes.step hsound hstep
  cases hstep with
  | @turn c id j next =>
    refine ⟨fun k x hx => ?_, ha.traced, ha.configured, ha.proper⟩
    have hbinds := (ha.binds k x hx).closing hgone
    rw [handOf_empty] at hbinds ⊢
    exact hbinds
  | move hx hmove => exact ha.move hsound hx hmove
  | @world c id j now supply streams canceled =>
    refine ⟨fun k x hx => ?_, ha.traced, ha.configured, ha.proper⟩
    have hbinds := (ha.binds k x hx).closing hgone
    rw [handOf_empty] at hbinds ⊢
    exact hbinds
  | @submit c id j request delivery =>
    refine ⟨fun k x hx => ?_, ha.traced, ha.configured, ha.proper⟩
    rw [handOf_empty]
    have hfound : (c.exchanges ++ [ofRequest c.shared request delivery])[k]? = some x := hx
    rcases Nat.lt_or_ge k c.exchanges.length with hlt | hge
    · rw [List.getElem?_append_left hlt] at hfound
      have hbinds := (ha.binds k x hfound).closing hgone
      rw [handOf_empty] at hbinds
      exact hbinds
    · rw [List.getElem?_append_right hge] at hfound
      obtain rfl := List.mem_singleton.mp (List.mem_of_getElem? hfound)
      exact binds_ofRequest ..

/-- Everything is bound in every client that can come to be. -/
theorem Reachable.bound {supply : Supply} (h : Reachable settings supply a) :
    Bound settings a := by
  induction h with
  | start => exact bound_make settings supply
  | next hbefore hstep ih => exact ih.step hbefore.sound hstep

end Snapshot

/-- Whatever happens, every request of a realm whose scheme authenticates connections carries
credentials that answer the last head on its own connection, with nothing sent there since, or that
are made without a challenge; and the state that it stands with began afresh or was the last one
that was reached on the same connection. A state is reached on a connection by a head there, from
the state of the last request there. -/
theorem Client.credentials_of_sent (settings : Settings) (supply : Supply) (events : List Event) :
    (((Client.make settings supply).run events).shared.actions.filter Action.isSaid =
      ((Client.make settings supply).journal events).filterMap (·.2.action?)) ∧
    (∀ (earlier : Journal) id transport message after later realm,
      (Client.make settings supply).journal events =
        earlier ++ (id, .sent transport message after) :: later →
      after.realm = some realm → (realm.scheme = .ntlm ∨ realm.scheme = .negotiate) →
      ∃ l limit value, after.phase = .sending l limit ∧ l.transport = transport ∧
        message = after.message settings l.target value ∧
        Presents earlier id l realm after value) ∧
    ∀ (earlier : Journal) id l head realm answer state later,
      (Client.make settings supply).journal events =
        earlier ++ (id, .heard l head realm answer state) :: later →
      ∃ after s limit, after.phase = .sending l limit ∧ earlier.Asked id l.toOpened after ∧
        .heard l head realm answer state = after.headNote s l head := by
  have hreach := Snapshot.reachable_run settings supply events
  have hproper := hreach.bound.proper
  refine ⟨hreach.actions, ?_, ?_⟩
  · intro earlier id transport message after later realm hsplit hrealm hscheme
    have hscoped : realm.scheme.isConnectionScoped = true := by
      rcases hscheme with hscheme | hscheme <;> rw [hscheme] <;> rfl
    exact (hproper earlier _ later hsplit).sent transport message after realm rfl hrealm hscoped
  · intro earlier id l head realm answer state later hsplit
    exact (hproper earlier _ later hsplit).heard l head realm answer state rfl

end HttpClient
