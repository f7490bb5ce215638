import HttpClient.Proofs.Client.Lineage

/-!
# State and credentials are bound to a connection

While credentials made from a challenge wait to be sent, either the exchange has the connection of
the challenge, or that connection is gone. The state that goes with them is in the exchange or in
the arena, and always the one that was reached on the connection that it is kept for.
-/

namespace HttpClient

/-- What an exchange has while credentials wait that are bound to a connection: the connection, and
where a request may go out next, the challenge was the last head on it. -/
def Place.Awaits (answered : Lease → Prop) (conn : ConnId) : Place → Prop
  | kept l | rested l true => l.id = conn ∧ answered l
  | asked l | spent l => l.id = conn
  | bare | dialing _ _ | draining _ _ | streaming _ | rested _ false => False

/-- Where no head is heard the connection that credentials wait for is still there, or it is closed.
-/
theorem Place.awaits_of_turn {p q : Place} {s t : Shared} {notes : List Note}
    {answered answered' : Lease → Prop} {conn : ConnId} (hturn : p.Turn s notes q t)
    (hnotes : ∀ note ∈ notes, note.isTraffic = false) (hanswered : ∀ l, answered l → answered' l)
    (h : p.Awaits answered conn) :
    q.Awaits answered' conn ∨
      ∃ l, p.lease? = some l ∧ l.id = conn ∧ p ≠ .rested l false ∧ q.lease? = none := by
  cases hturn with
  | stay =>
    refine Or.inl ?_
    match p, h with
    | .kept l, h => exact ⟨h.1, hanswered l h.2⟩
    | .rested l true, h => exact ⟨h.1, hanswered l h.2⟩
    | .asked l, h => exact h
    | .spent l, h => exact h
  | ask | dial | establish | abandon | leave | skim | rest | spill | pump => exact h.elim
  | spoil => exact Or.inl h.1
  | @close s l => exact Or.inr ⟨l, rfl, h, nofun, rfl⟩
  | send | hear => exact absurd (hnotes _ (List.mem_singleton_self _)) nofun
  | lose hreading =>
    rcases hreading with rfl | ⟨read, rfl⟩
    · exact Or.inl h
    · exact h.elim
  | @keep s l => exact Or.inl ⟨h.1, hanswered l h.2⟩
  | @store s l keep =>
    cases keep with
    | true => exact Or.inr ⟨l, rfl, h.1, nofun, rfl⟩
    | false => exact h.elim

namespace Exchange

/-- Pending credentials that belong to a connection wait for the one that sent their challenge, or
that connection is gone. -/
def PendingAwaits (x : Exchange) (h : Hand) (id : ExchangeId) (gone : ConnId → Prop)
    (j : Journal) : Prop :=
  ∀ realm p, x.realm = some realm → realm.scheme.isConnectionScoped = true →
    x.pending = some p → ∃ conn, p.conn = some conn ∧ (gone conn ∨
      (x.place h).Awaits (fun l => j.Answered id l.toOpened realm p.header x.negotiator) conn)

/-- State and credentials of an exchange belong to the connection that it has, as far as they belong
to a connection. -/
structure Binds (x : Exchange) (h : Hand) (id : ExchangeId) (gone : ConnId → Prop) (arena : Arena)
    (j : Journal) : Prop where
  negotiates : x.Negotiates
  awaits : x.PendingAwaits h id gone j
  /-- What answers a challenge waits for the end of the body. -/
  answers : ∀ realm l read limit header keep, x.realm = some realm →
    realm.scheme.isConnectionScoped = true →
      x.phase = .draining l read limit (.answer header keep) →
        keep = true ∧ j.Answered id l.toOpened realm header x.negotiator
  /-- The exchange stands as its request left it. -/
  asked : ∀ l limit, x.phase = .sending l limit →
    ∃ y, j.Asked id l.toOpened y ∧ x = { y with delivery := x.delivery }
  /-- While a request is out nothing is parked for its connection. -/
  taken : ∀ l limit, x.phase = .sending l limit → x.realm.isSome = true →
    ∀ e ∈ arena.entries, e.conn ≠ l.id

variable {x y z : Exchange} {s t u : Shared} {h h' : Hand} {id k : ExchangeId} {l : Lease}
  {gone gone' : ConnId → Prop} {arena arena' : Arena} {j : Journal} {notes : List Note}
  {realm : Realm} {j' : Journal}

/-- A request that is out, and a body that is dropped, is what an exchange has. -/
theorem Tidy.place_of_lease (htidy : x.Tidy h) (hphase : x.phase.place.lease? = some l) :
    x.place h = x.phase.place := by
  have hempty : h = .empty := by
    by_contra hne
    rw [htidy.hand hne] at hphase
    cases hphase
  have hp : x.phase.isResting = false := by
    cases hx : x.phase with
    | resting =>
      rw [hx] at hphase
      cases hphase
    | _ => rfl
  subst hempty
  exact htidy.place_of_phase rfl hp

/-- Where the state belongs to the scheme of a realm it belongs to its connection if the scheme
does. -/
theorem Negotiates.isConnectionScoped (hx : x.Negotiates) (hrealm : x.realm = some realm)
    (hphase : x.phase.isSettled = false) (hscoped : realm.scheme.isConnectionScoped = true) :
    x.negotiator.isConnectionScoped = true := by
  rw [Negotiator.isConnectionScoped_of_scheme (hx realm hrealm hphase), hscoped]

/-- What others do leaves an exchange bound. -/
theorem Binds.others (hx : x.Binds h id gone arena j) (htidy : x.Tidy h)
    (hgone : ∀ conn, gone conn → gone' conn)
    (hquiet : ∀ l, (x.place h).lease? = some l → ∀ note ∈ notes, note.Quiet l.toOpened)
    (harena : ∀ l, (x.place h).lease? = some l → ∀ e ∈ arena'.entries,
      e ∈ arena.entries ∨ e.conn ≠ l.id) :
    x.Binds h id gone' arena' (j ++ notes.map (Prod.mk k)) where
  negotiates := hx.negotiates
  awaits := by
    intro realm p hrealm hscoped hpending
    obtain ⟨conn, hconn, hgoes | hawaits⟩ := hx.awaits realm p hrealm hscoped hpending
    · exact ⟨conn, hconn, Or.inl (hgone conn hgoes)⟩
    · refine ⟨conn, hconn, Or.inr ?_⟩
      generalize x.place h = place at hawaits hquiet
      match place, hawaits with
      | .kept l, hawaits => exact ⟨hawaits.1, hawaits.2.append k (hquiet l rfl)⟩
      | .rested l true, hawaits => exact ⟨hawaits.1, hawaits.2.append k (hquiet l rfl)⟩
      | .asked l, hawaits => exact hawaits
      | .spent l, hawaits => exact hawaits
  answers := by
    intro realm l read limit header keep hrealm hscoped hphase
    obtain ⟨hkeep, hanswered⟩ := hx.answers realm l read limit header keep hrealm hscoped hphase
    have hlease : x.phase.place.lease? = some l := by rw [hphase]; rfl
    have hplace := htidy.place_of_lease hlease
    exact ⟨hkeep, hanswered.append k (hquiet l (by rw [hplace, hlease]))⟩
  asked := by
    intro l limit hphase
    obtain ⟨y, hasked, hsame⟩ := hx.asked l limit hphase
    have hlease : x.phase.place.lease? = some l := by rw [hphase]; rfl
    have hplace := htidy.place_of_lease hlease
    exact ⟨y, hasked.append k (hquiet l (by rw [hplace, hlease])), hsame⟩
  taken := by
    intro l limit hphase hsome e he
    have hlease : x.phase.place.lease? = some l := by rw [hphase]; rfl
    have hplace := htidy.place_of_lease hlease
    rcases harena l (by rw [hplace, hlease]) e he with hold | hne
    · exact hx.taken l limit hphase hsome e hold
    · exact hne

/-- More connections that are gone leave an exchange bound. -/
theorem Binds.closing (hx : x.Binds h id gone arena j) (hgone : ∀ conn, gone conn → gone' conn) :
    x.Binds h id gone' arena j := by
  refine ⟨hx.negotiates, fun realm p hrealm hscoped hpending => ?_, hx.answers, hx.asked, hx.taken⟩
  obtain ⟨conn, hconn, hgoes | hawaits⟩ := hx.awaits realm p hrealm hscoped hpending
  · exact ⟨conn, hconn, Or.inl (hgone conn hgoes)⟩
  · exact ⟨conn, hconn, Or.inr hawaits⟩

/-- A move that does not matter for authentication leaves an exchange bound. -/
theorem Binds.carry (hx : x.Binds h id gone arena j) (hstands : x.Stands y)
    (hturn : (x.place h).Turn s notes (y.place h') t)
    (hnotes : ∀ note ∈ notes, note.isTraffic = false) (hgone : ∀ conn, gone conn → gone' conn)
    (hlost : ∀ l, (x.place h).lease? = some l → x.place h ≠ .rested l false →
      (y.place h').lease? = none → gone' l.id) (harena : arena'.entries ⊆ arena.entries) :
    y.Binds h' id gone' arena' (j ++ notes.map (Prod.mk id)) := by
  have hquiet : ∀ o, ∀ note ∈ notes, note.Quiet o :=
    fun o note hnote => Note.quiet_of_isTraffic (hnotes note hnote) o
  have hrealm := hstands.realm
  have hstate := hstands.state
  refine ⟨?_, ?_, ?_, ?_, ?_⟩
  · intro realm hreal hphase
    rw [hstate]
    exact hx.negotiates realm (hrealm ▸ hreal) (hstands.settled hphase)
  · intro realm p hreal hscoped hpending
    rw [hrealm] at hreal
    rw [hstands.pending] at hpending
    obtain ⟨conn, hconn, hgoes | hawaits⟩ := hx.awaits realm p hreal hscoped hpending
    · exact ⟨conn, hconn, Or.inl (hgone conn hgoes)⟩
    · refine ⟨conn, hconn, ?_⟩
      rw [hstate]
      rcases Place.awaits_of_turn hturn hnotes (fun l hl => hl.append id (hquiet _)) hawaits with
        hstill | ⟨l, hlease, rfl, hrested, hnone⟩
      · exact Or.inr hstill
      · exact Or.inl (hlost l hlease hrested hnone)
  · intro realm l read limit header keep hreal hscoped hphase
    obtain ⟨read', limit', hbefore⟩ := hstands.answering l read limit header keep hphase
    obtain ⟨hkeep, hanswered⟩ :=
      hx.answers realm l read' limit' header keep (hrealm ▸ hreal) hscoped hbefore
    rw [hstate]
    exact ⟨hkeep, hanswered.append id (hquiet _)⟩
  · intro l limit hphase
    have hsame := hstands.sending l limit hphase
    rw [hsame] at hphase ⊢
    obtain ⟨z, hasked, hz⟩ := hx.asked l limit hphase
    exact ⟨z, hasked.append id (hquiet _), by rw [hz]⟩
  · intro l limit hphase hsome e he
    have hsame := hstands.sending l limit hphase
    rw [hsame] at hphase hsome
    exact hx.taken l limit hphase hsome e (harena he)

/-- Pending credentials that are left after a connection was chosen wait for that connection. -/
theorem Binds.awaits_of_bind {p : PendingAuth} (hx : x.Binds (.ready l) id gone arena j)
    (hbind : x.bind s l = (y, t)) (hrealm : x.realm = some realm)
    (hscoped : realm.scheme.isConnectionScoped = true) (hpending : y.pending = some p) :
    p.conn = some l.id ∧ x.pending = some p := by
  rcases (bound_of_bind hrealm hbind).pending with hnone | ⟨hsame, hown⟩
  · rw [hnone] at hpending
    cases hpending
  · rw [hsame] at hpending
    obtain ⟨conn, hconn, -⟩ := hx.awaits realm p hrealm hscoped hpending
    rw [hconn, hown p hpending conn hconn]
    exact ⟨rfl, hpending⟩

/-- An exchange is bound when its request went out. -/
theorem Binds.send {target : Target} {message : Message} (limit : Option Nat)
    (hx : x.Binds (.ready l) id gone s.arena j) (htidy : x.Tidy (.ready l))
    (hschemes : ∀ e ∈ s.arena.entries, e.negotiator.scheme? = some e.realm.scheme)
    (hbind : x.bind s l = (y, t)) (hcompose : y.compose t target = (.ok message, z, u)) :
    Binds { z with phase := .sending l limit } .empty id gone' u.arena
      (j ++ [(id, .sent l.transport message { z with phase := .sending l limit })]) := by
  have hresting := htidy.rests ⟨l, Or.inl rfl⟩
  have hheld := htidy.held_of_hand rfl
  obtain ⟨credentials, hcredentials⟩ := compose_frame hcompose
  obtain ⟨hz, hu⟩ := credentials_frame hcredentials
  have hy := (bind_frame hbind).1
  have hrealm : z.realm = x.realm := by rw [hz, hy]
  have hpending : z.pending = y.pending := by rw [hz]
  have hplace : Exchange.place { z with phase := .sending l limit } .empty = .asked l := by
    refine place_of_held ?_
    simp only
    rw [hz, hy]
    exact hheld
  refine ⟨?_, ?_, ?_, ?_, ?_⟩
  · intro realm hreal hphase
    simp only [hrealm] at hreal
    have hsettled : x.phase.isSettled = false := by rw [hresting]; rfl
    have hscheme :=
      scheme?_attempt hreal hschemes (hx.negotiates realm hreal hsettled) hbind hcompose
    exact hscheme
  · intro realm p hreal hscoped hp
    simp only [hrealm] at hreal
    simp only [hpending] at hp
    obtain ⟨hconn, -⟩ := hx.awaits_of_bind hbind hreal hscoped hp
    refine ⟨l.id, hconn, Or.inr ?_⟩
    rw [hplace]
    rfl
  · intro realm k read limit' header keep hreal hscoped hphase
    cases hphase
  · intro k limit' hphase
    obtain ⟨rfl, rfl⟩ := Phase.sending.inj hphase
    exact ⟨_, ⟨message, Journal.last_concat ..⟩, rfl⟩
  · intro k limit' hphase hsome e he
    obtain ⟨rfl, rfl⟩ := Phase.sending.inj hphase
    simp only [hrealm] at hsome
    obtain ⟨realm, hreal⟩ := Option.isSome_iff_exists.mp hsome
    rw [hu] at he
    exact ((bound_of_bind hreal hbind).taken e he).2

/-- An exchange without a request out and without a challenge to answer is bound where its state and
its pending credentials are. -/
theorem Binds.of_phase (hnegotiates : x.Negotiates)
    (hawaits : x.PendingAwaits h id gone j)
    (hphase : x.phase = .resting ∨ x.phase.isSettled = true) : x.Binds h id gone arena j where
  negotiates := hnegotiates
  awaits := hawaits
  answers := by
    intro realm l read limit header keep hrealm hscoped hx
    rw [hx] at hphase
    rcases hphase with hphase | hphase <;> cases hphase
  asked := by
    intro l limit hx
    rw [hx] at hphase
    rcases hphase with hphase | hphase <;> cases hphase
  taken := by
    intro l limit hx
    rw [hx] at hphase
    rcases hphase with hphase | hphase <;> cases hphase

/-- An exchange is bound when its request could not be made. -/
theorem Binds.misfit {target : Target} {e : Error} (hx : x.Binds (.ready l) id gone s.arena j)
    (htidy : x.Tidy (.ready l))
    (hschemes : ∀ e ∈ s.arena.entries, e.negotiator.scheme? = some e.realm.scheme)
    (hbind : x.bind s l = (y, t)) (hcompose : y.compose t target = (.error e, z, u)) :
    z.Binds (.spent l) id gone' arena' j' := by
  have hresting := htidy.rests ⟨l, Or.inl rfl⟩
  obtain ⟨credentials, hcredentials⟩ := compose_frame hcompose
  have hz := (credentials_frame hcredentials).1
  have hy := (bind_frame hbind).1
  have hrealm : z.realm = x.realm := by rw [hz, hy]
  have hpending : z.pending = y.pending := by rw [hz]
  have hphase : z.phase = .resting := by rw [hz, hy, hresting]
  refine .of_phase ?_ ?_ (Or.inl hphase)
  · intro realm hreal hsettled
    rw [hrealm] at hreal
    rw [hphase, ← hresting] at hsettled
    exact scheme?_attempt hreal hschemes (hx.negotiates realm hreal hsettled) hbind hcompose
  · intro realm p hreal hscoped hp
    rw [hrealm] at hreal
    rw [hpending] at hp
    obtain ⟨hconn, -⟩ := hx.awaits_of_bind hbind hreal hscoped hp
    exact ⟨l.id, hconn, Or.inr rfl⟩

/-- An exchange without pending credentials has none that wait. -/
theorem awaits_of_none (hpending : x.pending = none) : x.PendingAwaits h id gone j := by
  intro realm p hrealm hscoped hp
  rw [hpending] at hp
  cases hp

/-- A head leaves an exchange that had a request out with the scheme of its realm. -/
theorem Binds.negotiates_of_head {head : Head} {limit : Option Nat}
    (hx : x.Binds h id gone arena j) (hphase : x.phase = .sending l limit)
    (hrealm : y.realm = x.realm) (hstate : y.negotiator = (x.judged s l head).2.1) :
    y.Negotiates := by
  intro realm hreal _
  rw [hrealm] at hreal
  rw [hstate, scheme?_judged]
  exact hx.negotiates realm hreal (by rw [hphase]; rfl)

/-- An exchange is bound when a challenge is to be answered. -/
theorem Binds.challenge {head : Head} {header : HeaderValue} {keep : Bool} {n : Negotiator}
    {supply : Supply} {limit next : Option Nat} (hx : x.Binds .empty id gone arena j)
    (hphase : x.phase = .sending l limit)
    (hjudged : x.judged s l head = (some (.retry header keep), n, supply))
    (hrealm : y.realm = x.realm) (hstate : y.negotiator = n) (hpending : y.pending = none)
    (hnext : y.phase = .draining (l.afterHead head) 0 next (.answer header keep)) :
    y.Binds .empty id gone' arena' (j ++ [(id, x.headNote s l head)]) := by
  refine ⟨?_, awaits_of_none hpending, ?_, ?_, ?_⟩
  · have hreached : y.negotiator = (x.judged s l head).2.1 := by rw [hjudged, hstate]
    exact hx.negotiates_of_head hphase hrealm hreached
  · intro realm k read limit' header' keep' hreal hscoped hy
    rw [hnext] at hy
    obtain ⟨rfl, -, -, hafter⟩ := Phase.draining.inj hy
    obtain ⟨rfl, rfl⟩ := AfterDrain.answer.inj hafter
    rw [hrealm] at hreal
    refine ⟨keep_of_judged hjudged, l, head, (l.toOpened_afterHead head).symm, ?_⟩
    have hnote : x.headNote s l head = .heard l head (some realm) (some header) y.negotiator := by
      simp only [headNote, hjudged, hreal, hstate]
      rfl
    rw [hnote]
    exact Journal.last_concat ..
  · intro k limit' hy
    rw [hnext] at hy
    cases hy
  · intro k limit' hy
    rw [hnext] at hy
    cases hy

/-- An exchange is bound when the body of a response is over that is not the final one. -/
theorem Binds.turn {read : Nat} {limit : Option Nat} {after : AfterDrain} {note : Note}
    (hx : x.Binds .empty id gone arena j) (hphase : x.phase = .draining l read limit after)
    (hnote : note.isTraffic = false) (hhand : h' = .rested l after.keeps ∨ h' = .spent l) :
    (x.turned l after).Binds h' id gone' arena' (j ++ [(id, note)]) := by
  cases after with
  | follow next =>
    refine .of_phase ?_ (awaits_of_none rfl) (Or.inl rfl)
    intro realm hrealm _
    simp only [turned] at hrealm ⊢
    rw [hrealm]
    exact Negotiator.scheme?_ofScheme _
  | answer header keep =>
    have hsettled : x.phase.isSettled = false := by rw [hphase]; rfl
    refine .of_phase ?_ ?_ (Or.inl rfl)
    · intro realm hrealm _
      exact hx.negotiates realm hrealm hsettled
    · intro realm p hrealm hscoped hpending
      have hstateful := hx.negotiates.isConnectionScoped hrealm hsettled hscoped
      obtain ⟨rfl, hanswered⟩ := hx.answers realm l read limit header keep hrealm hscoped hphase
      have hquiet : ∀ n ∈ [note], n.Quiet l.toOpened := by
        intro n hn
        rw [List.mem_singleton.mp hn]
        exact Note.quiet_of_isTraffic hnote _
      have hlater := hanswered.append id hquiet
      simp only [turned, hstateful, if_true, Option.some.injEq] at hpending
      subst hpending
      refine ⟨l.id, rfl, Or.inr ?_⟩
      rcases hhand with rfl | rfl
      · exact ⟨rfl, hlater⟩
      · rfl

/-- Every move leaves the exchange bound that makes it. -/
theorem Binds.conduct (hx : x.Binds h id gone s.arena j) (htidy : x.Tidy h)
    (htraced : s.arena.Traced j) (hconduct : Conduct ⟨x, s, h⟩ notes ⟨y, t, h'⟩)
    (hturn : (x.place h).Turn s notes (y.place h') t) (hgone : ∀ conn, gone conn → gone' conn)
    (hlost : ∀ l, (x.place h).lease? = some l → x.place h ≠ .rested l false →
      (y.place h').lease? = none → gone' l.id) :
    y.Binds h' id gone' t.arena (j ++ notes.map (Prod.mk id)) := by
  have hschemes : ∀ e ∈ s.arena.entries, e.negotiator.scheme? = some e.realm.scheme :=
    fun e he => (htraced e he).2
  cases hconduct with
  | carry hstands hnotes harena => exact hx.carry hstands hturn hnotes hgone hlost harena
  | send limit htarget hbind hcompose =>
    have hsent : Binds _ .empty id gone' _ _ := hx.send limit htidy hschemes hbind hcompose
    exact hsent
  | misfit hbind hcompose => exact hx.misfit htidy hschemes hbind hcompose
  | challenge next hphase hjudged hrealm hstate hpending hnext =>
    exact hx.challenge hphase hjudged hrealm hstate hpending hnext
  | part hphase hpending hsettled =>
    refine .of_phase ?_ (awaits_of_none hpending) (Or.inr hsettled)
    intro realm _ hopen
    rw [hsettled] at hopen
    cases hopen
  | reject hphase hrealm hstate hpending hresting =>
    exact .of_phase (hx.negotiates_of_head hphase hrealm hstate) (awaits_of_none hpending)
      (Or.inl hresting)
  | turn hphase hnote hhand => exact hx.turn hphase hnote hhand

/-- The state that a head leads to is noted for its connection only, and for requests of a realm. -/
theorem state?_headNote {head : Head} {conn : ConnId}
    (h : x.realm.isSome = true → conn ≠ l.id) : (x.headNote s l head).state? conn = none := by
  rw [headNote]
  cases hrealm : x.realm with
  | none => rfl
  | some realm =>
    have hne : conn ≠ l.id := h (by rw [hrealm]; rfl)
    exact if_neg hne.symm

/-- A head is noted with the state that it leads to. -/
theorem state?_concat_headNote {head : Head} (hrealm : x.realm = some realm) :
    Journal.state? (j ++ [(id, x.headNote s l head)]) l.id = some (x.judged s l head).2.1 := by
  have hown : (x.headNote s l head).state? l.id = some (x.judged s l head).2.1 := by
    rw [headNote, hrealm]
    exact if_pos rfl
  simp only [Journal.state?, List.filterMap_append, List.filterMap_cons, List.filterMap_nil, hown,
    List.getLast?_concat]

/-- What is parked after a move was parked before, and nothing was reached on its connection since,
or it is the state that the head has led to which was heard in the move. -/
theorem Binds.parked {e : Parked} (hx : x.Binds h id gone s.arena j)
    (hconduct : Conduct ⟨x, s, h⟩ notes ⟨y, t, h'⟩) (he : e ∈ t.arena.entries) :
    (e ∈ s.arena.entries ∧ ∀ note ∈ notes, note.state? e.conn = none) ∨
      ∃ l limit head realm, x.phase = .sending l limit ∧ notes = [x.headNote s l head] ∧
        x.realm = some realm ∧ e = ⟨l.id, realm.key, (x.judged s l head).2.1⟩ := by
  have hhead : ∀ {l : Lease} {limit : Option Nat} {head : Head}, x.phase = .sending l limit →
      e ∈ s.arena.entries → ∀ note ∈ [x.headNote s l head], note.state? e.conn = none := by
    intro l limit head hphase hold note hnote
    rw [List.mem_singleton.mp hnote]
    exact state?_headNote fun hsome => hx.taken l limit hphase hsome e hold
  cases hconduct with
  | carry hstands hnotes harena =>
    exact Or.inl ⟨harena he, fun note hnote => Note.state?_of_isTraffic (hnotes note hnote) _⟩
  | send limit htarget hbind hcompose =>
    refine Or.inl ⟨(arena_of_bind hbind).subset ?_, fun note hnote => ?_⟩
    · rw [← arena_of_compose hcompose]
      exact he
    · rw [List.mem_singleton.mp hnote]
      rfl
  | misfit hbind hcompose =>
    refine Or.inl ⟨(arena_of_bind hbind).subset ?_, fun note hnote => absurd hnote List.not_mem_nil⟩
    rw [← arena_of_compose hcompose]
    exact he
  | challenge next hphase hjudged hrealm hstate hpending hnext harena =>
    rw [harena] at he
    exact Or.inl ⟨he, hhead hphase he⟩
  | reject hphase hrealm hstate hpending hresting harena =>
    rw [harena] at he
    exact Or.inl ⟨he, hhead hphase he⟩
  | @part x s l limit head y t hphase hpending hsettled hparked =>
    rcases hparked e he with ⟨hold, hne⟩ | ⟨realm, hrealm, rfl⟩
    · refine Or.inl ⟨hold, fun note hnote => ?_⟩
      rw [List.mem_singleton.mp hnote]
      exact state?_headNote hne
    · exact Or.inr ⟨l, limit, head, realm, hphase, rfl, hrealm, rfl⟩
  | turn hphase hnote hhand =>
    exact Or.inl ⟨he, fun note hn => Note.state?_of_isTraffic (List.mem_singleton.mp hn ▸ hnote) _⟩

/-- What is parked stays traced with every move. -/
theorem Binds.traced (hx : x.Binds h id gone s.arena j) (htraced : s.arena.Traced j)
    (hconduct : Conduct ⟨x, s, h⟩ notes ⟨y, t, h'⟩) :
    t.arena.Traced (j ++ notes.map (Prod.mk id)) := by
  intro e he
  rcases hx.parked hconduct he with
    ⟨hold, hnotes⟩ | ⟨l, limit, head, realm, hphase, rfl, hrealm, rfl⟩
  · rw [Journal.state?_append j id hnotes]
    exact htraced e hold
  · refine ⟨state?_concat_headNote hrealm, ?_⟩
    rw [scheme?_judged]
    exact hx.negotiates realm hrealm (by rw [hphase]; rfl)

/-- What is parked in a move is for the connection of the request that was out. -/
theorem Conduct.parks {e : Parked} (hconduct : Conduct ⟨x, s, h⟩ notes ⟨y, t, h'⟩)
    (he : e ∈ t.arena.entries) :
    e ∈ s.arena.entries ∨ ∃ l limit, x.phase = .sending l limit ∧ e.conn = l.id := by
  cases hconduct with
  | carry hstands hnotes harena => exact Or.inl (harena he)
  | send limit htarget hbind hcompose =>
    refine Or.inl ((arena_of_bind hbind).subset ?_)
    rw [← arena_of_compose hcompose]
    exact he
  | misfit hbind hcompose =>
    refine Or.inl ((arena_of_bind hbind).subset ?_)
    rw [← arena_of_compose hcompose]
    exact he
  | challenge next hphase hjudged hrealm hstate hpending hnext harena => exact Or.inl (harena ▸ he)
  | @part x s l limit head y t hphase hpending hsettled hparked =>
    rcases hparked e he with ⟨hold, -⟩ | ⟨realm, -, rfl⟩
    · exact Or.inl hold
    · exact Or.inr ⟨l, limit, hphase, rfl⟩
  | reject hphase hrealm hstate hpending hresting harena => exact Or.inl (harena ▸ he)
  | turn => exact Or.inl he

end Exchange

end HttpClient
