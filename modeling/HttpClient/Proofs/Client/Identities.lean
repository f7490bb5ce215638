import HttpClient.Proofs.Client.Handshake
import HttpClient.Proofs.Exchange.Messages

/-!
# Connections and identities

A connection goes back to the pool for its target, whoever was authenticated on it, and the next
request to the target gets it, whatever its realm. What the client itself keeps apart is the state:
a request goes on with what was reached on its connection only where it was reached for the same
scheme, the same principal and the same target, and begins afresh otherwise.
-/

namespace HttpClient

/-- What a note leads to on a connection, and what tells its realm from others. -/
def Note.reached? (conn : ConnId) : Note → Option (RealmKey × Negotiator)
  | heard l _ (some realm) _ state => if l.id = conn then some (realm.key, state) else none
  | _ => none

/-- Nothing is reached where there is no state. -/
theorem Note.reached?_of_state? {conn : ConnId} {note : Note} (h : note.state? conn = none) :
    note.reached? conn = none := by
  cases note with
  | heard l head realm answer state =>
    cases realm with
    | none => rfl
    | some realm =>
      simp only [state?, ite_eq_right_iff, reduceCtorEq] at h
      exact if_neg h
  | dial | sent | skipped | streamed | broke => rfl

namespace Journal

/-- The state that was reached last on a connection, and for what realm. -/
def reached? (j : Journal) (conn : ConnId) : Option (RealmKey × Negotiator) :=
  (j.filterMap fun entry => entry.2.reached? conn).getLast?

/-- A state that a request of a realm may go on with on a connection: a fresh one, or the last that
was reached there, if that was for the realm. -/
def Resumable (j : Journal) (conn : ConnId) (realm : Realm) (n : Negotiator) : Prop :=
  n = Negotiator.ofRealm (some realm) ∨ j.reached? conn = some (realm.key, n)

/-- What an answered head led to is what was reached on its connection. -/
theorem Answered.reached? {j : Journal} {id : ExchangeId} {o : Opened} {realm : Realm}
    {header : HeaderValue} {state : Negotiator} (h : j.Answered id o realm header state) :
    j.reached? o.id = some (realm.key, state) := by
  obtain ⟨l, head, rfl, hlast⟩ := h
  exact hlast.getLast?_filterMap (fun _ hquiet => Note.reached?_of_state? hquiet.unheard)
    (if_pos rfl)

end Journal

/-- An arena in which every state is the one that was reached on its connection, for its realm. -/
def Arena.Keyed (a : Arena) (j : Journal) : Prop :=
  ∀ e ∈ a.entries, j.reached? e.conn = some (e.realm, e.negotiator)

/-- A request is made from where its exchange stands, and that goes on with a state that is its own.
-/
structure Resumes (settings : Settings) (earlier : Journal) (message : Message) (after : Exchange) :
    Prop where
  made : ∃ l limit credentials, after.phase = .sending l limit ∧
    message = after.message settings l.target credentials
  scheme : ∀ realm, after.realm = some realm → after.negotiator.scheme? = some realm.scheme
  state : ∀ l limit realm, after.phase = .sending l limit → after.realm = some realm →
    realm.scheme.isConnectionScoped = true → ∃ n, earlier.Resumable l.id realm n ∧
      (after.negotiator = n ∨ ∃ value supply rest,
        n.preempt realm (after.authRequest l.target) supply = (.ok value, after.negotiator, rest))

namespace Exchange

variable {x y z : Exchange} {s t u : Shared} {h h' : Hand} {id : ExchangeId} {l : Lease}
  {gone : ConnId → Prop} {j : Journal} {notes : List Note} {realm : Realm}

/-- A head is noted with what it leads to, and for what realm. -/
theorem reached?_concat_headNote {head : Head} (hrealm : x.realm = some realm) :
    Journal.reached? (j ++ [(id, x.headNote s l head)]) l.id =
      some (realm.key, (x.judged s l head).2.1) := by
  have hown : (x.headNote s l head).reached? l.id =
      some (realm.key, (x.judged s l head).2.1) := by
    rw [headNote, hrealm]
    exact if_pos rfl
  simp only [Journal.reached?, List.filterMap_append, List.filterMap_cons, List.filterMap_nil, hown,
    List.getLast?_concat]

/-- What is parked stays with its realm in every move. -/
theorem Binds.keyed (hx : x.Binds h id gone s.arena j) (hkeyed : s.arena.Keyed j)
    (hconduct : Conduct ⟨x, s, h⟩ notes ⟨y, t, h'⟩) :
    t.arena.Keyed (j ++ notes.map (Prod.mk id)) := by
  intro e he
  rcases hx.parked hconduct he with
    ⟨hold, hnotes⟩ | ⟨l, limit, head, realm, hphase, rfl, hrealm, rfl⟩
  · have hsame := congrArg List.getLast? (Journal.filterMap_append_of_none _ j id
      fun note hnote => Note.reached?_of_state? (hnotes note hnote))
    exact hsame.trans (hkeyed e hold)
  · exact reached?_concat_headNote hrealm

/-- A request that goes out goes on with a state that is its own. -/
theorem Binds.resumable {message : Message} {target : Target}
    (hx : x.Binds (.ready l) id gone s.arena j) (htidy : x.Tidy (.ready l))
    (htraced : s.arena.Traced j) (hkeyed : s.arena.Keyed j) (hown : ¬ gone l.id)
    (hrealm : x.realm = some realm) (hscoped : realm.scheme.isConnectionScoped = true)
    (hbind : x.bind s l = (y, t)) (hcompose : y.compose t target = (.ok message, z, u)) :
    ∃ n, j.Resumable l.id realm n ∧
      (z.negotiator = n ∨ ∃ value supply rest,
        n.preempt realm (z.authRequest target) supply = (.ok value, z.negotiator, rest)) := by
  have hresting := htidy.rests ⟨l, Or.inl rfl⟩
  have hstateful :=
    hx.negotiates.isConnectionScoped hrealm (by rw [hresting]; rfl) hscoped
  obtain ⟨value, hcredentials, -⟩ := compose_ok hcompose
  have hz := (credentials_frame hcredentials).1
  have hyrealm : y.realm = some realm := by rw [(bind_frame hbind).1, hrealm]
  have hresumable : y.pending = none → j.Resumable l.id realm y.negotiator := by
    intro hnone
    rcases (bound_of_bind hrealm hbind).fresh hstateful hnone with hfresh | hparked
    · exact Or.inl hfresh
    · exact Or.inr (hkeyed _ hparked)
  rcases credentials_cases hyrealm hcredentials with
    ⟨p, hpending, -, hstate⟩ | ⟨hnone, ⟨-, hstate⟩ | hpreempt⟩
  · obtain ⟨hanswered, hkept⟩ := hx.answered_of_bind htraced hown hrealm hscoped hbind hpending
    exact ⟨x.negotiator, Or.inr hanswered.reached?, Or.inl (hstate.trans hkept)⟩
  · exact ⟨y.negotiator, hresumable hnone, Or.inl hstate⟩
  · have hrequest : z.authRequest target = y.authRequest target := by rw [hz]; rfl
    rw [← hrequest] at hpreempt
    exact ⟨y.negotiator, hresumable hnone, Or.inr ⟨value, _, _, hpreempt⟩⟩

/-- What an exchange sends is made from where it stands. -/
theorem Binds.resumes {transport : TransportId} {message : Message} {after : Exchange}
    (hx : x.Binds h id gone s.arena j) (htidy : x.Tidy h) (htraced : s.arena.Traced j)
    (hkeyed : s.arena.Keyed j) (hown : ∀ l, (x.place h).lease? = some l → ¬ gone l.id)
    (hnegotiates : after.Negotiates) (hsends : x.Sends s h transport message after) :
    Resumes s.settings j message after := by
  cases hsends with
  | @intro l message y t z u limit hurl hbind hcompose =>
    obtain ⟨hframe, hshared⟩ := attempt_frame hbind hcompose
    obtain ⟨credentials, -, hmessage⟩ := compose_ok hcompose
    refine ⟨⟨l, limit, credentials, rfl, ?_⟩, fun realm hrealm => hnegotiates realm hrealm rfl, ?_⟩
    · rw [hmessage, hshared]
      rfl
    · intro k limit' realm hphase hrealm hscoped
      obtain ⟨rfl, -⟩ := Phase.sending.inj hphase
      have hreal : x.realm = some realm := by
        rw [hframe] at hrealm
        exact hrealm
      have hresumable :=
        hx.resumable htidy htraced hkeyed (hown l rfl) hreal hscoped hbind hcompose
      exact hresumable

end Exchange

namespace Snapshot

open Exchange

/-- What is parked belongs to its realm, and every request went on with a state of its own. -/
structure Resumed (settings : Settings) (a : Snapshot) : Prop where
  keyed : a.client.shared.arena.Keyed a.journal
  resumes : a.journal.All fun earlier entry => ∀ transport message after,
    entry.2 = .sent transport message after → Resumes settings earlier message after

variable {settings : Settings} {supply : Supply} {a b : Snapshot}

/-- Whatever happens to a client, every request goes on with a state of its own. -/
theorem Resumed.step (ha : Resumed settings a) (hreach : Reachable settings supply a)
    (hstep : Step a b) : Resumed settings b := by
  cases hstep with
  | turn | world | submit => exact ⟨ha.keyed, ha.resumes⟩
  | @move c id h j x notes y t h' hx hmove =>
    have hsound := hreach.sound
    have hbound := hreach.bound
    have hsettings : c.shared.settings = settings := hbound.configured
    have hy : (c.put id y t).exchange? id = some y := Client.exchange?_put_self hx
    have hnegotiates := ((hreach.next (.move hx hmove)).bound.binds id y hy).negotiates
    obtain ⟨htidy, haims⟩ := hsound.actor hx
    have hbinds := hbound.actor hx
    have hconduct := conduct_of_move htidy hmove
    refine ⟨hbinds.keyed ha.keyed hconduct,
      Place.all_of_turn ha.resumes id (hsound.turn hx hmove).1 ?_⟩
    rintro note hnote transport message after rfl
    obtain ⟨hsends, rfl⟩ := sends_of_conduct haims hconduct hnote
    rw [← hsettings]
    exact hbinds.resumes htidy hbound.traced ha.keyed (fun l hl => not_gone_of_place hx hl)
      hnegotiates hsends

/-- In every client that can come to be every request went on with a state of its own. -/
theorem Reachable.resumed (h : Reachable settings supply a) : Resumed settings a := by
  induction h with
  | start => exact ⟨fun e he => absurd he List.not_mem_nil, fun _ _ _ hsplit => by simp at hsplit⟩
  | next hbefore hstep ih => exact ih.step hbefore hstep

end Snapshot

/-- Whatever happens, a request of a scheme that authenticates connections goes on, on its
connection, with a fresh state or with the one that was reached there last by a request of the same scheme,
principal and target; and a request without a realm has nothing but what its caller gave and what
every request has, whoever was authenticated on the connection before. -/
theorem Client.states_stay_apart (settings : Settings) (supply : Supply) (events : List Event) :
    (((Client.make settings supply).run events).shared.actions.filter Action.isSaid =
      ((Client.make settings supply).journal events).filterMap (·.2.action?)) ∧
    ∀ (earlier : Journal) id transport message after later,
      (Client.make settings supply).journal events =
        earlier ++ (id, .sent transport message after) :: later →
      ∃ l limit, after.phase = .sending l limit ∧ l.transport = transport ∧
        Target.ofUrl after.url = .ok l.target ∧
        (earlier.on transport).head? = some (.dial transport l.target) ∧
        (after.realm = none → ∀ name, message.headers.values name =
          after.content.outgoing settings l.target none none name) ∧
        ∀ realm, after.realm = some realm →
          after.negotiator.scheme? = some realm.scheme ∧
          ((realm.scheme = .ntlm ∨ realm.scheme = .negotiate) →
            ∃ n, earlier.Resumable l.id realm n ∧
              (after.negotiator = n ∨ ∃ value supply rest,
                n.preempt realm (after.authRequest l.target) supply =
                  (.ok value, after.negotiator, rest))) := by
  have hreach := Snapshot.reachable_run settings supply events
  refine ⟨hreach.actions, fun earlier id transport message after later hsplit => ?_⟩
  have hresumes := hreach.resumed.resumes earlier _ later hsplit transport message after rfl
  obtain ⟨-, l, limit, hphase, rfl, hurl, rounds, hon, -⟩ :=
    hreach.told.inTurn earlier _ later hsplit transport message after rfl
  refine ⟨l, limit, hphase, rfl, hurl, by rw [hon]; rfl, fun hrealm name => ?_,
    fun realm hrealm => ⟨hresumes.scheme realm hrealm, fun hscheme => ?_⟩⟩
  · obtain ⟨k, limit', credentials, hsending, hmessage⟩ := hresumes.made
    obtain ⟨rfl, -⟩ := Phase.sending.inj (hphase.symm.trans hsending)
    rw [hmessage, Exchange.values_message, hrealm]
    rfl
  · have hscoped : realm.scheme.isConnectionScoped = true := by
      rcases hscheme with hscheme | hscheme <;> rw [hscheme] <;> rfl
    exact hresumes.state l limit realm hphase hrealm hscoped

/-- Whom a realm stands for. -/
structure Identity where
  scheme : AuthScheme
  principal : String
  password : String
  domain : Option String
  target : AuthTarget
  deriving DecidableEq

/-- Whom a realm stands for. -/
def Realm.identity (r : Realm) : Identity :=
  ⟨r.scheme, r.principal, r.password, r.domain, r.target⟩

/-- True for a state in which the server has accepted who is on the connection. -/
def Negotiator.isComplete : Negotiator → Bool
  | ntlm state => state.stage = .authenticated
  | negotiate state => state.stage = .established
  | none | basic _ | digest _ => false

/-- The realm for which a note completes the authentication of a connection. -/
def Note.completed? (transport : TransportId) : Note → Option Realm
  | heard l _ (some realm) _ state =>
    if l.transport = transport ∧ state.isComplete = true then some realm else none
  | _ => none

/-- A request goes out only on connections that were authenticated for whom it is from, if they were
for anyone. -/
def Journal.KeepsIdentity (earlier : Journal) (entry : ExchangeId × Note) : Prop :=
  match entry.2 with
  | .sent transport _ after => ∀ e ∈ earlier, ∀ realm ∈ e.2.completed? transport,
      after.realm.map Realm.identity = some realm.identity
  | _ => True

instance (earlier : Journal) (entry : ExchangeId × Note) :
    Decidable (earlier.KeepsIdentity entry) :=
  match entry with
  | (_, .sent transport _ after) =>
    inferInstanceAs (Decidable (∀ e ∈ earlier, ∀ realm ∈ e.2.completed? transport,
      after.realm.map Realm.identity = some realm.identity))
  | (_, .dial _ _) | (_, .heard _ _ _ _ _) | (_, .skipped _ _) | (_, .streamed _ _)
  | (_, .broke _) => inferInstanceAs (Decidable True)

/-- Every entry of a journal is in order if each is with those before it, by their numbers. -/
theorem Journal.all_iff_getElem {P : Journal → ExchangeId × Note → Prop} {j : Journal} :
    j.All P ↔ ∀ i : Fin j.length, P (j.take i) j[i] := by
  constructor
  · intro h i
    refine h _ _ (j.drop (i + 1)) ?_
    rw [Fin.getElem_fin, ← List.drop_eq_getElem_cons i.isLt, List.take_append_drop]
  · rintro h earlier entry later rfl
    have hentry := h ⟨earlier.length, by simp⟩
    simpa using hentry

instance {P : Journal → ExchangeId × Note → Prop} [∀ earlier entry, Decidable (P earlier entry)]
    (j : Journal) : Decidable (j.All P) :=
  decidable_of_iff _ Journal.all_iff_getElem.symm

/-- A request with a token that the server accepts, and after it one to the same target that is from
nobody. -/
def Client.handover : List Event :=
  let tokens : TokenSource := ⟨0, fun _ => some (Ascii.bytes "token"), fun _ _ _ => .refused⟩
  let realm : Realm := { scheme := .negotiate, preemptive := true, tokens := some tokens }
  let url := fun name : String =>
    ({ scheme := "http", host := some (.domain "h.example"), path := .segments [name] } : Url)
  [.submit { method := "GET", url := url "1", realm := some realm } none,
    .run (.exchange 0), .dialed 0 none, .run (.exchange 0),
    .arrive 0 (.head { status := 200 }), .run (.exchange 0), .arrive 0 (.ending .complete),
    .request 0 1, .run (.pump 0), .run (.pump 0),
    .submit { method := "GET", url := url "2" } none, .run (.exchange 1)]

/-- A connection is handed over together with whom the server takes it for. -/
theorem Client.handover_mixes_identities :
    ¬((Client.make {} {}).journal Client.handover).All Journal.KeepsIdentity := by
  decide +kernel

end HttpClient
