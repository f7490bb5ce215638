import HttpClient.Proofs.Client.Connections
import HttpClient.Proofs.Header.Options

/-!
# Connections that are used again

All that is noted of a stream is told round by round: a request goes out, its head arrives, and its
body is read. A connection is kept, or goes back to the pool, only at the end of a round whose head
did not ask to close and whose body was read to its end; so every request on a connection comes
after rounds that ended so.
-/

namespace HttpClient

/-- A head after which the server keeps the connection open. -/
structure Head.Lasts (h : Head) : Prop where
  newer : h.version = .http11 → ¬h.Lists "close"
  older : h.version = .http10 → h.Lists "keep-alive"

theorem Head.lasts_iff (h : Head) : h.Lasts ↔ h.wantsClose = false := by
  unfold wantsClose
  cases hversion : h.version with
  | http10 =>
    rw [Bool.not_eq_false', h.hasOption_iff (by decide)]
    exact ⟨fun hlasts => hlasts.older hversion, fun hkept => ⟨by simp [hversion], fun _ => hkept⟩⟩
  | http11 =>
    rw [← Bool.not_eq_true, h.hasOption_iff (by decide)]
    exact ⟨fun hlasts => hlasts.newer hversion, fun hopen => ⟨fun _ => hopen, by simp [hversion]⟩⟩

/-- A request on a stream, and its response: the head lets the connection be used again, and the
body was read to its end, dropped or for a reader. -/
inductive Round (transport : TransportId) : List Note → Prop
  | dropped {l head} (message : Message) (after : Exchange) (realm : Option Realm)
    (answer : Option HeaderValue) (state : Negotiator) (parts : List (Bytes × Bool))
    (hstream : l.transport = transport) (hlasts : head.Lasts)
    (hlength : (parts.flatMap Prod.fst).length ≤ maxDrain) :
    Round transport (.sent transport message after :: .heard l head realm answer state ::
      (parts.map (fun part => .skipped l (.data part.1 part.2)) ++
        [.skipped l (.ended .complete)]))
  | streamed {l head item} (message : Message) (after : Exchange) (realm : Option Realm)
    (answer : Option HeaderValue) (state : Negotiator) (parts : List Bytes)
    (hstream : l.transport = transport) (hlasts : head.Lasts) (hend : item.isEnd = true) :
    Round transport (.sent transport message after :: .heard l head realm answer state ::
      (parts.map (fun bytes => .streamed l (.data bytes false)) ++ [.streamed l item]))

/-- A stream that was dialed for a target and carried only rounds that ended well. -/
def Reusable (transport : TransportId) (target : Target) (notes : List Note) : Prop :=
  ∃ rounds : List (List Note), notes = .dial transport target :: rounds.flatten ∧
    ∀ round ∈ rounds, Round transport round

/-- What was noted of a stream. -/
def Journal.on (j : Journal) (transport : TransportId) : List Note :=
  (j.map Prod.snd).filter (·.transport = transport)

/-- A request whose head arrived, where its connection may be used again, and its body so far. -/
def Reading (l : Lease) (body notes : List Note) : Prop :=
  ∃ past message after head realm answer state, Reusable l.transport l.target past ∧ head.Lasts ∧
    notes = past ++ .sent l.transport message after :: .heard l head realm answer state :: body

/-- What was noted of the stream of a place. -/
def Place.Told (notes : List Note) : Place → Prop
  | bare | spent _ => True
  | dialing r transport => notes = [.dial transport r.target]
  | kept l => Reusable l.transport l.target notes
  | asked l => ∃ past message after, Reusable l.transport l.target past ∧
    notes = past ++ [.sent l.transport message after]
  | draining l read => l.poolable = true → ∃ parts : List (Bytes × Bool),
    (parts.flatMap Prod.fst).length = read ∧ read ≤ maxDrain ∧
      Reading l (parts.map fun part => .skipped l (.data part.1 part.2)) notes
  | streaming l => l.poolable = true → ∃ parts : List Bytes,
    Reading l (parts.map fun bytes => .streamed l (.data bytes false)) notes
  | rested l _ => l.poolable = true → Reusable l.transport l.target notes

section Rounds

variable {transport : TransportId} {target : Target} {notes round : List Note} {l : Lease}

/-- A stream that was dialed carried nothing yet. -/
theorem reusable_dial (transport : TransportId) (target : Target) :
    Reusable transport target [.dial transport target] :=
  ⟨[], rfl, fun _ h => absurd h List.not_mem_nil⟩

/-- One more round that ends well leaves a stream as good as it was. -/
theorem Reusable.append (h : Reusable transport target notes) (hround : Round transport round) :
    Reusable transport target (notes ++ round) := by
  obtain ⟨rounds, rfl, hall⟩ := h
  refine ⟨rounds ++ [round], ?_, fun r hr => ?_⟩
  · rw [List.flatten_append, List.flatten_singleton, List.cons_append]
  · rcases List.mem_append.mp hr with hr | hr
    · exact hall r hr
    · obtain rfl := List.mem_singleton.mp hr
      exact hround

/-- A body that is dropped ends its round well once it was read to its end. -/
theorem Reading.dropped {parts : List (Bytes × Bool)}
    (h : Reading l (parts.map fun part => .skipped l (.data part.1 part.2)) notes)
    (hlength : (parts.flatMap Prod.fst).length ≤ maxDrain) :
    Reusable l.transport l.target (notes ++ [.skipped l (.ended .complete)]) := by
  obtain ⟨past, message, after, head, realm, answer, state, hpast, hlasts, rfl⟩ := h
  rw [List.append_assoc]
  exact hpast.append (.dropped message after realm answer state parts rfl hlasts hlength)

/-- A body that goes to a reader ends its round well once it was read to its end. -/
theorem Reading.streamed {parts : List Bytes} {item : BodyItem}
    (h : Reading l (parts.map fun bytes => .streamed l (.data bytes false)) notes)
    (hend : item.isEnd = true) :
    Reusable l.transport l.target (notes ++ [.streamed l item]) := by
  obtain ⟨past, message, after, head, realm, answer, state, hpast, hlasts, rfl⟩ := h
  rw [List.append_assoc]
  exact hpast.append (.streamed message after realm answer state parts rfl hlasts hend)

/-- One more note of a body. -/
theorem Reading.append {body : List Note} (h : Reading l body notes) (note : Note) :
    Reading l (body ++ [note]) (notes ++ [note]) := by
  obtain ⟨past, message, after, head, realm, answer, state, hpast, hlasts, rfl⟩ := h
  refine ⟨past, message, after, head, realm, answer, state, hpast, hlasts, ?_⟩
  rw [List.append_assoc]
  rfl

end Rounds

theorem Journal.on_append (j : Journal) (id : ExchangeId) (notes : List Note)
    (transport : TransportId) :
    Journal.on (j ++ notes.map (Prod.mk id)) transport =
      j.on transport ++ notes.filter (·.transport = transport) := by
  simp only [Journal.on, List.map_append, List.map_map, List.filter_append]
  have hsame : (Prod.snd ∘ Prod.mk id : Note → Note) = fun note => note := rfl
  rw [hsame, List.map_id']

namespace Place

variable {p q : Place} {s t : Shared} {notes before : List Note}

/-- A connection may be used again only if the head that was heard on it lets it. -/
theorem afterHead_poolable {l : Lease} {head : Head}
    (h : (l.afterHead head).poolable = true) : head.Lasts ∧ l.afterHead head = l := by
  unfold Lease.afterHead at h ⊢
  by_cases hclose : head.wantsClose = true
  · rw [if_pos hclose] at h
    cases h
  · rw [if_neg hclose]
    exact ⟨head.lasts_iff.mpr (Bool.not_eq_true _ ▸ hclose), rfl⟩

/-- The pool is asked without a stream being dialed. -/
theorem nextTransport_of_asks {status : CheckoutStatus} (hask : s.Asks status t) :
    t.nextTransport = s.nextTransport := by
  cases hask <;> rw [Shared.nextTransport_withPool]

/-- What is noted in a turn is noted of the stream that the exchange has, or of a new one. -/
theorem transport_of_turn (hturn : p.Turn s notes q t) {note : Note} (hnote : note ∈ notes) :
    p.transport? = some note.transport ∨
      note.transport = s.nextTransport ∧ t.nextTransport = s.nextTransport + 1 := by
  have hown : ∀ {l : Lease} {n : Note}, p.transport? = some l.transport →
      n.transport = l.transport → note ∈ [n] → p.transport? = some note.transport := by
    intro l n hp hn hmem
    obtain rfl := List.mem_singleton.mp hmem
    rw [hp, hn]
  cases hturn with
  | stay | ask | establish | abandon | leave | spoil | close | keep | store =>
    exact absurd hnote List.not_mem_nil
  | @dial s t r hask =>
    obtain rfl := List.mem_singleton.mp hnote
    rw [← nextTransport_of_asks hask]
    exact Or.inr ⟨rfl, rfl⟩
  | send | hear | skim | rest => exact Or.inl (hown rfl rfl hnote)
  | lose hreading =>
    refine Or.inl (hown ?_ rfl hnote)
    rcases hreading with rfl | ⟨read, rfl⟩ <;> rfl
  | spill note hgiven =>
    refine Or.inl (hown rfl ?_ hnote)
    rcases hgiven with rfl | ⟨item, rfl⟩ <;> rfl
  | pump hpumped =>
    refine Or.inl ?_
    cases hpumped with
    | silent => exact absurd hnote List.not_mem_nil
    | part | whole | broken | stopped => exact hown rfl rfl hnote

/-- No turn takes back the number of a stream. -/
theorem nextTransport_of_turn (hturn : p.Turn s notes q t) :
    s.nextTransport ≤ t.nextTransport := by
  cases hturn with
  | ask hask => exact (nextTransport_of_asks hask).ge
  | @dial s t r hask =>
    rw [← nextTransport_of_asks hask]
    exact Nat.le_succ _
  | close | store => exact (Shared.nextTransport_withPool ..).ge
  | establish | abandon | leave | lose | rest | spill | keep => exact Nat.le_refl _
  | stay hsame | spoil hsame => exact hsame.nextTransport.ge
  | send message y hphase hurl huri hsame => exact hsame.nextTransport.ge
  | hear head realm answer state hnext hsame => exact hsame.nextTransport.ge
  | skim bytes isLast hle hsame => exact hsame.nextTransport.ge
  | pump hpumped hsame => exact hsame.nextTransport.ge

/-- What was noted of a stream when one more note of it comes. -/
theorem filter_own {l : Lease} {note : Note} (hnote : note.transport = l.transport) :
    [note].filter (·.transport = l.transport) = [note] := by
  rw [List.filter_cons_of_pos (by simpa using hnote), List.filter_nil]

/-- What a head leads to is told where the request before it was. -/
private theorem told_of_head {l : Lease} {head : Head} {realm : Option Realm}
    {answer : Option HeaderValue} {state : Negotiator} {past : List Note} {message : Message}
    {after : Exchange} (hpast : Reusable l.transport l.target past)
    (hnext : q = .draining (l.afterHead head) 0 ∨ q = .streaming (l.afterHead head) ∨
      q = .spent (l.afterHead head)) :
    q.Told (past ++ [.sent l.transport message after] ++
      [.heard l head realm answer state]) := by
  have hreading : (l.afterHead head).poolable = true →
      Reading (l.afterHead head) []
        (past ++ [.sent l.transport message after] ++ [.heard l head realm answer state]) := by
    intro hpoolable
    obtain ⟨hlasts, hsame⟩ := afterHead_poolable hpoolable
    rw [hsame]
    exact ⟨past, message, after, head, realm, answer, state, hpast, hlasts, by simp⟩
  rcases hnext with rfl | rfl | rfl
  · exact fun hpoolable => ⟨[], rfl, Nat.zero_le _, hreading hpoolable⟩
  · exact fun hpoolable => ⟨[], hreading hpoolable⟩
  · trivial

/-- What a step of the pump leads to is told where the body so far was. -/
private theorem told_of_pump {l : Lease} {next : Option Lease} {effect : PumpEffect}
    (hpumped : Exchange.Pumped l next effect notes) (htold : (streaming l).Told before) :
    (match effect with
      | .keep => streaming l
      | .release l => rested l false
      | .discard l => spent l).Told (before ++ notes) := by
  cases hpumped with
  | silent =>
    rw [List.append_nil]
    exact htold
  | part bytes =>
    intro hpoolable
    obtain ⟨parts, hreading⟩ := htold hpoolable
    refine ⟨parts ++ [bytes], ?_⟩
    rw [List.map_append]
    exact hreading.append _
  | whole item hend =>
    intro hpoolable
    obtain ⟨parts, hreading⟩ := htold hpoolable
    exact hreading.streamed hend
  | broken => trivial
  | stopped => trivial

/-- What is noted of a stream is told after every turn of the exchange that has it. -/
theorem told_of_turn {j : Journal} (id : ExchangeId) (hturn : p.Turn s notes q t)
    (htold : ∀ transport, p.transport? = some transport → p.Told (j.on transport))
    (hfresh : j.on s.nextTransport = [])
    (hfound : ∀ l, p = .bare → q = .kept l → Reusable l.transport l.target (j.on l.transport)) :
    ∀ transport, q.transport? = some transport →
      q.Told (Journal.on (j ++ notes.map (Prod.mk id)) transport) := by
  intro transport htransport
  rw [Journal.on_append]
  cases hturn with
  | stay =>
    rw [List.filter_nil, List.append_nil]
    exact htold transport htransport
  | @ask s t status hask hslot =>
    rw [List.filter_nil, List.append_nil]
    rcases status with (l | r) | ticket | _
    · obtain rfl := Option.some.inj htransport
      exact hfound l rfl rfl
    · exact absurd rfl (hslot r)
    · cases htransport
    · cases htransport
  | @dial s t r hask =>
    obtain rfl := Option.some.inj htransport
    rw [← nextTransport_of_asks hask] at hfresh
    rw [hfresh, List.nil_append, List.filter_cons_of_pos (by simp [Note.transport])]
    rfl
  | @establish s r transport' =>
    obtain rfl := Option.some.inj htransport
    have hdialed : j.on transport' = [.dial transport' r.target] := htold transport' rfl
    change Reusable transport' r.target (j.on transport' ++ [])
    rw [List.append_nil, hdialed]
    exact reusable_dial _ _
  | abandon | leave | close | store => cases htransport
  | spoil => trivial
  | @send s t l limit message y hphase =>
    obtain rfl := Option.some.inj htransport
    rw [filter_own rfl]
    exact ⟨_, message, y, htold l.transport rfl, rfl⟩
  | @hear s t l q head realm answer state hnext =>
    have hown : transport = l.transport := by
      rw [← l.transport_afterHead head]
      rcases hnext with rfl | rfl | rfl <;> exact (Option.some.inj htransport).symm
    subst hown
    obtain ⟨past, message, after, hpast, hon⟩ := htold l.transport rfl
    rw [filter_own rfl, hon]
    exact told_of_head hpast hnext
  | lose => trivial
  | @skim s t l read bytes isLast hle =>
    obtain rfl := Option.some.inj htransport
    rw [filter_own rfl]
    intro hpoolable
    obtain ⟨parts, hsum, -, hreading⟩ := htold l.transport rfl hpoolable
    refine ⟨parts ++ [(bytes, isLast)], ?_, hle, ?_⟩
    · rw [List.flatMap_append, List.length_append, hsum, List.flatMap_singleton]
    · rw [List.map_append]
      exact hreading.append _
  | @rest s l read keep =>
    obtain rfl := Option.some.inj htransport
    rw [filter_own rfl]
    intro hpoolable
    obtain ⟨parts, hsum, hle, hreading⟩ := htold l.transport rfl hpoolable
    exact hreading.dropped (hsum.trans_le hle)
  | spill => trivial
  | @keep s l hpoolable =>
    obtain rfl := Option.some.inj htransport
    rw [List.filter_nil, List.append_nil]
    exact htold l.transport rfl (Bool.and_eq_true_iff.mp hpoolable).1
  | @pump s t l next effect notes hpumped =>
    have hown : transport = l.transport := by
      cases hpumped <;> exact (Option.some.inj htransport).symm
    have hnotes : notes.filter (·.transport = l.transport) = notes := by
      cases hpumped with
      | silent => rfl
      | part | whole | broken | stopped => exact filter_own rfl
    rw [hown, hnotes]
    exact told_of_pump hpumped (htold l.transport rfl)

end Place

/-- A request goes to the target of its URL, on a stream that may carry it. -/
def InTurn (earlier : Journal) (entry : ExchangeId × Note) : Prop :=
  ∀ transport message after, entry.2 = .sent transport message after →
    message.uri = after.url.originForm ∧ ∃ l limit, after.phase = .sending l limit ∧
      l.transport = transport ∧ Target.ofUrl after.url = .ok l.target ∧
      Reusable transport l.target (earlier.on transport)

namespace Place

variable {p q : Place} {s t : Shared} {notes : List Note}

/-- A turn notes one thing at most. -/
theorem notes_of_turn (hturn : p.Turn s notes q t) : notes = [] ∨ ∃ note, notes = [note] := by
  cases hturn with
  | stay | ask | establish | abandon | leave | spoil | close | keep | store => exact Or.inl rfl
  | dial | send | hear | lose | skim | rest | spill => exact Or.inr ⟨_, rfl⟩
  | pump hpumped =>
    cases hpumped with
    | silent => exact Or.inl rfl
    | part | whole | broken | stopped => exact Or.inr ⟨_, rfl⟩

/-- Where what a turn notes is in order, so is the journal with it. -/
theorem all_of_turn {P : Journal → ExchangeId × Note → Prop} {j : Journal} (h : j.All P)
    (id : ExchangeId) (hturn : p.Turn s notes q t) (hnotes : ∀ note ∈ notes, P j (id, note)) :
    Journal.All P (j ++ notes.map (Prod.mk id)) := by
  rcases notes_of_turn hturn with rfl | ⟨note, rfl⟩
  · rw [List.map_nil, List.append_nil]
    exact h
  · exact h.concat (hnotes note (List.mem_singleton_self note))

/-- What goes out in a turn goes out on a connection that may carry it. -/
theorem inTurn_of_turn {j : Journal} {note : Note} (id : ExchangeId)
    (hturn : p.Turn s notes q t) (hnote : note ∈ notes)
    (htold : ∀ transport, p.transport? = some transport → p.Told (j.on transport)) :
    InTurn j (id, note) := by
  intro transport message after hsent
  obtain rfl : note = .sent transport message after := hsent
  cases hturn with
  | send message y hphase hurl huri hsame =>
    obtain ⟨rfl, rfl, rfl⟩ := Note.sent.inj (List.mem_singleton.mp hnote)
    exact ⟨huri, _, _, hphase, rfl, hurl, htold _ rfl⟩
  | spill note hgiven => rcases hgiven with rfl | ⟨item, rfl⟩ <;> simp at hnote
  | pump hpumped => cases hpumped <;> simp at hnote
  | _ => simp at hnote

end Place

namespace Snapshot

/-- What was noted of every stream is told, and every request was in its turn. -/
structure Told (a : Snapshot) : Prop where
  idle : ∀ e ∈ a.client.shared.pool.idle,
    Reusable e.transport e.target (a.journal.on e.transport)
  places : ∀ id x, a.client.exchange? id = some x → ∀ transport,
    (x.place (a.handOf id)).transport? = some transport →
      (x.place (a.handOf id)).Told (a.journal.on transport)
  fresh : ∀ transport, a.client.shared.nextTransport ≤ transport → a.journal.on transport = []
  inTurn : a.journal.All InTurn

variable {settings : PoolSettings} {a b : Snapshot}

theorem told_make (settings : Settings) (supply : Supply) :
    Told { client := Client.make settings supply } where
  idle := fun e he => absurd he List.not_mem_nil
  places := fun id x hx => by simp [Client.make, Client.exchange?] at hx
  fresh := fun transport h => rfl
  inTurn := fun earlier entry later hsplit => by simp at hsplit

/-- A move of an exchange leaves everything told. -/
theorem Told.move {c : Client} {id : ExchangeId} {h h' : Hand} {j : Journal} {x y : Exchange}
    {t : Shared} {notes : List Note} (htold : Told ⟨c, id, h, j⟩)
    (hsound : Sound settings ⟨c, id, h, j⟩) (hx : c.exchange? id = some x)
    (hmove : Exchange.Move ⟨x, c.shared, h⟩ notes ⟨y, t, h'⟩) :
    Told ⟨c.put id y t, id, h', j ++ notes.map (Prod.mk id)⟩ := by
  obtain ⟨hturn, hidle, hfound⟩ := hsound.turn hx hmove
  have hown : ∀ transport, (x.place h).transport? = some transport →
      (x.place h).Told (j.on transport) := by
    have htold' := htold.places id x hx
    simp only [handOf, if_true] at htold'
    exact htold'
  have halone : ∀ u, (x.place h).transport? = some u → u < c.shared.nextTransport ∧
      (∀ e ∈ c.shared.pool.idle, e.transport ≠ u) ∧
      ∀ k z, k ≠ id → c.exchange? k = some z → (z.place .empty).transport? ≠ some u := by
    intro u hu
    obtain ⟨hlt, hidle, hothers⟩ := hsound.transport_alone hx (u := u) (by simpa [handOf] using hu)
    refine ⟨hlt, hidle, fun k z hk hz => ?_⟩
    have hother := hothers k z hk hz
    simp only [handOf, hk, if_false] at hother
    exact hother
  -- Streams of others are not noted of.
  have hothers : ∀ u, (x.place h).transport? ≠ some u → u < c.shared.nextTransport →
      Journal.on (j ++ notes.map (Prod.mk id)) u = j.on u := by
    intro u hu hlt
    rw [Journal.on_append, List.filter_eq_nil_iff.mpr, List.append_nil]
    intro note hnote hsame
    rw [decide_eq_true_eq] at hsame
    rcases Place.transport_of_turn hturn hnote with hnoted | ⟨hnew, -⟩
    · exact hu (hsame ▸ hnoted)
    · exact absurd (hsame.symm.trans hnew) (Nat.ne_of_lt hlt)
  refine ⟨fun e he => ?_, fun k z hz u hu => ?_, fun u hu => ?_, ?_⟩
  · rcases hidle e he with ⟨f, hf, hsame⟩ | ⟨l, hplace, hpoolable, hsame, rfl⟩
    · have hlt := hsound.idle_transport_lt hf
      have hreusable := htold.idle f hf
      rw [hsame] at hlt hreusable
      change Reusable e.transport e.target (Journal.on (j ++ _) e.transport)
      rw [hothers e.transport (fun hu => (halone _ hu).2.1 f hf (by rw [hsame])) hlt]
      exact hreusable
    · rw [hplace] at hown
      have hreusable := hown l.transport rfl hpoolable
      rw [hsame] at hreusable
      change Reusable e.transport e.target (Journal.on (j ++ []) e.transport)
      rw [List.append_nil]
      exact hreusable
  · by_cases hk : k = id
    · subst hk
      obtain rfl : y = z := Option.some.inj ((Client.exchange?_put_self hx).symm.trans hz)
      simp only [handOf, if_true] at hu ⊢
      refine Place.told_of_turn k hturn hown (htold.fresh _ (Nat.le_refl _)) ?_ u hu
      intro l hp hq
      obtain ⟨f, hf, hsame⟩ := hfound l hp hq
      have hreusable := htold.idle f hf
      rw [hsame] at hreusable
      exact hreusable
    · have hz' : c.exchange? k = some z := (Client.exchange?_put_of_ne hk).symm.trans hz
      have htold' := htold.places k z hz'
      have hlt := fun u hu => (hsound.transport_alone hz' (u := u) hu).1
      simp only [handOf, hk, if_false] at hu htold' hlt ⊢
      change (z.place .empty).Told (Journal.on (j ++ notes.map (Prod.mk id)) u)
      rw [hothers u (fun hown => (halone u hown).2.2 k z hk hz' hu) (hlt u hu)]
      exact htold' u hu
  · have hle := Place.nextTransport_of_turn hturn
    have hu' : t.nextTransport ≤ u := hu
    change Journal.on (j ++ notes.map (Prod.mk id)) u = []
    rw [Journal.on_append, htold.fresh u (hle.trans hu'), List.nil_append]
    refine List.filter_eq_nil_iff.mpr fun note hnote hsame => ?_
    rw [decide_eq_true_eq] at hsame
    rcases Place.transport_of_turn hturn hnote with hnoted | ⟨hnew, hnext⟩
    · have hlt := (halone _ hnoted).1
      rw [hsame] at hlt
      exact absurd (hle.trans hu') (Nat.not_le.mpr hlt)
    · rw [hnext, ← hsame, hnew] at hu'
      exact absurd hu' (Nat.not_succ_le_self _)
  · exact Place.all_of_turn htold.inTurn id hturn fun note hnote =>
      Place.inTurn_of_turn id hturn hnote hown

/-- Whatever happens to a client leaves everything told. -/
theorem Told.step (htold : Told a) (hsound : Sound settings a) (hstep : Step a b) : Told b := by
  cases hstep with
  | @turn c id j next =>
    refine ⟨htold.idle, fun k x hx u hu => ?_, htold.fresh, htold.inTurn⟩
    have htold' := htold.places k x hx
    rw [handOf_empty] at hu htold' ⊢
    exact htold' u hu
  | move hx hmove => exact htold.move hsound hx hmove
  | @world c id j now supply streams canceled =>
    refine ⟨htold.idle, fun k x hx u hu => ?_, htold.fresh, htold.inTurn⟩
    have htold' := htold.places k x hx
    rw [handOf_empty] at hu htold' ⊢
    exact htold' u hu
  | @submit c id j request delivery =>
    refine ⟨htold.idle, fun k x hx u hu => ?_, htold.fresh, htold.inTurn⟩
    rw [handOf_empty] at hu ⊢
    rcases List.mem_append.mp (List.mem_of_getElem? hx) with hmem | hmem
    · obtain ⟨i, hi⟩ := List.mem_iff_getElem?.mp hmem
      have htold' := htold.places i x hi
      rw [handOf_empty] at htold'
      exact htold' u hu
    · obtain rfl := List.mem_singleton.mp hmem
      cases hu

/-- What a client says is what its journal says. -/
theorem Reachable.actions {settings : Settings} {supply : Supply}
    (h : Reachable settings supply a) :
    a.client.shared.actions.filter Action.isSaid = a.journal.filterMap (·.2.action?) := by
  induction h with
  | start => rfl
  | next _ hstep ih =>
    cases hstep with
    | turn | world | submit => exact ih
    | @move c id h j x notes y t h' hx hmove =>
      obtain ⟨acts, hacts, hsaid⟩ := Exchange.does_move hmove
      change t.actions.filter Action.isSaid = _
      simp only at hacts
      rw [hacts, List.filter_append, List.filterMap_append, hsaid, List.filterMap_map]
      exact congrArg (· ++ _) ih

/-- Everything is told of every client that can come to be. -/
theorem Reachable.told {settings : Settings} {supply : Supply} (h : Reachable settings supply a) :
    Told a := by
  induction h with
  | start => exact told_make settings supply
  | next hbefore hstep ih => exact ih.step hbefore.sound hstep

end Snapshot

/-- Whatever happens, every request that goes out has a stream that was dialed for its target, and
every request before it on that stream ended well: its head arrived and lets the connection be used
again, and its body was read to the end, with nothing of it lost or broken off. -/
theorem Client.rounds_before_sent (settings : Settings) (supply : Supply) (events : List Event) :
    (((Client.make settings supply).run events).shared.actions.filter Action.isSaid =
      ((Client.make settings supply).journal events).filterMap (·.2.action?)) ∧
    ∀ (earlier : Journal) id transport message after later,
      (Client.make settings supply).journal events =
        earlier ++ (id, .sent transport message after) :: later →
      ∃ (target : Target) (rounds : List (List Note)), Target.ofUrl after.url = .ok target ∧
        message.uri = after.url.originForm ∧
        earlier.on transport = .dial transport target :: rounds.flatten ∧
        ∀ round ∈ rounds, Round transport round := by
  have hreach := Snapshot.reachable_run settings supply events
  refine ⟨hreach.actions, fun earlier id transport message after later hsplit => ?_⟩
  obtain ⟨huri, l, limit, -, rfl, hurl, rounds, hon, hrounds⟩ :=
    hreach.told.inTurn earlier _ later hsplit transport message after rfl
  exact ⟨l.target, rounds, hurl, huri, hon, hrounds⟩

end HttpClient
