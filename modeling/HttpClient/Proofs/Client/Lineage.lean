import HttpClient.Proofs.Client.Departures
import HttpClient.Proofs.Client.Reuse
import HttpClient.Proofs.Exchange.Conduct

/-!
# What a journal says of a connection

The last thing of a kind that happened on a connection stays the last while the journal is quiet
about the connection. What other exchanges do is quiet about it, because they have other connections
and other streams.
-/

namespace HttpClient

/-- The state that a note leads to on a connection. -/
def Note.state? (conn : ConnId) : Note → Option Negotiator
  | heard l _ (some _) _ state => if l.id = conn then some state else none
  | _ => none

/-- Nothing is sent on a connection, and no state is reached there. -/
structure Note.Quiet (o : Opened) (note : Note) : Prop where
  unsent : ∀ message after, note ≠ .sent o.transport message after
  unheard : note.state? o.id = none

namespace Journal

/-- The state that was reached on a connection: the one that the last head led to. -/
def state? (j : Journal) (conn : ConnId) : Option Negotiator :=
  (j.filterMap fun entry => entry.2.state? conn).getLast?

/-- An entry after which a journal is quiet about a connection. -/
def Last (j : Journal) (o : Opened) (entry : ExchangeId × Note) : Prop :=
  ∃ before between, j = before ++ entry :: between ∧ ∀ later ∈ between, later.2.Quiet o

/-- A head on a connection was answered with credentials, which led to a state, and nothing was sent
there since. -/
def Answered (j : Journal) (id : ExchangeId) (o : Opened) (realm : Realm) (header : HeaderValue)
    (state : Negotiator) : Prop :=
  ∃ l head, l.toOpened = o ∧ j.Last o (id, .heard l head (some realm) (some header) state)

/-- The last request on a connection left an exchange as it is given. -/
def Asked (j : Journal) (id : ExchangeId) (o : Opened) (after : Exchange) : Prop :=
  ∃ message, j.Last o (id, .sent o.transport message after)

variable {j : Journal} {o : Opened} {entry : ExchangeId × Note} {notes : List Note}
  {id : ExchangeId}

theorem Last.append (h : j.Last o entry) (id : ExchangeId) (hquiet : ∀ note ∈ notes, note.Quiet o) :
    Last (j ++ notes.map (Prod.mk id)) o entry := by
  obtain ⟨before, between, rfl, hbetween⟩ := h
  refine ⟨before, between ++ notes.map (Prod.mk id), ?_, fun later hlater => ?_⟩
  · rw [List.append_assoc, List.cons_append]
  · rcases List.mem_append.mp hlater with hmem | hmem
    · exact hbetween later hmem
    · obtain ⟨note, hnote, rfl⟩ := List.mem_map.mp hmem
      exact hquiet note hnote

theorem last_concat (j : Journal) (o : Opened) (entry : ExchangeId × Note) :
    Last (j ++ [entry]) o entry :=
  ⟨j, [], rfl, fun _ h => absurd h List.not_mem_nil⟩

theorem Answered.append {realm : Realm} {header : HeaderValue} {state : Negotiator}
    (h : j.Answered id o realm header state) (k : ExchangeId)
    (hquiet : ∀ note ∈ notes, note.Quiet o) :
    Answered (j ++ notes.map (Prod.mk k)) id o realm header state := by
  obtain ⟨l, head, hl, hlast⟩ := h
  exact ⟨l, head, hl, hlast.append k hquiet⟩

theorem Asked.append {after : Exchange} (h : j.Asked id o after) (k : ExchangeId)
    (hquiet : ∀ note ∈ notes, note.Quiet o) :
    Asked (j ++ notes.map (Prod.mk k)) id o after := by
  obtain ⟨message, hlast⟩ := h
  exact ⟨message, hlast.append k hquiet⟩

/-- Notes from which nothing is read off change nothing that is read off a journal. -/
theorem filterMap_append_of_none {α : Type} (f : Note → Option α) (j : Journal) (id : ExchangeId)
    (hnotes : ∀ note ∈ notes, f note = none) :
    (j ++ notes.map (Prod.mk id)).filterMap (fun entry => f entry.2) =
      j.filterMap fun entry => f entry.2 := by
  have hnone : (notes.map (Prod.mk id)).filterMap (fun entry => f entry.2) = [] := by
    rw [List.filterMap_eq_nil_iff]
    intro entry hentry
    obtain ⟨note, hnote, rfl⟩ := List.mem_map.mp hentry
    exact hnotes note hnote
  rw [List.filterMap_append, hnone, List.append_nil]

/-- What is read off the last entry about a connection is the last that is read off. -/
theorem Last.getLast?_filterMap {α : Type} {f : Note → Option α} {a : α} (h : j.Last o entry)
    (hquiet : ∀ note : Note, note.Quiet o → f note = none) (hown : f entry.2 = some a) :
    (j.filterMap fun entry => f entry.2).getLast? = some a := by
  obtain ⟨before, between, rfl, hbetween⟩ := h
  have hnone : between.filterMap (fun entry => f entry.2) = [] := by
    rw [List.filterMap_eq_nil_iff]
    exact fun later hlater => hquiet _ (hbetween later hlater)
  simp only [List.filterMap_append, List.filterMap_cons, hown, hnone, List.getLast?_concat]

/-- Notes that lead to no state on a connection leave the one that was reached. -/
theorem state?_append {conn : ConnId} (j : Journal) (id : ExchangeId)
    (hnotes : ∀ note ∈ notes, note.state? conn = none) :
    state? (j ++ notes.map (Prod.mk id)) conn = j.state? conn :=
  congrArg List.getLast? (filterMap_append_of_none _ j id hnotes)

/-- What an answered head led to is the state that was reached on its connection. -/
theorem Answered.state? {realm : Realm} {header : HeaderValue} {state : Negotiator}
    (h : j.Answered id o realm header state) : j.state? o.id = some state := by
  obtain ⟨l, head, rfl, hlast⟩ := h
  exact hlast.getLast?_filterMap (fun _ hquiet => hquiet.unheard) (if_pos rfl)

end Journal

/-- Notes that are no traffic lead to no state. -/
theorem Note.state?_of_isTraffic {note : Note} (h : note.isTraffic = false) (conn : ConnId) :
    note.state? conn = none := by
  cases note with
  | sent | heard => cases h
  | dial | skipped | streamed | broke => rfl

/-- Notes that are no traffic are quiet about every connection. -/
theorem Note.quiet_of_isTraffic {note : Note} (h : note.isTraffic = false) (o : Opened) :
    note.Quiet o := by
  refine ⟨?_, state?_of_isTraffic h o.id⟩
  rintro message after rfl
  cases h

/-- A turn is quiet about the connections of others. -/
theorem Place.quiet_of_turn {p q : Place} {s t : Shared} {notes : List Note} {o : Opened}
    (hturn : p.Turn s notes q t) (htransport : p.transport? ≠ some o.transport)
    (hid : p.connId? ≠ some o.id) : ∀ note ∈ notes, note.Quiet o := by
  intro note hnote
  cases htraffic : note.isTraffic with
  | false => exact Note.quiet_of_isTraffic htraffic o
  | true =>
    cases hturn with
    | stay | ask | establish | abandon | leave | spoil | close | keep | store =>
      exact absurd hnote List.not_mem_nil
    | dial | lose | skim | rest =>
      obtain rfl := List.mem_singleton.mp hnote
      cases htraffic
    | @send s t l limit message y =>
      obtain rfl := List.mem_singleton.mp hnote
      refine ⟨fun message' after heq => htransport ?_, rfl⟩
      obtain ⟨hsame, -⟩ := Note.sent.inj heq
      exact congrArg some hsame
    | @hear s t l q head realm answer state =>
      obtain rfl := List.mem_singleton.mp hnote
      constructor
      · intro message after heq
        cases heq
      · cases realm with
        | none => rfl
        | some realm => exact if_neg fun hsame => hid (congrArg some hsame)
    | spill note hgiven =>
      obtain rfl := List.mem_singleton.mp hnote
      rcases hgiven with rfl | ⟨item, rfl⟩ <;> cases htraffic
    | pump hpumped =>
      cases hpumped with
      | silent => exact absurd hnote List.not_mem_nil
      | part | whole | broken | stopped =>
        obtain rfl := List.mem_singleton.mp hnote
        cases htraffic

/-- An arena in which every state is the one that was reached on its connection, for a realm of its
scheme. -/
def Arena.Traced (a : Arena) (j : Journal) : Prop :=
  ∀ e ∈ a.entries, j.state? e.conn = some e.negotiator ∧ e.negotiator.scheme? = some e.realm.scheme

end HttpClient
