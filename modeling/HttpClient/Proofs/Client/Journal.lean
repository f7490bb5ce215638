import HttpClient.Client
import HttpClient.Proofs.Exchange.Frames
import HttpClient.Proofs.Exchange.Steps

/-!
# The journal of a client

The notes of all exchanges of a client in the order in which things happen. Every run of a client
is a sequence of elementary moves of its exchanges and of the world around them, and the journal is
what these moves note; so a property that every move keeps holds after every run. What the journal
says was dialed and sent is what the client has among its actions.
-/

namespace HttpClient

/-- The notes of the exchanges of a client, first to last. -/
abbrev Journal := List (ExchangeId × Note)

/-- Every entry of a journal is in order with what came before it. -/
def Journal.All (P : Journal → ExchangeId × Note → Prop) (j : Journal) : Prop :=
  ∀ earlier entry later, j = earlier ++ entry :: later → P earlier entry

theorem Journal.All.concat {P : Journal → ExchangeId × Note → Prop} {j : Journal}
    {entry : ExchangeId × Note} (h : j.All P) (hentry : P j entry) :
    Journal.All P (j ++ [entry]) := by
  intro earlier found later hsplit
  rcases List.eq_nil_or_concat later with rfl | ⟨later, last, rfl⟩
  · obtain ⟨rfl, heq⟩ := List.append_inj' hsplit rfl
    obtain rfl := List.singleton_inj.mp heq
    exact hentry
  · rw [List.concat_eq_append, ← List.cons_append, ← List.append_assoc] at hsplit
    exact h earlier found later (List.append_inj' hsplit rfl).1

namespace Client

/-- The actions that an event adds. -/
def newActions (c : Client) (event : Event) : List Action :=
  (c.step event).shared.actions.drop c.shared.actions.length

/-- The notes of an event that is the turn of an exchange: what it hears, and what it says. -/
def noted (c : Client) (event : Event) (id : ExchangeId) (hears : Exchange → List Note) :
    Journal :=
  match c.exchange? id, (c.step event).exchange? id with
  | some x, some y =>
    (hears x ++ (c.newActions event).filterMap (Action.note? y)).map fun note => (id, note)
  | _, _ => []

/-- The notes of an event. -/
def notes (c : Client) (event : Event) : Journal :=
  match event with
  | .run (.exchange id) => c.noted event id (·.hears c.shared)
  | .run (.pump id) => c.noted event id (·.pumpHears c.shared)
  | .drop id => c.noted event id Exchange.dropHears
  | _ => []

/-- The notes of events, one after the other. -/
def journal (c : Client) : List Event → Journal
  | [] => []
  | event :: events => c.notes event ++ (c.step event).journal events

/-- Events of which some come before the others. -/
theorem run_append (c : Client) (before events : List Event) :
    c.run (before ++ events) = (c.run before).run events := List.foldl_append

theorem journal_append (c : Client) (before events : List Event) :
    c.journal (before ++ events) = c.journal before ++ (c.run before).journal events := by
  induction before generalizing c with
  | nil => rfl
  | cons event before ih =>
    rw [List.cons_append, journal, ih, journal, List.append_assoc]
    rfl

end Client

namespace Shared

/-- The second state has done more outside than the first, and the notes are of what was said. -/
def Does (s t : Shared) (notes : List Note) : Prop :=
  ∃ acts, t.actions = s.actions ++ acts ∧ acts.filter Action.isSaid = notes.filterMap Note.action?

variable {s t u : Shared} {notes later : List Note}

theorem Does.refl (s : Shared) : Does s s [] := ⟨[], (List.append_nil _).symm, rfl⟩

theorem Does.trans (h : Does s t notes) (rest : Does t u later) : Does s u (notes ++ later) := by
  obtain ⟨acts, hacts, hnotes⟩ := h
  obtain ⟨more, hmore, hlater⟩ := rest
  refine ⟨acts ++ more, by rw [hmore, hacts, List.append_assoc], ?_⟩
  rw [List.filter_append, List.filterMap_append, hnotes, hlater]

/-- What leaves the actions alone does nothing outside. -/
theorem Does.of_eq (h : t.actions = s.actions) : Does s t [] :=
  ⟨[], by rw [h, List.append_nil], rfl⟩

/-- Closing a stream says nothing. -/
theorem does_hangUp (s : Shared) (transport : TransportId) : Does s (s.hangUp transport) [] :=
  ⟨[.hangUp transport], rfl, rfl⟩

/-- An operation on the pool says nothing. -/
theorem does_withPool (s : Shared) (p : Pool) (dead : List Opened) :
    Does s (s.withPool p dead) [] := by
  have hbury : ∀ s : Shared, Does s (dead.foldl bury s) [] := by
    induction dead with
    | nil => exact Does.refl
    | cons o dead ih =>
      intro s
      exact (does_hangUp { s with arena := s.arena.remove o.id } o.transport).trans (ih _)
  exact (Does.of_eq rfl).trans (hbury { s with pool := p })

theorem does_checkout {target : Target} {status : CheckoutStatus}
    (h : s.checkout target = (status, t)) : Does s t [] := by
  obtain ⟨-, rfl⟩ := Prod.mk.injEq .. ▸ h
  exact does_withPool ..

theorem does_resume {ticket : Nat} {status : CheckoutStatus}
    (h : s.resume ticket = (status, t)) : Does s t [] := by
  obtain ⟨-, rfl⟩ := Prod.mk.injEq .. ▸ h
  exact does_withPool ..

theorem does_release (s : Shared) (l : Lease) : Does s (s.release l) [] := does_withPool ..

theorem does_discard (s : Shared) (l : Lease) : Does s (s.discard l) [] := does_withPool ..

end Shared

namespace Exchange

open Shared

variable {x y z : Exchange} {s t u : Shared} {a b : Scene} {notes : List Note}

theorem does_asked {target : Target} {status : CheckoutStatus} (h : x.Asked s target status t) :
    Does s t [] := by
  cases h with
  | first hphase hheld heq => exact does_checkout heq
  | again ticket hphase heq => exact does_resume heq

/-- Where the pump reads, what has arrived is put back. -/
theorem does_setInboxes (s : Shared) (lease : Option Lease) (inbox : Inbox) :
    Does s ((lease.map fun l => s.setInbox l inbox).getD s) [] := by
  cases lease with
  | none => exact Does.refl s
  | some l => exact Does.of_eq rfl

/-- What the pump hears is done by others. -/
theorem filterMap_pumpHears (x : Exchange) (s : Shared) :
    (x.pumpHears s).filterMap Note.action? = [] := by
  unfold pumpHears
  split
  · split
    · rfl
    · split
      · rfl
      · split
        · rfl
        · split <;> rfl
  · rfl

/-- The pump hears nothing while it waits. -/
theorem pumpHears_of_idle (h : x.pumpStep s = none) : x.pumpHears s = [] := by
  unfold pumpStep at h
  unfold pumpHears
  split
  · rename_i head body hphase
    simp only [hphase] at h
    split
    · rfl
    · rename_i l hlease
      simp only [hlease, Option.map_some, Option.getD_some] at h
      cases hpump : body.pump s.now (s.isCanceled body.token) (s.inbox l) with
      | none => rfl
      | some next => simp [hpump] at h
  · rfl

/-- A move does outside what it notes. -/
theorem does_move (h : Move a notes b) : Does a.shared b.shared notes := by
  cases h with
  | take | spoil | retry | finish | lose | quit | rest | spill | tire | keep | touch | hush =>
    exact Does.of_eq rfl
  | giveBack => exact does_release ..
  | close => exact does_discard ..
  | refuse hurl hask => exact does_asked hask
  | queue hurl hask => exact does_asked hask
  | find hurl hask => exact does_asked hask
  | @dial x s t target r limit hurl hask =>
    have hdials : Does t (t.dial target).2 [.dial t.nextTransport target] := ⟨[_], rfl, rfl⟩
    exact (does_asked hask).trans hdials
  | establish => exact Does.of_eq rfl
  | @abandon x s r transport =>
    have hgone : Does s (s.abandon r) [] := Does.of_eq rfl
    exact hgone.trans (does_hangUp ..)
  | leave => exact Does.of_eq rfl
  | @send x s l target message y t z u limit htarget hbind hcompose =>
    have hmade : Does s u [] := by
      rw [(attempt_frame hbind hcompose).2]
      exact Does.of_eq rfl
    have hsends : Does u (u.send l message)
        [.sent l.transport message { z with phase := .sending l limit }] := ⟨[_], rfl, rfl⟩
    exact hmade.trans hsends
  | misfit hbind hcompose =>
    rw [(attempt_frame hbind hcompose).2]
    exact Does.of_eq rfl
  | challenge | reject | skim => exact Does.of_eq rfl
  | follow next hphase hanswer hjudged hstatus hhttp hcheck hpark =>
    rw [(park_frame hpark).2]
    exact Does.of_eq rfl
  | answer hphase hanswer hjudged hpark =>
    rw [(park_frame hpark).2]
    exact Does.of_eq rfl
  | store => exact does_release ..
  | @pump x s head body next effect inbox hphase hpump =>
    obtain ⟨acts, hacts, hnotes⟩ := does_setInboxes s body.lease inbox
    exact ⟨acts, hacts, hnotes.trans (filterMap_pumpHears x s).symm⟩

/-- Any number of moves do outside what they note. -/
theorem does_moves (h : Moves a notes b) : Does a.shared b.shared notes := by
  induction h with
  | refl => exact Does.refl _
  | head hm _ ih => exact (does_move hm).trans ih

/-- What a step hears is done by others. -/
theorem filterMap_hears (x : Exchange) (s : Shared) :
    (x.hears s).filterMap Note.action? = [] := by
  unfold hears
  split
  · rfl
  · split
    · split
      · rfl
      · split <;> rfl
    · split
      · rfl
      · split <;> rfl
    · rfl

/-- What breaks off is done by others. -/
theorem filterMap_dropHears (x : Exchange) : x.dropHears.filterMap Note.action? = [] := by
  unfold dropHears
  split <;> rfl

/-- What an exchange says is found again in what it does. -/
theorem Says.filterMap {said : List Note} {acts : List Action} (h : Says y said)
    (hacts : acts.filter Action.isSaid = said.filterMap Note.action?) :
    acts.filterMap (Action.note? y) = said := by
  have hfilter : acts.filterMap (Action.note? y) =
      (acts.filter Action.isSaid).filterMap (Action.note? y) := by
    rw [List.filterMap_filter]
    refine congrArg (List.filterMap · acts) (funext fun act => ?_)
    cases act <;> rfl
  rw [hfilter, hacts]
  cases h <;> rfl

end Exchange

namespace Client

open Shared Exchange

variable {c : Client} {x y : Exchange} {t : Shared} {id : ExchangeId} {event : Event}

theorem exchange?_put_self (hx : c.exchange? id = some x) :
    (c.put id y t).exchange? id = some y := by
  obtain ⟨hid, -⟩ := List.getElem?_eq_some_iff.mp hx
  simp only [exchange?, put]
  rw [List.getElem?_set_self hid]

theorem exchange?_put_of_ne {other : ExchangeId} (hne : other ≠ id) :
    (c.put id y t).exchange? other = c.exchange? other := by
  simp only [exchange?, put]
  rw [List.getElem?_set_ne hne.symm]

/-- What is noted of a chain of moves is what the moves note. -/
theorem noted_of_moves {hears : Exchange → List Note} {said : List Note}
    (hx : c.exchange? id = some x) (hstep : c.step event = c.put id y t)
    (hmoves : Moves ⟨x, c.shared, .empty⟩ (hears x ++ said) ⟨y, t, .empty⟩) (hsaid : Says y said)
    (hhears : (hears x).filterMap Note.action? = []) :
    c.noted event id hears = (hears x ++ said).map (Prod.mk id) := by
  obtain ⟨acts, hacts, hnotes⟩ := does_moves hmoves
  rw [List.filterMap_append, hhears, List.nil_append] at hnotes
  have hnew : c.newActions event = acts := by
    rw [newActions, hstep]
    change t.actions.drop c.shared.actions.length = acts
    rw [hacts, List.drop_left]
  simp only [noted, hx, hstep, exchange?_put_self hx, hnew, hsaid.filterMap hnotes]

/-- Nothing is noted where nothing happens. -/
theorem noted_of_idle {hears : Exchange → List Note} (hstep : c.step event = c)
    (hhears : ∀ x, c.exchange? id = some x → hears x = []) : c.noted event id hears = [] := by
  have hnew : c.newActions event = [] := by rw [newActions, hstep, List.drop_length]
  unfold noted
  rw [hstep, hnew]
  split
  · rename_i x y hx hy
    rw [hhears x hx]
    rfl
  · rfl

end Client

/-- A client in the midst of a step of one of its exchanges. -/
structure Snapshot where
  client : Client
  /-- The exchange whose turn it is. -/
  actor : ExchangeId := 0
  /-- What its step has in hand. -/
  hand : Hand := .empty
  journal : Journal := []

namespace Snapshot

open Client Exchange

/-- Something that happens to a client, where the steps of exchanges are taken move by move. -/
inductive Step : Snapshot → Snapshot → Prop
  /-- It is the turn of another exchange. -/
  | turn {c id j} (next : ExchangeId) : Step ⟨c, id, .empty, j⟩ ⟨c, next, .empty, j⟩
  | move {c id h j x notes y t h'} (hx : c.exchange? id = some x)
    (hmove : Move ⟨x, c.shared, h⟩ notes ⟨y, t, h'⟩) :
    Step ⟨c, id, h, j⟩ ⟨c.put id y t, id, h', j ++ notes.map (Prod.mk id)⟩
  /-- Time passes, streams open and carry something, and tokens are canceled. -/
  | world {c id j} (now : Nat) (supply : Supply) (streams : List Stream)
    (canceled : List TokenId) :
    Step ⟨c, id, .empty, j⟩
      ⟨{ c with
          shared := { c.shared with
            now := now, supply := supply, streams := streams, canceled := canceled } },
        id, .empty, j⟩
  | submit {c id j} (request : Request) (delivery : Option Delivery) :
    Step ⟨c, id, .empty, j⟩
      ⟨{ c with exchanges := c.exchanges ++ [ofRequest c.shared request delivery] },
        id, .empty, j⟩

/-- What can come of a client that nobody has used yet. -/
inductive Reachable (settings : Settings) (supply : Supply) : Snapshot → Prop
  | start : Reachable settings supply { client := Client.make settings supply }
  | next {a b} (h : Reachable settings supply a) (hstep : Step a b) : Reachable settings supply b

/-- A property that everything keeps that happens to a client. -/
def IsKept (P : Snapshot → Prop) : Prop := ∀ a b, P a → Step a b → P b

namespace IsKept

variable {P : Snapshot → Prop} {c : Client} {x y : Exchange} {t : Shared} {id : ExchangeId}
  {j : Journal}

/-- A chain of moves of an exchange keeps it, move by move. -/
theorem moves (hP : IsKept P) (id : ExchangeId) {a b : Scene} {notes : List Note}
    (hmoves : Moves a notes b) :
    ∀ {c : Client} {j : Journal}, c.exchange? id = some a.exchange → c.shared = a.shared →
      P ⟨c, id, a.hand, j⟩ →
        P ⟨c.put id b.exchange b.shared, id, b.hand, j ++ notes.map (Prod.mk id)⟩ := by
  induction hmoves with
  | @refl a =>
    intro c j hx hshared h
    obtain ⟨hid, hget⟩ := List.getElem?_eq_some_iff.mp hx
    have hsame : c.put id a.exchange a.shared = c := by
      simp only [put, ← hshared, ← hget, List.set_getElem_self]
    rw [hsame, List.map_nil, List.append_nil]
    exact h
  | @head a b d notes later hm _ ih =>
    intro c j hx hshared h
    have hmove : Move ⟨a.exchange, c.shared, a.hand⟩ notes ⟨b.exchange, b.shared, b.hand⟩ := by
      rw [hshared]
      exact hm
    have hrest := ih (exchange?_put_self hx) rfl (hP _ _ h (.move hx hmove))
    simp only [put, List.set_set] at hrest
    rw [List.map_append, ← List.append_assoc]
    exact hrest

/-- Between the steps of exchanges it may be the turn of any. -/
theorem turn (hP : IsKept P) (h : P ⟨c, id, .empty, j⟩) (next : ExchangeId) :
    P ⟨c, next, .empty, j⟩ :=
  hP _ _ h (.turn next)

/-- The turn of an exchange keeps it, with what it notes, where it is a chain of moves. -/
theorem act (hP : IsKept P) {event : Event} {hears : Exchange → List Note}
    (h : P ⟨c, 0, .empty, j⟩) (id : ExchangeId)
    (turn : Exchange → Option (Exchange × Shared))
    (hstep : c.step event =
      (((c.exchange? id).bind turn).map fun next => c.put id next.1 next.2).getD c)
    (hidle : ∀ x, turn x = none → hears x = [])
    (hmoves : ∀ x y t, turn x = some (y, t) → ∃ said, Says y said ∧
      Moves ⟨x, c.shared, .empty⟩ (hears x ++ said) ⟨y, t, .empty⟩)
    (hhears : ∀ x, (hears x).filterMap Note.action? = []) :
    P ⟨c.step event, 0, .empty, j ++ c.noted event id hears⟩ := by
  cases hturn : (c.exchange? id).bind turn with
  | none =>
    rw [hturn, Option.map_none, Option.getD_none] at hstep
    have hmute : ∀ x, c.exchange? id = some x → hears x = [] := by
      intro x hx
      rw [hx, Option.bind_some] at hturn
      exact hidle x hturn
    rw [noted_of_idle hstep hmute, List.append_nil, hstep]
    exact h
  | some next =>
    obtain ⟨y, t⟩ := next
    obtain ⟨x, hx, hnext⟩ := Option.bind_eq_some_iff.mp hturn
    rw [hturn, Option.map_some, Option.getD_some] at hstep
    obtain ⟨said, hsaid, hchain⟩ := hmoves x y t hnext
    have hmoved := hP.moves id hchain hx rfl (hP.turn h id)
    rw [noted_of_moves hx hstep hchain hsaid (hhears x), hstep]
    exact hP.turn hmoved 0

/-- Where an event notes nothing the journal stays. -/
private theorem unnoted {event : Event} (hnotes : c.notes event = [])
    (h : P ⟨c.step event, 0, .empty, j⟩) : P ⟨c.step event, 0, .empty, j ++ c.notes event⟩ := by
  rwa [hnotes, List.append_nil]

/-- Changing a body keeps it where the connection of the body stays. -/
theorem updateBody (hP : IsKept P) (h : P ⟨c, 0, .empty, j⟩) (id : ExchangeId)
    (f : Body → Body) (hlease : ∀ b, c.body? id = some b → (f b).lease = b.lease) :
    P ⟨c.updateBody id f, 0, .empty, j⟩ := by
  unfold Client.updateBody
  cases hx : c.exchange? id with
  | none => exact h
  | some x =>
    have hbody : c.body? id = x.body? := by rw [Client.body?, hx, Option.bind_some]
    have hmoves := updateBody_moves x c.shared f fun b hb => hlease b (hbody.trans hb)
    have hmoved := hP.moves id hmoves hx rfl (hP.turn h id)
    rw [List.map_nil, List.append_nil] at hmoved
    exact hP.turn hmoved 0

/-- The step of a task keeps it, with what it notes. -/
theorem task (hP : IsKept P) (h : P ⟨c, 0, .empty, j⟩) (task : Task) :
    P ⟨c.step (.run task), 0, .empty, j ++ c.notes (.run task)⟩ := by
  cases task with
  | exchange id =>
    refine hP.act h id (·.step c.shared) ?_ ?_ (fun x y t => step_moves)
      (filterMap_hears · c.shared)
    · rw [Client.step, advance]
      cases c.exchange? id with
      | none => rfl
      | some x => cases hturn : x.step c.shared <;> simp [hturn]
    · intro x hturn
      simp only [hears, hturn, Option.isNone_none, if_true]
  | pump id =>
    refine hP.act h id (·.pumpStep c.shared) ?_ (fun x => pumpHears_of_idle) ?_
      (filterMap_pumpHears · c.shared)
    · rw [Client.step, advance]
      cases c.exchange? id with
      | none => rfl
      | some x => cases hturn : x.pumpStep c.shared <;> simp [hturn]
    · intro x y t hturn
      exact ⟨[], .nothing, by rw [List.append_nil]; exact pumpStep_moves hturn⟩
  | delivery id =>
    refine unnoted rfl ?_
    cases hx : c.exchange? id with
    | none =>
      have hstep : c.step (.run (.delivery id)) = c := by
        rw [Client.step, advance, hx]
        rfl
      rw [hstep]
      exact h
    | some x =>
      cases hturn : x.deliverStep with
      | none =>
        have hstep : c.step (.run (.delivery id)) = c := by
          rw [Client.step, advance, hx]
          simp [hturn]
        rw [hstep]
        exact h
      | some y =>
        have hstep : c.step (.run (.delivery id)) = c.put id y c.shared := by
          rw [Client.step, advance, hx]
          simp [hturn]
        have hmoved := hP.moves id (deliverStep_moves c.shared hturn) hx rfl (hP.turn h id)
        rw [List.map_nil, List.append_nil] at hmoved
        rw [hstep]
        exact hP.turn hmoved 0

/-- An event keeps it, with what it notes. -/
theorem event (hP : IsKept P) (h : P ⟨c, 0, .empty, j⟩) (event : Event) :
    P ⟨c.step event, 0, .empty, j ++ c.notes event⟩ := by
  cases event with
  | tick millis => exact unnoted rfl (hP _ _ h (.world _ _ _ _))
  | submit request consumer => exact unnoted rfl (hP _ _ h (.submit _ _))
  | run task => exact hP.task h task
  | dialed transport failure => exact unnoted rfl (hP _ _ h (.world _ _ _ _))
  | arrive transport arrival => exact unnoted rfl (hP _ _ h (.world _ _ _ _))
  | cancelToken token => exact unnoted rfl (hP _ _ h (.world _ _ _ _))
  | request id parts =>
    exact unnoted rfl (hP.updateBody h id _ fun b _ => Body.lease_request b parts)
  | cancelBody id =>
    exact unnoted rfl (hP.updateBody h id _ fun b _ => Body.lease_cancel b)
  | read id =>
    refine unnoted rfl ?_
    rw [Client.step, Client.read]
    cases hbody : c.body? id with
    | none => exact h
    | some body =>
      refine hP.updateBody h id _ fun b hb => ?_
      obtain rfl := Option.some.inj (hbody.symm.trans hb)
      exact Body.lease_read body true
  | drop id =>
    refine hP.act h id (fun x => some (x.drop c.shared)) ?_ (fun x hturn => absurd hturn nofun) ?_
      filterMap_dropHears
    · rw [Client.step]
      cases c.exchange? id <;> rfl
    · intro x y t hturn
      have hmoves := drop_moves x c.shared
      rw [Option.some.inj hturn] at hmoves
      exact ⟨[], .nothing, by rwa [List.append_nil]⟩

/-- Any number of events keep it, with what they note. -/
theorem run (hP : IsKept P) (events : List Event) (h : P ⟨c, 0, .empty, j⟩) :
    P ⟨c.run events, 0, .empty, j ++ c.journal events⟩ := by
  induction events generalizing c j with
  | nil =>
    rw [Client.journal, List.append_nil]
    exact h
  | cons event events ih =>
    have hrest := ih (hP.event h event)
    rw [List.append_assoc] at hrest
    exact hrest

end IsKept

/-- What can be reached goes on to what can be reached. -/
theorem isKept_reachable (settings : Settings) (supply : Supply) :
    IsKept (Reachable settings supply) := fun _ _ hreach hstep => hreach.next hstep

/-- What an event makes of a client that was reached is reached, with its journal. -/
theorem Reachable.event {settings : Settings} {supply : Supply} {c : Client} {j : Journal}
    (hreach : Reachable settings supply ⟨c, 0, .empty, j⟩) (event : Event) :
    Reachable settings supply ⟨c.step event, 0, .empty, j ++ c.notes event⟩ :=
  (isKept_reachable settings supply).event hreach event

/-- Every run of a client is reached, with its journal. -/
theorem reachable_run (settings : Settings) (supply : Supply) (events : List Event) :
    Reachable settings supply
      ⟨(Client.make settings supply).run events, 0, .empty,
        (Client.make settings supply).journal events⟩ := by
  have hrun := (isKept_reachable settings supply).run events .start
  rwa [List.nil_append] at hrun

end Snapshot

end HttpClient
