import HttpClient.Proofs.Exchange.Frames

/-!
# What an exchange has

At any time an exchange has at most one connection or slot, whether it is kept for the next
attempt, in use, or in hand in the midst of a step.
-/

namespace HttpClient

/-- What an exchange has, and how far it is with it. -/
inductive Place
  | bare
  | dialing (reservation : Reservation) (transport : TransportId)
  /-- A connection for the next attempt. -/
  | kept (lease : Lease)
  /-- A connection on which a request is out. -/
  | asked (lease : Lease)
  /-- A connection on which a body is dropped, of which so much was read. -/
  | draining (lease : Lease) (read : Nat)
  | streaming (lease : Lease)
  /-- A connection whose last body was read to its end, and whether it is kept if it can be. -/
  | rested (lease : Lease) (keep : Bool)
  /-- A connection that is closed next. -/
  | spent (lease : Lease)

namespace Place

/-- The connection of a place. -/
def lease? : Place → Option Lease
  | bare | dialing _ _ => none
  | kept l | asked l | draining l _ | streaming l | rested l _ | spent l => some l

/-- The number of the connection of a place. -/
def connId? (p : Place) : Option ConnId := p.lease?.map fun l => l.id

/-- The slot of a place for which no connection was opened yet. -/
def reservation? : Place → Option Reservation
  | dialing r _ => some r
  | _ => none

/-- The stream that is dialed. -/
def dialed? : Place → Option TransportId
  | dialing _ transport => some transport
  | _ => none

/-- The stream of a place. -/
def transport? (p : Place) : Option TransportId :=
  (p.lease?.map fun l => l.transport).or p.dialed?

/-- Where the requests of a place go. -/
def target? : Place → Option Target
  | dialing r _ => some r.target
  | kept l | asked l | draining l _ | rested l true => some l.target
  | _ => none

end Place

/-- What an exchange has in a phase, besides what it keeps and has in hand. -/
def Phase.place : Phase → Place
  | dialing r transport _ => .dialing r transport
  | sending l _ => .asked l
  | draining l read _ _ => .draining l read
  | answered _ body => (body.lease.map Place.streaming).getD .bare
  | _ => .bare

/-- True for the phase in which a connection may be kept for the next attempt. -/
def Phase.isResting : Phase → Bool
  | resting => true
  | _ => false

/-- An item that ends a body as it should end. -/
def BodyItem.isEnd : BodyItem → Bool
  | data _ isLast => isLast
  | ended ending => ending = .complete

namespace Exchange

/-- What an exchange has. -/
def place (x : Exchange) : Hand → Place
  | .ready l => .kept l
  | .rested l keep => .rested l keep
  | .spent l => .spent l
  | .empty =>
    match x.held with
    | some l => .kept l
    | none => x.phase.place

/-- An exchange has one thing at most. -/
structure Tidy (x : Exchange) (h : Hand) : Prop where
  held : x.held.isSome = true → x.phase = .resting ∧ h = .empty
  hand : h ≠ .empty → x.phase.place = .bare
  /-- A connection is in hand for another attempt only while the exchange rests. -/
  rests : (∃ l, h = .ready l ∨ h = .rested l true) → x.phase = .resting

/-- What a step of the pump does about the connection that it reads from. -/
inductive Pumped (l : Lease) : Option Lease → PumpEffect → List Note → Prop
  | silent : Pumped l (some l) .keep []
  | part (bytes : Bytes) : Pumped l (some l) .keep [.streamed l (.data bytes false)]
  | whole (item : BodyItem) (hend : item.isEnd = true) :
    Pumped l none (.release l) [.streamed l item]
  | broken : Pumped l none (.discard l) [.streamed l (.ended .broken)]
  | stopped : Pumped l none (.discard l) [.broke l]

variable {x y : Exchange} {s t : Shared} {h h' : Hand} {notes : List Note}

/-- An exchange that keeps nothing and has nothing in hand has what its phase needs. -/
theorem place_of_held (hheld : x.held = none) : x.place .empty = x.phase.place := by
  simp only [place, hheld]

/-- An exchange that does not rest keeps nothing. -/
theorem Tidy.held_of_phase {p : Phase} (htidy : x.Tidy h) (hphase : x.phase = p)
    (hp : p.isResting = false) : x.held = none := by
  cases hheld : x.held with
  | none => rfl
  | some l =>
    have hresting := (htidy.held (by rw [hheld]; rfl)).1
    rw [← hphase, hresting] at hp
    cases hp

/-- An exchange with a connection in hand keeps nothing. -/
theorem Tidy.held_of_hand {l : Lease} (htidy : x.Tidy h) (hlease : h.lease? = some l) :
    x.held = none := by
  cases hheld : x.held with
  | none => rfl
  | some k =>
    have hempty := (htidy.held (by rw [hheld]; rfl)).2
    rw [hempty] at hlease
    cases hlease

/-- The phase of an exchange with a connection in hand needs nothing. -/
theorem Tidy.bare_of_hand {l : Lease} (htidy : x.Tidy h) (hlease : h.lease? = some l) :
    x.phase.place = .bare := by
  refine htidy.hand ?_
  rintro rfl
  cases hlease

/-- An exchange that does not rest has what its phase needs. -/
theorem Tidy.place_of_phase {p : Phase} (htidy : x.Tidy .empty) (hphase : x.phase = p)
    (hp : p.isResting = false) : x.place .empty = p.place := by
  rw [place_of_held (htidy.held_of_phase hphase hp), hphase]

/-- A step of the pump that fails leaves no connection, and has it closed. -/
private theorem lease_fail {b next : Body} {effect : PumpEffect} {e : Error} {l : Lease}
    (hlease : b.lease = some l) (heq : b.fail e = (next, effect)) :
    next.lease = none ∧ effect = .discard l := by
  simp only [Body.fail, hlease, Prod.mk.injEq] at heq
  obtain ⟨rfl, rfl⟩ := heq
  exact ⟨rfl, rfl⟩

/-- What the pump makes of an item. -/
private theorem pumped_take {b next : Body} {effect : PumpEffect} {item : BodyItem} {l : Lease}
    (hlease : b.lease = some l) (heq : b.take item = (next, effect)) :
    Pumped l next.lease effect [.streamed l item] := by
  rcases item with ⟨bytes, isLast⟩ | ending
  · cases isLast with
    | true =>
      simp only [Body.take, Body.emit, hlease, if_true, Prod.mk.injEq] at heq
      obtain ⟨rfl, rfl⟩ := heq
      exact .whole _ rfl
    | false =>
      simp only [Body.take, Body.emit, Bool.false_eq_true, if_false, Prod.mk.injEq] at heq
      obtain ⟨rfl, rfl⟩ := heq
      simp only [hlease]
      exact .part bytes
  · cases ending with
    | complete =>
      simp only [Body.take, Body.emit, hlease, if_true, Prod.mk.injEq] at heq
      obtain ⟨rfl, rfl⟩ := heq
      exact .whole _ rfl
    | broken =>
      obtain ⟨hnone, rfl⟩ := lease_fail hlease heq
      rw [hnone]
      exact .broken

/-- A step of the pump of a body that has its connection. -/
theorem pumped_of_pump {head : ResponseHead} {body next : Body} {effect : PumpEffect}
    {inbox : Inbox} {l : Lease} (hphase : x.phase = .answered head body)
    (hlease : body.lease = some l)
    (hpump : body.pump s.now (s.isCanceled body.token) (s.inbox l) =
      some ((next, effect), inbox)) :
    Pumped l next.lease effect (x.pumpHears s) := by
  have hstreamed : ∀ item,
      body.found? s.now (s.isCanceled body.token) (s.inbox l) = some item →
      x.pumpHears s = [.streamed l item] := by
    intro item hitem
    simp only [pumpHears, hphase, hlease, hpump, hitem]
  have hunheard : body.found? s.now (s.isCanceled body.token) (s.inbox l) = none →
      x.pumpHears s = if effect = .discard l then [.broke l] else [] := by
    intro hnone
    simp only [pumpHears, hphase, hlease, hpump, hnone]
  have hstop : ∀ {e : Error} {i : Inbox}, (body.fail e, i) = ((next, effect), inbox) →
      body.found? s.now (s.isCanceled body.token) (s.inbox l) = none →
      Pumped l next.lease effect (x.pumpHears s) := by
    intro e i heq hnone
    obtain ⟨hgone, rfl⟩ := lease_fail hlease (Prod.mk.inj heq).1
    rw [hunheard hnone, hgone, if_pos rfl]
    exact .stopped
  rw [Body.pump] at hpump
  cases hstage : body.phase with
  | stopped => simp [hstage] at hpump
  | awaitingCredit =>
    have hnone : body.found? s.now (s.isCanceled body.token) (s.inbox l) = none := by
      simp only [Body.found?, hstage]
    simp only [hstage] at hpump
    split at hpump
    · exact hstop (Option.some.inj hpump) hnone
    · split at hpump
      · simp only [Option.some.injEq, Prod.mk.injEq] at hpump
        obtain ⟨⟨rfl, rfl⟩, -⟩ := hpump
        rw [hunheard hnone, if_neg nofun]
        simp only [hlease]
        exact .silent
      · split at hpump
        · exact hstop (Option.some.inj hpump) hnone
        · cases hpump
  | reading limit =>
    simp only [hstage] at hpump
    by_cases hcut : (body.demand.isCanceled || s.isCanceled body.token ||
        isOver body.deadline s.now) = true
    · have hnone : body.found? s.now (s.isCanceled body.token) (s.inbox l) = none := by
        simp only [Body.found?, hstage, hcut, if_true]
      split at hpump
      · exact hstop (Option.some.inj hpump) hnone
      · rename_i hcanceled
        rw [Bool.not_eq_true] at hcanceled
        rw [hcanceled, Bool.false_or] at hcut
        rw [if_pos hcut] at hpump
        exact hstop (Option.some.inj hpump) hnone
    · have hfound : body.found? s.now (s.isCanceled body.token) (s.inbox l) =
          (s.inbox l).read.1 := by
        simp only [Body.found?, hstage, hcut]
        rfl
      rw [Bool.not_eq_true, Bool.or_eq_false_iff] at hcut
      simp only [hcut.1, hcut.2, Bool.false_eq_true, if_false] at hpump
      rcases hread : (s.inbox l).read with ⟨_ | item, rest⟩
      · simp only [hread, Option.ite_none_right_eq_some, Option.some.injEq] at hpump
        exact hstop hpump.2 (by rw [hfound, hread])
      · simp only [hread, Option.some.injEq, Prod.mk.injEq] at hpump
        rw [hstreamed item (by rw [hfound, hread])]
        exact pumped_take hlease hpump.1

/-- Where a body has no connection the pump leaves it so. -/
theorem lease_pump {body next : Body} {effect : PumpEffect} {now : Nat} {canceled : Bool}
    {inbox rest : Inbox} (hlease : body.lease = none)
    (hpump : body.pump now canceled inbox = some ((next, effect), rest)) :
    next.lease = none ∧ effect = .keep := by
  have hfail : ∀ {e : Error}, body.fail e = (next, effect) →
      next.lease = none ∧ effect = .keep := by
    intro e heq
    simp only [Body.fail, hlease, Prod.mk.injEq] at heq
    obtain ⟨rfl, rfl⟩ := heq
    exact ⟨rfl, rfl⟩
  have htake : ∀ {item : BodyItem}, body.take item = (next, effect) →
      next.lease = none ∧ effect = .keep := by
    intro item heq
    have hemit : ∀ part : Part, body.emit part = (next, effect) →
        next.lease = none ∧ effect = .keep := by
      intro part heq
      simp only [Body.emit, hlease] at heq
      split at heq <;>
      · simp only [Prod.mk.injEq] at heq
        obtain ⟨rfl, rfl⟩ := heq
        exact ⟨rfl, rfl⟩
    rcases item with ⟨bytes, isLast⟩ | (_ | _)
    · exact hemit ⟨bytes, isLast⟩ heq
    · exact hemit ⟨[], true⟩ heq
    · exact hfail heq
  rw [Body.pump] at hpump
  dsimp only at hpump
  split at hpump
  · cases hpump
  · split at hpump
    · exact hfail (Prod.mk.inj (Option.some.inj hpump)).1
    · split at hpump
      · simp only [Option.some.injEq, Prod.mk.injEq] at hpump
        obtain ⟨⟨rfl, rfl⟩, -⟩ := hpump
        exact ⟨hlease, rfl⟩
      · simp only [Option.ite_none_right_eq_some, Option.some.injEq] at hpump
        exact hfail (Prod.mk.inj hpump.2).1
  · split at hpump
    · exact hfail (Prod.mk.inj (Option.some.inj hpump)).1
    · split at hpump
      · exact hfail (Prod.mk.inj (Option.some.inj hpump)).1
      · split at hpump
        · exact htake (Prod.mk.inj (Option.some.inj hpump)).1
        · simp only [Option.ite_none_right_eq_some, Option.some.injEq] at hpump
          exact hfail (Prod.mk.inj hpump.2).1

/-- After a step of the pump either it has the connection still, or it is in hand. -/
theorem place_of_pump {head : ResponseHead} {body next : Body} {effect : PumpEffect}
    {inbox : Inbox} (hphase : x.phase = .answered head body)
    (hpump : body.pump s.now (s.isCanceled body.token) ((body.lease.map s.inbox).getD {}) =
      some ((next, effect), inbox)) :
    (body.lease = none ∧ next.lease = none ∧ effect = .keep ∧ x.pumpHears s = []) ∨
      ∃ l, body.lease = some l ∧ Pumped l next.lease effect (x.pumpHears s) := by
  cases hlease : body.lease with
  | none =>
    obtain ⟨hnext, heffect⟩ := lease_pump hlease hpump
    refine Or.inl ⟨rfl, hnext, heffect, ?_⟩
    simp only [pumpHears, hphase, hlease]
  | some l =>
    rw [hlease] at hpump
    exact Or.inr ⟨l, rfl, pumped_of_pump hphase hlease hpump⟩

/-- Who asks for a connection has none. -/
theorem held_of_asked {target : Target} {status : CheckoutStatus} (htidy : x.Tidy .empty)
    (hask : x.Asked s target status t) : x.held = none := by
  cases hask with
  | first hphase hheld heq => exact hheld
  | again ticket hphase heq => exact htidy.held_of_phase hphase rfl

/-- An exchange that keeps nothing has one thing at most while nothing is in hand. -/
theorem Tidy.of_empty (hheld : x.held = none) : x.Tidy .empty :=
  ⟨fun hsome => absurd hsome (by rw [hheld]; nofun), fun hne => absurd rfl hne,
    fun ⟨l, hready⟩ => hready.elim nofun nofun⟩

/-- An exchange that rests and keeps nothing has one thing at most, whatever is in hand. -/
theorem Tidy.of_resting (hheld : x.held = none) (hphase : x.phase = .resting) : x.Tidy h :=
  ⟨fun hsome => absurd hsome (by rw [hheld]; nofun), fun _ => by rw [hphase]; rfl, fun _ => hphase⟩

/-- An exchange that keeps nothing and needs nothing has one thing at most while a connection is
closed. -/
theorem Tidy.of_spent {l : Lease} (hheld : x.held = none) (hbare : x.phase.place = .bare) :
    x.Tidy (.spent l) :=
  ⟨fun hsome => absurd hsome (by rw [hheld]; nofun), fun _ => hbare,
    fun ⟨l, hready⟩ => hready.elim nofun nofun⟩

/-- An exchange has one thing at most after every move. -/
theorem tidy_move (htidy : x.Tidy h) (hm : Move ⟨x, s, h⟩ notes ⟨y, t, h'⟩) : y.Tidy h' := by
  cases hm with
  | take hheld => exact .of_resting rfl (htidy.held (by rw [hheld]; rfl)).1
  | giveBack | store | close => exact .of_empty (htidy.held_of_hand rfl)
  | spoil => exact .of_spent (htidy.held_of_hand rfl) (htidy.bare_of_hand rfl)
  | refuse hurl hask =>
    have hheld := held_of_asked htidy hask
    exact .of_empty hheld
  | queue hurl hask =>
    have hheld := held_of_asked htidy hask
    exact .of_empty hheld
  | find hurl hask =>
    have hheld := held_of_asked htidy hask
    exact .of_resting hheld rfl
  | dial limit hurl hask =>
    have hheld := held_of_asked htidy hask
    exact .of_empty hheld
  | establish hphase | abandon hphase | leave hphase =>
    exact .of_resting (htidy.held_of_phase hphase rfl) rfl
  | send limit htarget hbind hcompose =>
    refine .of_empty ?_
    rw [(attempt_frame hbind hcompose).1]
    exact htidy.held_of_hand rfl
  | misfit hbind hcompose =>
    rw [(attempt_frame hbind hcompose).1]
    exact .of_spent (htidy.held_of_hand rfl) (htidy.bare_of_hand rfl)
  | retry e reused hphase =>
    exact ⟨htidy.held, fun hne => absurd rfl hne, fun ⟨l, hready⟩ => hready.elim nofun nofun⟩
  | finish phase delivery hphase hheld => exact .of_empty hheld
  | challenge next hphase =>
    exact .of_empty (htidy.held_of_phase hphase rfl)
  | follow next hphase hanswer hjudged hstatus hhttp hcheck hpark =>
    refine .of_empty ?_
    simp only [turnTo]
    rw [(park_frame hpark).1]
    exact htidy.held_of_phase hphase rfl
  | answer hphase hanswer hjudged hpark =>
    refine .of_empty ?_
    simp only
    rw [(park_frame hpark).1]
    exact htidy.held_of_phase hphase rfl
  | reject hphase | lose hphase =>
    exact .of_resting (htidy.held_of_phase hphase rfl) rfl
  | quit hphase => exact .of_spent (htidy.held_of_phase hphase rfl) rfl
  | skim hphase =>
    exact .of_empty (htidy.held_of_phase hphase rfl)
  | @rest x s l read limit after inbox hphase =>
    have hheld := htidy.held_of_phase hphase rfl
    cases after <;> exact .of_resting hheld rfl
  | @spill x s l read limit after item inbox hphase =>
    have hheld := htidy.held_of_phase hphase rfl
    cases after <;> exact .of_resting hheld rfl
  | @tire x s l read limit after hphase =>
    have hheld := htidy.held_of_phase hphase rfl
    cases after <;> exact .of_resting hheld rfl
  | keep hphase =>
    exact ⟨fun _ => ⟨hphase, rfl⟩, fun hne => absurd rfl hne, fun _ => hphase⟩
  | @pump x s head body next effect inbox hphase hpump =>
    have hheld := htidy.held_of_phase hphase rfl
    rcases place_of_pump hphase hpump with ⟨-, -, rfl, -⟩ | ⟨l, -, hpumped⟩
    · exact .of_empty hheld
    · generalize x.pumpHears s = heard at hpumped
      generalize hlease : next.lease = lease at hpumped
      have hbare : lease = none → Phase.place (.answered head next) = .bare := by
        rintro rfl
        simp only [Phase.place, hlease, Option.map_none, Option.getD_none]
      cases hpumped with
      | silent | part => exact .of_empty hheld
      | whole =>
        refine ⟨fun hsome => absurd hsome ?_, fun _ => hbare rfl, ?_⟩
        · rw [hheld]
          nofun
        · exact fun ⟨l, hready⟩ => hready.elim nofun nofun
      | broken | stopped => exact .of_spent hheld (hbare rfl)
  | touch next delivery hphase =>
    exact .of_empty (htidy.held_of_phase hphase rfl)
  | hush delivery =>
    exact ⟨htidy.held, fun hne => absurd rfl hne, fun ⟨l, hready⟩ => hready.elim nofun nofun⟩

end Exchange

end HttpClient
