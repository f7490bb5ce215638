import HttpClient.Proofs.Exchange.Hops
import HttpClient.Proofs.Exchange.Notes

/-!
# The moves of an exchange

All that a step of an exchange does is a chain of elementary moves of the exchange and the shared
state. Within a step a connection may be in hand, of which only the end of the step decides what
becomes of it. A move carries the conditions under which it is made and the notes of it.
-/

namespace HttpClient

/-- What a step has in hand. -/
inductive Hand
  | empty
  /-- A connection for the next attempt. -/
  | ready (lease : Lease)
  /-- A connection whose last body was read to its end, and whether it is kept if it can be. -/
  | rested (lease : Lease) (keep : Bool)
  /-- A connection that is closed next. -/
  | spent (lease : Lease)

/-- The connection in hand. -/
def Hand.lease? : Hand → Option Lease
  | empty => none
  | ready lease | rested lease _ | spent lease => some lease

/-- What a step of the pump has in hand. -/
def PumpEffect.hand : PumpEffect → Hand
  | .keep => .empty
  | .release lease => .rested lease false
  | .discard lease => .spent lease

/-- True when the connection is kept for what follows a body. -/
def AfterDrain.keeps : AfterDrain → Bool
  | answer _ keepConnection => keepConnection
  | follow _ => false

/-- The lease of a connection on which a head was heard. -/
def Lease.afterHead (l : Lease) (head : Head) : Lease :=
  if head.wantsClose then l.unpoolable else l

/-- A head leaves a connection what it is. -/
@[simp] theorem Lease.toOpened_afterHead (l : Lease) (head : Head) :
    (l.afterHead head).toOpened = l.toOpened := by
  unfold afterHead
  split <;> rfl

@[simp] theorem Lease.id_afterHead (l : Lease) (head : Head) : (l.afterHead head).id = l.id := by
  rw [toOpened_afterHead]

@[simp] theorem Lease.target_afterHead (l : Lease) (head : Head) :
    (l.afterHead head).target = l.target := by
  rw [toOpened_afterHead]

@[simp] theorem Lease.transport_afterHead (l : Lease) (head : Head) :
    (l.afterHead head).transport = l.transport := by
  rw [toOpened_afterHead]

@[simp] theorem Lease.reused_afterHead (l : Lease) (head : Head) :
    (l.afterHead head).reused = l.reused := by
  unfold afterHead
  split <;> rfl

/-- An exchange, what it shares, and what a step of it has in hand. -/
structure Scene where
  exchange : Exchange
  shared : Shared
  hand : Hand := .empty

namespace Exchange

/-- What the pool answers an exchange that asks for a connection, now or after waiting. -/
inductive Asked (x : Exchange) (s : Shared) (target : Target) (status : CheckoutStatus)
    (t : Shared) : Prop
  | first (hphase : x.phase = .resting) (hheld : x.held = none)
    (heq : s.checkout target = (status, t))
  | again (ticket : Nat) (hphase : x.phase = .waiting ticket)
    (heq : s.resume ticket = (status, t))

/-- The exchange after the body of a response was read or given up. -/
def turned (x : Exchange) (l : Lease) : AfterDrain → Exchange
  | .answer header _ =>
    let conn := if x.negotiator.isConnectionScoped then some l.id else none
    { x with phase := .resting, pending := some ⟨header, conn⟩ }
  | .follow next =>
    { x with
      phase := .resting
      negotiator := Negotiator.ofRealm x.realm
      pending := none
      history := x.history ++ [x.url]
      url := next }

/-- The redirect in a head that the exchange follows. -/
def hop? (x : Exchange) (head : Head) : Option Redirect.Hop :=
  Redirect.hop? x.policy (x.history ++ [x.url]) x.url head

/-- True for an item that ends the reading of a body that is dropped before its end. -/
def isTooMuch (read : Nat) : BodyItem → Bool
  | .data bytes _ => maxDrain < read + bytes.length
  | .ended ending => ending = .broken

/-- An elementary move of an exchange. -/
inductive Move : Scene → List Note → Scene → Prop
  /-- The connection kept by the attempt before is taken up. -/
  | take {x s l} (hheld : x.held = some l) :
    Move ⟨x, s, .empty⟩ [] ⟨{ x with held := none }, s, .ready l⟩
  /-- A connection that leads elsewhere goes back. -/
  | giveBack {x s l target} (hurl : Target.ofUrl x.url = .ok target) (hne : l.target ≠ target) :
    Move ⟨x, s, .ready l⟩ [] ⟨x, s.release l, .empty⟩
  /-- A connection turns out to be of no use. -/
  | spoil {x s l} : Move ⟨x, s, .ready l⟩ [] ⟨x, s, .spent l⟩
  | close {x s l} : Move ⟨x, s, .spent l⟩ [] ⟨x, s.discard l, .empty⟩
  /-- The pool has nothing, and the exchange does not wait. -/
  | refuse {x s t target} (hurl : Target.ofUrl x.url = .ok target)
    (hask : x.Asked s target .tooMany t) :
    Move ⟨x, s, .empty⟩ [] ⟨{ x with phase := .resting }, t, .empty⟩
  | queue {x s t target ticket} (hurl : Target.ofUrl x.url = .ok target)
    (hask : x.Asked s target (.waiting ticket) t) :
    Move ⟨x, s, .empty⟩ [] ⟨{ x with phase := .waiting ticket }, t, .empty⟩
  /-- The pool gives an idle connection. -/
  | find {x s t target l} (hurl : Target.ofUrl x.url = .ok target)
    (hask : x.Asked s target (.ready (.idle l)) t) :
    Move ⟨x, s, .empty⟩ [] ⟨{ x with phase := .resting }, t, .ready l⟩
  /-- The pool gives a slot, and a stream is dialed for it. -/
  | dial {x s t target r} (limit : Option Nat) (hurl : Target.ofUrl x.url = .ok target)
    (hask : x.Asked s target (.ready (.reserved r)) t) :
    Move ⟨x, s, .empty⟩ [.dial t.nextTransport target]
      ⟨{ x with phase := .dialing r t.nextTransport limit }, (t.dial target).2, .empty⟩
  /-- A dialed stream is up. -/
  | establish {x s r transport limit} (hphase : x.phase = .dialing r transport limit) :
    Move ⟨x, s, .empty⟩ []
      ⟨{ x with phase := .resting }, (s.fulfill r transport).2,
        .ready (s.fulfill r transport).1⟩
  | abandon {x s r transport limit} (hphase : x.phase = .dialing r transport limit) :
    Move ⟨x, s, .empty⟩ []
      ⟨{ x with phase := .resting }, (s.abandon r).hangUp transport, .empty⟩
  | leave {x s ticket} (hphase : x.phase = .waiting ticket) :
    Move ⟨x, s, .empty⟩ [] ⟨{ x with phase := .resting }, s.stopWaiting ticket, .empty⟩
  /-- The request goes out. -/
  | send {x s l target message y t z u} (limit : Option Nat)
    (htarget : Target.ofUrl x.url = .ok target ∨ l.target = target)
    (hbind : x.bind s l = (y, t)) (hcompose : y.compose t target = (.ok message, z, u)) :
    Move ⟨x, s, .ready l⟩ [.sent l.transport message { z with phase := .sending l limit }]
      ⟨{ z with phase := .sending l limit }, u.send l message, .empty⟩
  /-- The request cannot be made. -/
  | misfit {x s l target e y t z u} (hbind : x.bind s l = (y, t))
    (hcompose : y.compose t target = (.error e, z, u)) :
    Move ⟨x, s, .ready l⟩ [] ⟨z, u, .spent l⟩
  /-- A failed attempt is repeated. -/
  | retry {x s budget} (e : Error) (reused : Bool) (hphase : x.phase = .resting)
    (hretry : Retry.isRetryable x.content.method reused e = true)
    (hbudget : x.retries.withdraw = (true, budget)) :
    Move ⟨x, s, .empty⟩ [] ⟨{ x with retries := budget }, s, .empty⟩
  /-- The exchange ends without a response. -/
  | finish {x s} (phase : Phase) (delivery : Option Delivery)
    (hphase : x.phase = .resting ∨ x.phase = .dropped) (hheld : x.held = none)
    (hend : phase = .dropped ∨ ∃ e, phase = .failed e) :
    Move ⟨x, s, .empty⟩ [] ⟨{ x with phase := phase, delivery := delivery }, s, .empty⟩
  /-- A challenge is answered, once the body is read. -/
  | challenge {x s l limit head header keep negotiator supply budget} (next : Option Nat)
    (hphase : x.phase = .sending l limit) (hanswer : (s.inbox l).answer = some (.head head))
    (hjudged : x.judged s l head = (some (.retry header keep), negotiator, supply))
    (hbudget : x.authRetries.withdraw = (true, budget)) :
    Move ⟨x, s, .empty⟩ [x.headNote s l head]
      ⟨{ x with
          pending := none
          negotiator := negotiator
          authRetries := budget
          phase := .draining (l.afterHead head) 0 next (.answer header keep) },
        { s with supply := supply }, .empty⟩
  /-- A redirect is followed, once the body is read. -/
  | follow {x s l limit head action negotiator supply url y t} (next : Option Nat)
    (hphase : x.phase = .sending l limit) (hanswer : (s.inbox l).answer = some (.head head))
    (hjudged : x.judged s l head = (action, negotiator, supply))
    (hstatus : Redirect.isRedirectStatus head.status = true) (hhttp : url.isHttp = true)
    (hcheck : x.policy.check head.status url (x.history ++ [x.url]) = .follow)
    (hpark : { x with pending := none, negotiator := negotiator }.park
      { s with supply := supply } (l.afterHead head) = (y, t))
    (hhop : x.hop? head = some ⟨head.status, x.url, url⟩) :
    Move ⟨x, s, .empty⟩ [x.headNote s l head]
      ⟨{ y.turnTo t head.status url with
          phase := .draining (l.afterHead head) 0 next (.follow url) }, t, .empty⟩
  /-- A response is the final one. -/
  | answer {x s l limit head action negotiator supply y t}
    (hphase : x.phase = .sending l limit) (hanswer : (s.inbox l).answer = some (.head head))
    (hjudged : x.judged s l head = (action, negotiator, supply))
    (hpark : { x with pending := none, negotiator := negotiator }.park
      { s with supply := supply } (l.afterHead head) = (y, t))
    (hhop : x.hop? head = none) :
    Move ⟨x, s, .empty⟩ [x.headNote s l head]
      ⟨{ y with
          phase := .answered { toHead := head, url := y.url } {
            url := y.url
            lease := some (l.afterHead head)
            readTimeout := t.settings.readTimeout
            deadline := y.deadline
            token := y.token } }, t, .empty⟩
  /-- A response ends the exchange with an error. -/
  | reject {x s l limit head action negotiator supply} (hphase : x.phase = .sending l limit)
    (hanswer : (s.inbox l).answer = some (.head head))
    (hjudged : x.judged s l head = (action, negotiator, supply)) (hhop : x.hop? head = none) :
    Move ⟨x, s, .empty⟩ [x.headNote s l head]
      ⟨{ x with pending := none, negotiator := negotiator, phase := .resting },
        { s with supply := supply }, .spent (l.afterHead head)⟩
  /-- A request breaks off without a head. -/
  | lose {x s l limit} (hphase : x.phase = .sending l limit) :
    Move ⟨x, s, .empty⟩ [.broke l] ⟨{ x with phase := .resting }, s, .spent l⟩
  /-- Nobody is interested any more while a body is dropped. -/
  | quit {x s l read limit after} (hphase : x.phase = .draining l read limit after) :
    Move ⟨x, s, .empty⟩ [.broke l] ⟨{ x with phase := .dropped }, s, .spent l⟩
  /-- A part of a body is dropped. -/
  | skim {x s l read limit after bytes isLast inbox}
    (hphase : x.phase = .draining l read limit after)
    (hread : (s.inbox l).read = (some (.data bytes isLast), inbox))
    (hle : read + bytes.length ≤ maxDrain) :
    Move ⟨x, s, .empty⟩ [.skipped l (.data bytes isLast)]
      ⟨{ x with phase := .draining l (read + bytes.length) limit after },
        s.setInbox l inbox, .empty⟩
  /-- A body that is dropped was read to its end. -/
  | rest {x s l read limit after inbox} (hphase : x.phase = .draining l read limit after)
    (hread : (s.inbox l).read = (some (.ended .complete), inbox)) :
    Move ⟨x, s, .empty⟩ [.skipped l (.ended .complete)]
      ⟨x.turned l after, s, .rested l after.keeps⟩
  /-- A body that is dropped is too long or breaks off. -/
  | spill {x s l read limit after item inbox} (hphase : x.phase = .draining l read limit after)
    (hread : (s.inbox l).read = (some item, inbox)) (hmuch : isTooMuch read item = true) :
    Move ⟨x, s, .empty⟩ [.skipped l item] ⟨x.turned l after, s, .spent l⟩
  /-- A body that is dropped takes too long. -/
  | tire {x s l read limit after} (hphase : x.phase = .draining l read limit after) :
    Move ⟨x, s, .empty⟩ [.broke l] ⟨x.turned l after, s, .spent l⟩
  /-- A connection is kept for the answer to a challenge. -/
  | keep {x s l} (hphase : x.phase = .resting) (hpending : x.pending.isSome = true)
    (hpoolable : l.isPoolable s.moment = true) :
    Move ⟨x, s, .rested l true⟩ [] ⟨{ x with held := some l }, s, .empty⟩
  /-- A connection whose body was read goes back. -/
  | store {x s l keep} (hkeep : keep = true → l.isPoolable s.moment = false) :
    Move ⟨x, s, .rested l keep⟩ [] ⟨x, s.release l, .empty⟩
  /-- The pump takes a step. -/
  | pump {x s head body next effect inbox} (hphase : x.phase = .answered head body)
    (hpump : body.pump s.now (s.isCanceled body.token) ((body.lease.map s.inbox).getD {}) =
      some ((next, effect), inbox)) :
    Move ⟨x, s, .empty⟩ (x.pumpHears s)
      ⟨{ x with phase := .answered head next },
        (body.lease.map fun l => s.setInbox l inbox).getD s, effect.hand⟩
  /-- A reader does something about a body. -/
  | touch {x s head body} (next : Body) (delivery : Option Delivery)
    (hphase : x.phase = .answered head body) (hlease : next.lease = body.lease) :
    Move ⟨x, s, .empty⟩ []
      ⟨{ x with phase := .answered head next, delivery := delivery }, s, .empty⟩
  /-- A delivery ends without a body. -/
  | hush {x s} (delivery : Option Delivery) :
    Move ⟨x, s, .empty⟩ [] ⟨{ x with delivery := delivery }, s, .empty⟩

/-- Any number of moves, one after the other, with the notes of all. -/
inductive Moves : Scene → List Note → Scene → Prop
  | refl {a} : Moves a [] a
  | head {a b c notes later} (h : Move a notes b) (rest : Moves b later c) :
    Moves a (notes ++ later) c

theorem Moves.single {a b : Scene} {notes : List Note} (h : Move a notes b) : Moves a notes b := by
  have hmoves := Moves.head h .refl
  rwa [List.append_nil] at hmoves

end Exchange

end HttpClient
