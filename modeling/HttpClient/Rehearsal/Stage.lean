import HttpClient.Client
import HttpClient.Rehearsal.Link

/-!
# The stage of a rehearsal

A client, a scripted server, and the connections between them, on virtual time. Everything that
can go on takes its turn, first come first served, and time stands still meanwhile; when
nothing can go on, time moves to the next moment at which something happens.
-/

namespace HttpClient.Rehearsal

/-- Something that can go on. -/
inductive Turn
  | task (task : Task)
  | carrier (link : TransportId)
  | server (link : TransportId)
  deriving DecidableEq, Repr

/-- An attempt to open a stream that has not ended. -/
structure Dialing where
  transport : TransportId
  ending : DialEnd
  /-- When it ends, if it ever does. -/
  due : Option Nat
  deriving DecidableEq, Repr

/-- A request that the server looked at. -/
structure Received where
  transport : TransportId
  message : Message
  deriving DecidableEq, Repr

/-- The headers of a request as the server sees them: the marks of sensitive values do not
travel, nor do blanks around a value; what is about the connection only is left out. -/
def Received.headers (r : Received) : Fields :=
  let seen := fun (v : HeaderValue) =>
    let bytes := Http1.trimEnd (v.bytes.dropWhile Http1.isBlankByte)
    ({ bytes := bytes } : HeaderValue)
  ⟨(r.message.headers.erase "connection").entries.map fun e => (e.1, seen e.2)⟩

/-- A client, a scripted server and the connections between them. -/
structure Stage where
  client : Client
  script : Script
  dials : List Dialing := []
  links : List Link := []
  /-- What takes its turn next, first to last. -/
  agenda : List Turn := []
  /-- The attempts to open a stream since the last report, first to last. -/
  connects : List (TransportId × Target) := []
  /-- The requests since the last report, first to last. -/
  received : List Received := []
  /-- The connections that the client closed before the server did. -/
  closed : List TransportId := []

namespace Stage

/-- The virtual time. -/
def now (s : Stage) : Nat := s.client.shared.now

/-- Lets something happen to the client. -/
def tell (s : Stage) (event : Event) : Stage := { s with client := s.client.step event }

/-- A connection. -/
def link? (s : Stage) (id : TransportId) : Option Link := s.links.find? (·.id = id)

/-- Changes a connection. -/
def updateLink (s : Stage) (id : TransportId) (f : Link → Link) : Stage :=
  { s with links := s.links.map fun l => if l.id = id then f l else l }

/-- The client closes a connection. -/
def shut (s : Stage) (id : TransportId) : Stage :=
  let counts := (s.link? id).any fun l => !l.closedByClient && !l.closedByServer
  let s := s.updateLink id Link.shut
  if counts then { s with closed := s.closed ++ [id] } else s

/-- An attempt to open a stream ends. -/
def endDial (s : Stage) (transport : TransportId) : DialEnd → Stage
  | .opens =>
    let link : Link := { id := transport }
    tell { s with links := s.links ++ [link] } (.dialed transport none)
  | .hangs => s
  | .fails cause => s.tell (.dialed transport (some [.cause cause]))

/-- An attempt to open a stream begins; one without a delay ends at once. -/
def dial (s : Stage) (transport : TransportId) (target : Target) : Stage :=
  if s.script.canConnect then
    let dial := s.script.dials.head?.getD {}
    let s := { s with
      script := { s.script with dials := s.script.dials.tail }
      connects := s.connects ++ [(transport, target)] }
    if dial.ending = .hangs then s
    else if dial.delay = 0 then s.endDial transport dial.ending
    else
      let due := some (s.now + dial.delay)
      let dialing : Dialing := { transport := transport, ending := dial.ending, due := due }
      { s with dials := s.dials ++ [dialing] }
  else s.endDial transport (.fails .noTls)

/-- Does what the client wants done. -/
def perform (s : Stage) : Action → Stage
  | .dial transport target => s.dial transport target
  | .send transport message => s.updateLink transport (·.send message)
  | .hangUp transport =>
    shut { s with dials := s.dials.filter (·.transport ≠ transport) } transport

/-- Does all that the client wants done. -/
def absorb (s : Stage) : Stage :=
  let (actions, client) := s.client.takeActions
  actions.foldl perform { s with client := client }

/-- A task of the client takes steps until it has to wait, at most so many. -/
def runTask (task : Task) : Nat → Stage → Stage
  | 0, s => s
  | fuel + 1, s =>
    match s.client.advance task with
    | none => s
    | some client => runTask task fuel (absorb { s with client := client })

/-- Something happens to the client, which has done at once what it leads to. -/
def happen (s : Stage) (event : Event) : Stage := (s.tell event).absorb

/-- A connection carries what is on its way, to the client first. -/
def carry (s : Stage) (id : TransportId) : Stage :=
  match s.link? id with
  | none => s
  | some link =>
    let (arrivals, link) := link.read
    let s := s.updateLink id fun _ => link
    let s := arrivals.foldl (fun s arrival => s.tell (.arrive id arrival)) s
    if link.decoder.isClosed then s.shut id else s.updateLink id Link.flush

/-- The server looks at a request and begins to answer it; without a reply it hangs up. -/
def look (s : Stage) (id : TransportId) (message : Message) : Stage :=
  let moves := ((s.script.replies.head?).map (·.moves message.method)).getD [.close]
  let received : Received := { transport := id, message := message }
  let s := { s with
    script := { s.script with replies := s.script.replies.tail }
    received := s.received ++ [received] }
  s.updateLink id fun l => { l with arrived := l.arrived.tail }.play s.now moves

/-- The server goes on with a connection. -/
def serve (s : Stage) (id : TransportId) : Stage :=
  match s.link? id with
  | none => s
  | some link =>
    if !link.serverIsReady s.now then s
    else
      match link.awaitsRequest, link.arrived with
      | true, message :: _ => s.look id message
      | _, _ =>
        if link.closedByClient then s.updateLink id Link.hangUp
        else s.updateLink id fun l => { l with due := none }.play s.now l.moves

/-- The most steps that a task takes in one turn. -/
def maxSteps : Nat := 1000000

/-- Takes a turn. -/
def take (s : Stage) : Turn → Stage
  | .task task => s.runTask task maxSteps
  | .carrier link => s.carry link
  | .server link => s.serve link

/-- Everything that can go on. -/
def ready (s : Stage) : List Turn :=
  s.client.readyTasks.map Turn.task
    ++ (s.links.filter Link.hasCargo).map (Turn.carrier ·.id)
    ++ (s.links.filter (·.serverIsReady s.now)).map (Turn.server ·.id)

/-- Puts what can go on at the end of the agenda, unless it stands there. -/
def refill (s : Stage) : Stage :=
  { s with agenda := s.agenda ++ s.ready.filter fun turn => !s.agenda.contains turn }

/-- Takes turns until nothing can go on, at most so many. -/
def settle : Nat → Stage → Stage
  | 0, s => s
  | fuel + 1, s =>
    let s := s.refill
    match s.agenda with
    | [] => s
    | turn :: rest => settle fuel (take { s with agenda := rest } turn)

/-- The most turns between two moments. -/
def maxTurns : Nat := 1000000

/-- Takes turns until nothing can go on. -/
def settled (s : Stage) : Stage := s.settle maxTurns

/-- The next moment at which something happens. -/
def nextMoment? (s : Stage) : Option Nat :=
  (s.client.nextTimer?.toList ++ s.dials.filterMap Dialing.due ++ s.links.filterMap Link.due).min?

/-- Moves time; the attempts to open a stream that are over by then end. -/
def jump (s : Stage) (time : Nat) : Stage :=
  let s := s.tell (.tick (time - s.now))
  let isOver := fun (d : Dialing) => d.due.any (· ≤ time)
  let (ended, dials) := s.dials.partition isOver
  ended.foldl (fun s d => s.endDial d.transport d.ending) { s with dials := dials }

/-- Moves time to a moment and takes turns there. -/
def moveTo (s : Stage) (time : Nat) : Stage := (s.jump time).settled

/-- The most moments that one wait stops at. -/
def maxMoments : Nat := 1000000

/-- Lets time pass up to a moment, stopping wherever something happens. -/
def runTo (time : Nat) : Nat → Stage → Stage
  | 0, s => s.moveTo time
  | fuel + 1, s =>
    match s.nextMoment? with
    | some next => if next ≤ time then runTo time fuel (s.moveTo next) else s.moveTo time
    | none => s.moveTo time

/-- What one who waits finds. -/
inductive Polled (σ α : Type)
  | ready (value : α)
  | pending (soFar : σ)

/-- Waits for something, at most until a moment: takes turns and looks again, and lets time pass
where looking again does not help. -/
def waitFor {σ α : Type} (poll : σ → Stage → Polled σ α × Stage) (limit : Nat) :
    Nat → σ → Stage → Option α × Stage
  | 0, _, s => (none, s)
  | fuel + 1, soFar, s =>
    match poll soFar s with
    | (.ready value, s) => (some value, s)
    | (.pending soFar, s) =>
      let s := s.absorb
      if !s.refill.agenda.isEmpty then waitFor poll limit fuel soFar s.settled
      else
        match s.nextMoment? with
        | some next =>
          if next ≤ limit then waitFor poll limit fuel soFar (s.moveTo next)
          else (none, s.moveTo limit)
        | none => (none, s.moveTo limit)

end Stage

end HttpClient.Rehearsal
