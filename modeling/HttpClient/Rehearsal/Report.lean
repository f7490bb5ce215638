import HttpClient.Rehearsal.Command

/-!
# Reports of a rehearsal

What can be seen after each command: the virtual time, the pool, and whatever has happened since
the last report.
-/

namespace HttpClient.Rehearsal

/-- What can be seen of a body. -/
structure BodyView where
  /-- Parts that were produced and not taken. -/
  buffered : Nat
  demand : Demand
  isDone : Bool
  deriving DecidableEq, Repr

/-- What can be seen after a command. -/
structure Report where
  outcome : Outcome
  time : Nat
  stats : PoolStats
  /-- How many negotiator states are parked. -/
  parked : Nat
  body : Option BodyView
  /-- The new calls to consumers. -/
  calls : List (String × List Callback)
  connects : List (TransportId × Target)
  received : List Received

/-- What is left after everything was given up. -/
structure Summary where
  stats : PoolStats
  parked : Nat
  /-- The connections that the client closed before the server did. -/
  closed : List TransportId
  deriving DecidableEq, Repr

/-- The counters of the pool. -/
def stats (r : Rehearsal) : PoolStats := r.stage.client.shared.pool.stats

/-- How many negotiator states are parked. -/
def parked (r : Rehearsal) : Nat := r.stage.client.shared.arena.size

/-- What can be seen of the body that a name stands for. -/
def view? (r : Rehearsal) (name : String) : Option BodyView := do
  let id ← r.bodyOf? name
  let body ← r.stage.client.body? id
  return ⟨body.queue.length, body.demand, body.isDone⟩

/-- All calls to the consumer of an exchange. -/
def callsTo (r : Rehearsal) (id : ExchangeId) : List Callback :=
  (((r.exchange? id).bind Exchange.delivery).map Delivery.calls).getD []

/-- The calls to the consumer of an exchange since the last report. -/
def newCalls (r : Rehearsal) (id : ExchangeId) : List Callback :=
  (r.callsTo id).drop ((r.reported.lookup id).getD 0)

/-- The calls to all consumers since the last report. -/
def allNewCalls (r : Rehearsal) : List (String × List Callback) :=
  let entries := r.consumers.reverse.map (fun c => (c.1, r.newCalls c.2))
    ++ r.refusals.map fun refusal => (refusal.1, [Callback.error refusal.2])
  let names := (entries.map Prod.fst).eraseDups
  let calls := names.map fun name => (name, (entries.filter (·.1 = name)).flatMap Prod.snd)
  calls.filter fun c => !c.2.isEmpty

/-- Everything so far was reported. -/
def acknowledge (r : Rehearsal) : Rehearsal :=
  { r with
    stage := { r.stage with connects := [], received := [] }
    reported := r.consumers.map fun c => (c.2, (r.callsTo c.2).length)
    refusals := [] }

/-- Does a command, lets it settle, and reports; the body that is shown is that of a name. -/
def step (r : Rehearsal) (subject : String) (command : Command) : Report × Rehearsal :=
  let (outcome, r) := r.run command
  let r := r.settled
  ({ outcome := outcome
     time := r.stage.now
     stats := r.stats
     parked := r.parked
     body := r.view? subject
     calls := r.allNewCalls
     connects := r.stage.connects
     received := r.stage.received }, r.acknowledge)

/-- Gives up everything that names stand for. -/
def close (r : Rehearsal) : Rehearsal :=
  let dropAll := fun (r : Rehearsal) (slot : String × Slot) => r.release slot.2
  (r.slots.foldl dropAll { r with slots := [] }).settled

/-- What is left after everything was given up. -/
def summary (r : Rehearsal) : Summary :=
  let r := r.close
  ⟨r.stats, r.parked, r.stage.closed⟩

/-- Does commands, each with the name whose body is shown after it. -/
def perform (r : Rehearsal) (commands : List (String × Command)) : List Report × Summary :=
  let step := fun ((reports, r) : List Report × Rehearsal) (c : String × Command) =>
    let (report, r) := r.step c.1 c.2
    (reports ++ [report], r)
  let (reports, r) := commands.foldl step ([], r)
  (reports, r.summary)

end HttpClient.Rehearsal
