import HttpClient.Proofs.Client.Hangups
import HttpClient.Proofs.Client.Resending

/-!
# Requests that are tried again

An attempt that fails before a head is made again only if its error is of the kind that may be
retried, and each time a unit of the budget is spent. The stream of the attempt is hung up, so that
nothing goes out on it any more, while the credentials that the request owes are sent again with the
next attempt, whatever connection that is made on.
-/

namespace HttpClient

namespace Retry

/-- What an error has to be like for the request to be sent again, by a method and on a connection
that was used before or not. -/
structure Allows (method : Method) (reused : Bool) (e : Error) : Prop where
  /-- Nowhere behind the error did time run out. -/
  timely : ∀ cause ∈ [.timedOut, .transport .timedOut, .wire .timedOut], .cause cause ∉ e.chain
  stage : e.stage ∉ [.canceled, .protocol, .auth, .builder, .redirect]
  /-- No connection was opened, though not for want of room, or the request that was out may be
  repeated. -/
  safe : e.stage = .connect ∧ .cause .tooManyConnections ∉ e.chain ∨
    e.stage = .request ∧
      (reused = true ∨ method ∈ ["GET", "HEAD", "OPTIONS", "TRACE", "PUT", "DELETE"])

variable {method : Method} {reused : Bool} {e : Error}

/-- Six methods may be repeated. -/
theorem isIdempotent_iff (method : Method) : isIdempotent method = true ↔
    method ∈ ["GET", "HEAD", "OPTIONS", "TRACE", "PUT", "DELETE"] :=
  List.contains_iff_mem

/-- An error is judged by its stage and by all that stands behind it. -/
theorem isRetryable_iff : isRetryable method reused e = true ↔ Allows method reused e := by
  have hjudged : Allows method reused e ↔ e.isTimeout = false ∧
      e.stage ∉ [.canceled, .protocol, .auth, .builder, .redirect] ∧
      (e.stage = .connect ∧ e.hasCause .tooManyConnections = false ∨
        e.stage = .request ∧ (reused = true ∨ isIdempotent method = true)) := by
    rw [e.isTimeout_eq_false_iff, e.hasCause_eq_false_iff, isIdempotent_iff]
    exact ⟨fun h => ⟨h.timely, h.stage, h.safe⟩, fun ⟨timely, stage, safe⟩ => ⟨timely, stage, safe⟩⟩
  rw [hjudged]
  unfold isRetryable
  cases htimeout : e.isTimeout with
  | true => simp
  | false => cases hstage : e.stage <;> simp

end Retry

namespace Client

open Snapshot Exchange

variable {c : Client} {j : Journal} {id : ExchangeId} {x y : Exchange} {t : Shared}
  {settings : Settings} {supply : Supply} {u : TransportId}

/-- What an exchange does in its own step is what the step adds to the actions. -/
theorem newActions_of_step {acts : List Action} (hx : c.exchange? id = some x)
    (hstep : x.step c.shared = some (y, t)) (hacts : t.actions = c.shared.actions ++ acts) :
    c.newActions (.run (.exchange id)) = acts := by
  rw [newActions, step_run_of_turn (.exchange id) hx hstep]
  change t.actions.drop c.shared.actions.length = acts
  rw [hacts, List.drop_left]

/-- A stream whose attempt came to nothing carries nothing any more. -/
theorem hungUp_of_setback (hreach : Reachable settings supply ⟨c, 0, .empty, j⟩)
    (hx : c.exchange? id = some x) (hstream : x.phase.stream? = some u)
    (hheard : x.heard? c.shared = none) (hstep : x.step c.shared = some (y, t))
    (hbare : y.phase.place = .bare) (later : List Event) :
    ((c.step (.run (.exchange id))).journal later).on u = [] := by
  obtain ⟨hheld, htries⟩ : x.held = none ∧ x.phase.place.Tries u := by
    have htidy := ((hreach.next (.turn id)).sound.actor hx).1
    cases hphase : x.phase with
    | dialing | sending =>
      rw [hphase] at hstream
      exact ⟨htidy.held_of_phase hphase rfl, Option.some.inj hstream⟩
    | resting | waiting | draining | answered | failed | dropped =>
      rw [hphase] at hstream
      cases hstream
  have hy : (c.step (.run (.exchange id))).exchange? id = some y :=
    c.exchange?_run_of_turn (.exchange id) hx hstep
  have hsilent : (j ++ c.notes (.run (.exchange id))).heads id = j.heads id :=
    heads_of_unheard j _ fun w _ hw => Option.some.inj (hx.symm.trans hw) ▸ hheard
  have hungUp := hungUp_of_event hreach hx hheld htries _ hsilent hy hbare
  exact on_of_hungUp (hreach.event _) hungUp later

/-- An exchange that has ended sends nothing any more. -/
theorem unsent_of_ended (hx : c.exchange? id = some x) (hended : ¬x.isRunning = true)
    (later : List Event) (transport : TransportId) (message : Message) (after : Exchange) :
    (id, .sent transport message after) ∉ c.journal later := by
  have hrun := run_kept
    (P := fun c j => (∃ x, c.exchange? id = some x ∧ ¬x.isRunning = true) ∧
      (id, .sent transport message after) ∉ j)
    (fun c j event ⟨⟨x, hx, hended⟩, hnone⟩ => by
      obtain ⟨y, hy, hfares⟩ := fares_step hx event
      have hwaits : x.step c.shared = none := by
        cases hstep : x.step c.shared with
        | none => rfl
        | some next => exact absurd (running_of_step hstep) hended
      refine ⟨⟨y, hy, ?_⟩, fun hmem => ?_⟩
      · cases hfares with
        | step hevent hstep => cases hwaits.symm.trans hstep
        | rest _ hrests => exact fun hgoes => hended (visited_rests hrests hgoes).1
      · rcases List.mem_append.mp hmem with hold | hnew
        · exact hnone hold
        · rcases c.notes_cases event id with ⟨w, z, t, said, -, hw, hstep, -⟩ |
            ⟨-, k, notes, hnotes, hsilent⟩
          · obtain rfl := Option.some.inj (hw.symm.trans hx)
            cases hwaits.symm.trans hstep
          · rw [hnotes] at hnew
            obtain ⟨note, hnote, heq⟩ := List.mem_map.mp hnew
            obtain ⟨rfl, rfl⟩ := Prod.mk.inj heq
            cases hsilent rfl _ hnote)
    later (j := []) ⟨⟨x, hx, hended⟩, List.not_mem_nil⟩
  exact hrun.2

/-- When a request is sent again. A request is submitted to any client, and after that anything
happens. Whatever step of an attempt comes next, if no head is heard in it the attempt goes on, or
it meets a setback. Then its stream is hung up and nothing goes out on it any more; and either the
request ends with the error and sends nothing any more, or another attempt begins, for which a unit
of the budget is spent. That happens where some of the budget is left and the error allows it: time
ran out nowhere behind it, at whatever depth, and it is neither a cancellation nor an error about
protocol, authentication, builder or redirect, but tells of a connection that was not opened,
without too many connections anywhere behind that, or of a request that got no head on a connection
that was used before or by a method that may be repeated. What stands behind the failure of a stream
all stands behind the error. And what was computed for a challenge of Basic or Digest is sent
unchanged with every attempt from then on, until another head is heard. -/
theorem attempts_after_setbacks (settings : Settings) (supply : Supply) (before events : List Event)
    (r : Request) (consumer : Option Consumer) :
    let id := ((Client.make settings supply).run before).exchanges.length
    let whole := before ++ .submit r consumer :: events
    let reached := (Client.make settings supply).run whole
    let next := reached.step (.run (.exchange id))
    (reached.shared.actions.filter Action.isSaid =
      ((Client.make settings supply).journal whole).filterMap (·.2.action?)) ∧
    (∀ x y t, reached.exchange? id = some x →
      (x.phase = .resting ∨ x.phase.isUnderWay = true) → x.heard? reached.shared = none →
      x.step reached.shared = some (y, t) → next.exchange? id = some y ∧
        ((x.setback? reached.shared = none ∧ y.phase.isUnderWay = true) ∨
          ∃ e, x.setback? reached.shared = some e ∧
            (∀ transport, x.phase.stream? = some transport →
              .hangUp transport ∈ reached.newActions (.run (.exchange id)) ∧
                ∀ later, (next.journal later).on transport = []) ∧
            (x.isCut reached.shared = false → x.Relates reached.shared e) ∧
            ((y.phase = .failed e ∧
                (¬Retry.Allows x.content.method x.phase.isReused e ∨ x.retries.remaining = 0) ∧
                ∀ later transport message after,
                  (id, .sent transport message after) ∉ next.journal later) ∨
              (y.phase = .resting ∧ Retry.Allows x.content.method x.phase.isReused e ∧
                x.retries.remaining = y.retries.remaining + 1)))) ∧
    ∀ (earlier : Journal) transport message after later realm header,
      (Client.make settings supply).journal whole =
        earlier ++ (id, .sent transport message after) :: later →
      earlier.owed? id = some (realm, header) → realm.scheme ∈ [.basic, .digest] →
      message.headers.values realm.target.credentialsHeader = [header] := by
  intro id whole reached next
  have hreach := reachable_run settings supply whole
  refine ⟨hreach.actions, fun x y t hx hphase hheard hstep => ?_,
    fun earlier transport message after later realm header hsplit howed hscheme => ?_⟩
  · have hy : next.exchange? id = some y :=
      reached.exchange?_run_of_turn (.exchange id) hx hstep
    refine ⟨hy, ?_⟩
    rcases setback_of_step hphase hheard hstep with hgoes | ⟨e, hsetback, houtcome⟩
    · exact Or.inl hgoes
    · obtain ⟨hend, hbare⟩ : y.phase.isUnderWay = false ∧ y.phase.place = .bare := by
        rcases houtcome with ⟨hfailed, -⟩ | ⟨hresting, -⟩
        · rw [hfailed]
          exact ⟨rfl, rfl⟩
        · rw [hresting]
          exact ⟨rfl, rfl⟩
      refine Or.inr ⟨e, hsetback, fun transport hstream => ⟨?_, ?_⟩,
        fun hcut => relates_of_setback hcut hsetback, ?_⟩
      · obtain ⟨acts, hacts, hmem⟩ := hangUp_of_step hstream hheard hstep hend
        rw [newActions_of_step hx hstep hacts]
        exact hmem
      · exact hungUp_of_setback hreach hx hstream hheard hstep hbare
      · rcases houtcome with ⟨hfailed, hfinal⟩ | ⟨hresting, -, hretry, hspent⟩
        · rw [← Bool.not_eq_true, Retry.isRetryable_iff] at hfinal
          exact Or.inl ⟨hfailed, hfinal, unsent_of_ended hy (not_running hfailed rfl)⟩
        · exact Or.inr ⟨hresting, Retry.isRetryable_iff.mp hretry,
            Retry.Budget.remaining_withdraw hspent⟩
  · have hposted := (follows_run settings supply before events r consumer).posted earlier _ later
      hsplit transport message after rfl
    have hhonours := (owes_run settings supply before events r consumer).sent earlier _ later
      hsplit transport message after rfl
    refine resent_of_owed hposted hhonours howed ?_
    rcases List.mem_cons.mp hscheme with hbasic | hdigest
    · rw [hbasic]
      rfl
    · rw [List.mem_singleton.mp hdigest]
      rfl

/-- A request that may be repeated. -/
def visit : Request :=
  { method := "GET"
    url := { scheme := "http", host := some (.domain "h.example"), path := .segments ["1"] } }

/-- A stream cannot be opened for a failure of the transport that two errors wrap. The failure
counts as deep as it stands: only where no time ran out is the request tried again. -/
example :
    let reached := fun fault => (Client.make {} {}).run
      [.submit visit none, .run (.exchange 0),
        .dialed 0 (some (Error.wrapping .connect (.of .connect (.transport fault))).chain),
        .run (.exchange 0)]
    ((reached .timedOut).exchange? 0).map Exchange.isRunning = some false ∧
      ((reached .refused).exchange? 0).map Exchange.isRunning = some true := by
  decide +kernel

end Client

end HttpClient
