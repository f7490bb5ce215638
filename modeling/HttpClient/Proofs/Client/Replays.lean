import HttpClient.Proofs.Client.Checkouts
import HttpClient.Proofs.Client.Retries

/-!
# Requests that must not be repeated

A request that is not idempotent is sent again after a failure only on a connection that came out of
the idle set. On a connection that was opened for the request itself nobody else has sent anything,
and a failure there ends the request. But a connection out of the idle set counts as one as long as
the request keeps it, so a request is repeated even after the server has answered it there.
-/

namespace HttpClient

namespace Place

/-- True for a stream that was dialed for what an exchange has. -/
def Opens (u : TransportId) (p : Place) : Prop :=
  p.transport? = some u ∧ ∀ l, p.lease? = some l → l.reused = false

variable {p q : Place} {s t : Shared} {notes : List Note} {u : TransportId}

/-- What an exchange has over a stream that was dialed for it, it had so before, or it is new. -/
theorem opens_of_turn (hturn : p.Turn s notes q t) (hq : q.Opens u) :
    p.Opens u ∨ s.nextTransport ≤ u := by
  obtain ⟨htransport, hfresh⟩ := hq
  cases hturn with
  | stay => exact Or.inl ⟨htransport, hfresh⟩
  | @ask s t status hask =>
    rcases status with (l | r) | ticket | _
    · exact Bool.noConfusion ((Shared.found_of_asks hask).1.symm.trans (hfresh l rfl))
    all_goals cases htransport
  | @dial s t r hask =>
    obtain rfl := Option.some.inj htransport
    exact Or.inr (Nat.le_of_eq (nextTransport_of_asks hask).symm)
  | establish => exact Or.inl ⟨htransport, nofun⟩
  | abandon | leave | close | store => cases htransport
  | spoil | send | skim | rest | spill | keep => exact Or.inl ⟨htransport, hfresh⟩
  | @hear s t l q head realm answer state hnext =>
    have hlease : q.transport? = some (l.afterHead head).transport ∧
        q.lease? = some (l.afterHead head) := by
      rcases hnext with rfl | rfl | rfl <;> exact ⟨rfl, rfl⟩
    refine Or.inl ⟨?_, fun k hk => ?_⟩
    · rw [← htransport, hlease.1, Lease.transport_afterHead]
      rfl
    · rw [← Option.some.inj hk, ← l.reused_afterHead head]
      exact hfresh _ hlease.2
  | lose hreading =>
    rcases hreading with rfl | ⟨read, rfl⟩ <;> exact Or.inl ⟨htransport, hfresh⟩
  | pump hpumped => cases hpumped <;> exact Or.inl ⟨htransport, hfresh⟩

end Place

namespace Snapshot

open Exchange

/-- On a stream that was dialed for an exchange nobody else did anything. -/
def Solitary (a : Snapshot) : Prop :=
  ∀ id x u, a.client.exchange? id = some x → (x.place (a.handOf id)).Opens u →
    ∀ entry ∈ a.journal, entry.2.transport = u → entry.1 = id

variable {settings : Settings} {supply : Supply} {a b : Snapshot} {c : Client} {id : ExchangeId}
  {h h' : Hand} {j : Journal} {x y : Exchange} {t : Shared} {notes : List Note}

/-- The move of an exchange leaves every stream to the one that it was dialed for. -/
theorem Solitary.move (ha : Solitary ⟨c, id, h, j⟩)
    (hreach : Reachable settings supply ⟨c, id, h, j⟩) (hx : c.exchange? id = some x)
    (hmove : Move ⟨x, c.shared, h⟩ notes ⟨y, t, h'⟩) :
    Solitary ⟨c.put id y t, id, h', j ++ notes.map (Prod.mk id)⟩ := by
  have hsound := hreach.sound
  obtain ⟨hturn, -⟩ := hsound.turn hx hmove
  intro k z u hz hopens entry hentry hnoted
  by_cases hk : k = id
  · subst hk
    obtain rfl := Option.some.inj ((Client.exchange?_put_self hx).symm.trans hz)
    simp only [handOf, if_true] at hopens
    rcases List.mem_append.mp hentry with hold | hnew
    · rcases Place.opens_of_turn hturn hopens with hbefore | hnext
      · exact ha k x u hx (by simpa [handOf] using hbefore) entry hold hnoted
      · -- Nothing is noted of a stream before it is dialed.
        have hnone := hreach.told.fresh u hnext
        refine absurd (List.mem_filter.mpr ⟨List.mem_map_of_mem hold, ?_⟩)
          (List.eq_nil_iff_forall_not_mem.mp hnone entry.2)
        exact decide_eq_true hnoted
    · obtain ⟨note, -, rfl⟩ := List.mem_map.mp hnew
      rfl
  · have hz' : c.exchange? k = some z := (Client.exchange?_put_of_ne hk).symm.trans hz
    have hopens' : (z.place (handOf ⟨c, id, h, j⟩ k)).Opens u := by
      simp only [handOf, hk, if_false] at hopens ⊢
      exact hopens
    rcases List.mem_append.mp hentry with hold | hnew
    · exact ha k z u hz' hopens' entry hold hnoted
    · obtain ⟨note, hnote, rfl⟩ := List.mem_map.mp hnew
      obtain ⟨hlt, -, hothers⟩ := hsound.transport_alone hz' hopens'.1
      rcases Place.transport_of_turn hturn hnote with hown | ⟨hnext, -⟩
      · refine absurd ?_ (hothers id x (Ne.symm hk) hx)
        rw [handOf, if_pos rfl, hown, ← hnoted]
      · exact absurd hlt (Nat.not_lt.mpr (Nat.le_of_eq (hnext.symm.trans hnoted)))

/-- Whatever happens, on a stream that was dialed for an exchange nobody else does anything. -/
theorem Reachable.solitary (hreach : Reachable settings supply a) : Solitary a := by
  induction hreach with
  | start => exact fun id x u hx => absurd hx nofun
  | @next a b hbefore hstep ih =>
    cases hstep with
    | turn next =>
      intro k z u hz hopens
      rw [handOf_empty] at hopens
      exact ih k z u hz (by rw [handOf_empty]; exact hopens)
    | world now supply streams canceled => exact fun k z u hz hopens => ih k z u hz hopens
    | @submit c id j request delivery =>
      intro k z u hz hopens
      rw [handOf_empty] at hopens
      rcases Nat.lt_or_ge k c.exchanges.length with hold | hnew
      · refine ih k z u ?_ (by rw [handOf_empty]; exact hopens)
        rw [← hz]
        exact (List.getElem?_append_left hold).symm
      · have hlast : [ofRequest c.shared request delivery][k - c.exchanges.length]? = some z := by
          rw [← hz]
          exact (List.getElem?_append_right hnew).symm
        obtain rfl := List.mem_singleton.mp (List.mem_of_getElem? hlast)
        cases hopens.1
    | move hx hmove => exact ih.move hbefore hx hmove

end Snapshot

namespace Exchange

variable {x y : Exchange} {s t : Shared} {l : Lease} {limit : Option Nat}

/-- After an error of a request that is out the exchange ends, or it is sent again: because its
connection came out of the idle set, or because it may be repeated. -/
theorem outcome_of_retryOrFail (x : Exchange) (s : Shared) (e : Error) (reused : Bool)
    (hstage : e.stage ≠ .connect) :
    (∃ last, (x.retryOrFail s e reused).1.phase = .failed last) ∨
      (x.retryOrFail s e reused).1.phase = .resting ∧
        (reused = true ∨ Retry.isIdempotent x.content.method = true) := by
  unfold retryOrFail
  dsimp only
  by_cases hagain : (Retry.isRetryable x.content.method reused e && x.retries.withdraw.1) = true
  · rw [if_pos hagain]
    obtain ⟨hretry, -⟩ := Bool.and_eq_true_iff.mp hagain
    rcases (Retry.isRetryable_iff.mp hretry).safe with ⟨hconnect, -⟩ | ⟨-, hwhy⟩
    · exact absurd hconnect hstage
    · exact Or.inr ⟨rfl, hwhy.imp_right (Retry.isIdempotent_iff _).mpr⟩
  · rw [if_neg hagain]
    exact Or.inl ⟨_, rfl⟩

/-- A request that is out and hears no head fails with the next step, or it is sent again. -/
theorem outcome_of_unheard (hphase : x.phase = .sending l limit) (hheard : x.heard? s = none)
    (hstep : x.step s = some (y, t)) :
    (∃ e, y.phase = .failed e) ∨
      y.phase = .resting ∧ (l.reused = true ∨ Retry.isIdempotent x.content.method = true) := by
  have hrunning : x.isRunning = true := running hphase rfl
  by_cases hcut : x.isCut s = true
  · rw [step_of_cut hrunning hcut] at hstep
    rw [← (Prod.mk.inj (Option.some.inj hstep)).1]
    exact Or.inl ⟨_, rfl⟩
  · rw [Bool.not_eq_true] at hcut
    rw [step_of_uncut hrunning hcut, proceed] at hstep
    simp only [hphase] at hstep
    have hfails : ∀ e : Error, e.stage ≠ .connect → x.sendFailed s l e = (y, t) →
        (∃ e, y.phase = .failed e) ∨
          y.phase = .resting ∧ (l.reused = true ∨ Retry.isIdempotent x.content.method = true) := by
      intro e hstage heq
      have houtcome := outcome_of_retryOrFail x (s.discard l) (e.withUrl x.url) l.reused hstage
      have hy : (x.retryOrFail (s.discard l) (e.withUrl x.url) l.reused).1 = y :=
        congrArg Prod.fst heq
      rwa [hy] at houtcome
    split at hstep
    · rename_i head hanswer
      simp [heard?, hphase, hcut, hanswer] at hheard
    · rename_i fault chain hanswer
      refine hfails (faultError fault chain) ?_ (Option.some.inj hstep)
      cases fault <;> exact Stage.noConfusion
    · obtain ⟨-, heq⟩ := Option.ite_none_right_eq_some.mp hstep
      exact hfails _ Stage.noConfusion (Option.some.inj heq)

end Exchange

namespace Client

open Snapshot Exchange

/-- When a request that is not idempotent is sent again. A request is submitted to any client, and
after that anything happens. If the request is out on a connection and the next step hears no head,
another attempt is made only where the connection is marked as one that was used before: then the
request itself took it out of the idle set in an earlier turn. Where the connection was opened for
the request, all that was ever done on its stream was done by this request; and however many
challenges were answered there, the failure ends the request, which sends nothing any more. -/
theorem repeats_on_reused (settings : Settings) (supply : Supply) (before events : List Event)
    (r : Request) (consumer : Option Consumer) :
    let id := ((Client.make settings supply).run before).exchanges.length
    let whole := before ++ .submit r consumer :: events
    let reached := (Client.make settings supply).run whole
    let next := reached.step (.run (.exchange id))
    (reached.shared.actions.filter Action.isSaid =
      ((Client.make settings supply).journal whole).filterMap (·.2.action?)) ∧
    ∀ x y t l limit, reached.exchange? id = some x → x.phase = .sending l limit →
      Retry.isIdempotent x.content.method = false → x.heard? reached.shared = none →
      x.step reached.shared = some (y, t) →
      (y.phase = .resting → l.reused = true ∧
        (Client.make settings supply).HadTurn whole id (Takes l.toOpened)) ∧
      (l.reused = false →
        (∀ entry ∈ (Client.make settings supply).journal whole,
          entry.2.transport = l.transport → entry.1 = id) ∧
        (∃ e, y.phase = .failed e) ∧ ∀ later transport message after,
          (id, .sent transport message after) ∉ next.journal later) := by
  intro id whole reached next
  have hreach := reachable_run settings supply whole
  refine ⟨hreach.actions, fun x y t l limit hx hphase hmethod hheard hstep => ?_⟩
  have hy : next.exchange? id = some y :=
    reached.exchange?_run_of_turn (.exchange id) hx hstep
  have houtcome : (∃ e, y.phase = .failed e) ∨ y.phase = .resting ∧ l.reused = true := by
    rcases outcome_of_unheard hphase hheard hstep with hfailed | ⟨hresting, hreused | hsafe⟩
    · exact Or.inl hfailed
    · exact Or.inr ⟨hresting, hreused⟩
    · cases hsafe.symm.trans hmethod
  refine ⟨fun hresting => ?_, fun hfresh => ⟨fun entry hentry hnoted => ?_, ?_⟩⟩
  · rcases houtcome with ⟨e, hfailed⟩ | ⟨-, hreused⟩
    · cases hresting.symm.trans hfailed
    · have hlease : x.lease? = some l := by
        have hheld : x.held = none :=
          ((hreach.next (.turn id)).sound.actor hx).1.held_of_phase hphase rfl
        exact lease?_of_phase hheld hphase
      exact ⟨hreused, takes_of_reused settings supply whole hx (running hphase rfl) hlease hreused⟩
  · have hplace : x.place .empty = .asked l :=
      ((hreach.next (.turn id)).sound.actor hx).1.place_of_phase hphase rfl
    refine hreach.solitary id x l.transport hx ?_ entry hentry hnoted
    rw [handOf_empty, hplace]
    exact ⟨rfl, fun k hk => Option.some.inj hk ▸ hfresh⟩
  · rcases houtcome with ⟨e, hfailed⟩ | ⟨-, hreused⟩
    · exact ⟨⟨e, hfailed⟩, unsent_of_ended hy (not_running hfailed rfl)⟩
    · cases hreused.symm.trans hfresh

/-- A request that is not idempotent and has credentials if it is asked for them. -/
def payment : Request :=
  { method := "POST"
    url := { scheme := "http", host := some (.domain "h.example"), path := .segments ["2"] }
    body := some [112]
    realm := some { scheme := .basic, principal := "u", password := "p" } }

/-- The server asks for credentials. -/
def whoPays : Head := { status := 401, headers := ⟨[("www-authenticate", .ofAscii "Basic")]⟩ }

/-- A payment takes the idle connection and is challenged there. The server closes the connection
when the answer to the challenge has gone out on it. -/
def paidTwice : List Event :=
  [.submit visit none, .run (.exchange 0), .dialed 0 none, .run (.exchange 0),
    .arrive 0 (.head { status := 200 }), .run (.exchange 0), .arrive 0 (.ending .complete),
    .request 0 1, .run (.pump 0), .run (.pump 0),
    .submit payment none, .run (.exchange 1), .arrive 0 (.head whoPays), .run (.exchange 1),
    .arrive 0 (.ending .complete), .run (.exchange 1), .run (.exchange 1),
    .arrive 0 .hangUp, .run (.exchange 1), .run (.exchange 1), .dialed 1 none, .run (.exchange 1)]

/-- The stream on which a request goes out that is not idempotent. -/
def unsafeStream? : Action → Option TransportId
  | .send transport message => if Retry.isIdempotent message.method then none else some transport
  | _ => none

/-- On the connection on which the payment failed it had been answered before; still it goes out
once more on a new connection. -/
theorem paidTwice_repeats :
    ((Client.make {} {}).journal paidTwice).heads 1 = [whoPays] ∧
      ((Client.make {} {}).run paidTwice).shared.actions.filterMap unsafeStream? = [0, 0, 1] ∧
      (((Client.make {} {}).run paidTwice).exchange? 1).map Exchange.isRunning = some true := by
  decide +kernel

end Client

end HttpClient
