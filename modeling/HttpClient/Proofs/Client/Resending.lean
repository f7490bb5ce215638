import HttpClient.Proofs.Client.Events
import HttpClient.Proofs.Client.Itinerary

/-!
# Credentials that are sent again

The answer to a challenge that is good on any connection waits for the end of the body, and then
goes out with every attempt, whatever connections the attempts are made on, until one of them gets a
response.
-/

namespace HttpClient

/-- What is owed after a head: the answer to a challenge, for its realm. -/
def Note.owed? : Note → Option (Option (Realm × HeaderValue))
  | heard _ _ realm answer _ => some (realm.bind fun realm => answer.map (Prod.mk realm))
  | _ => none

namespace Journal

/-- What an exchange owes after the last head that it heard: the answer to a challenge, for its
realm. -/
def owed? (j : Journal) (id : ExchangeId) : Option (Realm × HeaderValue) :=
  (j.filterMap fun entry => if entry.1 = id then entry.2.owed? else none).getLast?.join

variable {j : Journal} {id : ExchangeId}

/-- An exchange that a journal does not know owes nothing. -/
theorem owed?_of_unknown (h : ∀ entry ∈ j, entry.1 ≠ id) : j.owed? id = none := by
  have hnone : (j.filterMap fun entry => if entry.1 = id then entry.2.owed? else none) = [] :=
    List.filterMap_eq_nil_iff.mpr fun entry hentry => if_neg (h entry hentry)
  rw [owed?, hnone]
  rfl

/-- Notes of other exchanges, and notes without a head, change nothing about what is owed. -/
theorem owed?_of_silent (j : Journal) (id k : ExchangeId) (notes : List Note)
    (h : k = id → ∀ note ∈ notes, note.head? = none) :
    owed? (j ++ notes.map (Prod.mk k)) id = j.owed? id := by
  have hnone : (if k = id then notes.filterMap Note.owed? else []) = [] := by
    split
    · rename_i hk
      refine List.filterMap_eq_nil_iff.mpr fun note hnote => ?_
      have hhead := h hk note hnote
      cases note with
      | heard => cases hhead
      | dial | sent | skipped | streamed | broke => rfl
    · rfl
  rw [owed?, filterMap_own, hnone, List.append_nil]
  rfl

/-- After a head the answer to it is owed, where it is a challenge that is answered. -/
theorem owed?_concat_headNote (j : Journal) (id : ExchangeId) (x : Exchange) (s : Shared)
    (l : Lease) (head : Head) :
    owed? (j ++ [x.headNote s l head].map (Prod.mk id)) id =
      x.realm.bind fun realm =>
        ((x.judged s l head).1.bind NextAction.header?).map (Prod.mk realm) := by
  rw [owed?, filterMap_own, if_pos rfl]
  exact congrArg Option.join List.getLast?_concat

end Journal

namespace Exchange

/-- The answer to a challenge waits to be sent on any connection. -/
structure Carries (x : Exchange) (realm : Realm) (header : HeaderValue) : Prop where
  realm : x.realm = some realm
  unbound : x.negotiator.isConnectionScoped = false
  waits : x.phase.answer? = some header ∨
    (x.phase = .resting ∨ x.phase.isUnderWay = true) ∧ x.pending = some ⟨header, none⟩

variable {x y z : Exchange} {s t u : Shared} {h h' : Hand} {l : Lease} {realm : Realm}
  {header : HeaderValue} {notes : List Note} {a b : Scene} {target : Target}

/-- Up to its message an attempt leaves an exchange as it is while credentials wait that are good on
any connection. -/
theorem attempt_of_unbound {result : Except Error Message}
    (hpending : x.pending = some ⟨header, none⟩)
    (hunbound : x.negotiator.isConnectionScoped = false) (hbind : x.bind s l = (y, t))
    (hcompose : y.compose t target = (result, z, u)) : z = x := by
  have hsame : y = x := by
    unfold bind at hbind
    split at hbind
    · exact (Prod.mk.inj hbind).1.symm
    · rename_i realm _
      have hfree : (x.pending.any fun p => p.conn.any (· ≠ l.id)) = false := by
        rw [hpending]
        rfl
      have hnone : x.pending.isNone = false := by rw [hpending]; rfl
      simp only [hfree, hunbound, hnone, Bool.or_self, Bool.and_self, Bool.false_eq_true,
        if_false] at hbind
      cases hstored : (s.unpark l realm).1 with
      | none =>
        rw [hstored] at hbind
        exact (Prod.mk.inj hbind).1.symm
      | some n =>
        rw [hstored] at hbind
        exact (Prod.mk.inj hbind).1.symm
  subst hsame
  obtain ⟨value, hcredentials⟩ := compose_frame hcompose
  unfold credentials at hcredentials
  rw [hpending] at hcredentials
  cases hrealm : y.realm with
  | none =>
    rw [hrealm] at hcredentials
    exact (Prod.mk.inj (Prod.mk.inj hcredentials).2).1.symm
  | some realm =>
    rw [hrealm] at hcredentials
    exact (Prod.mk.inj (Prod.mk.inj hcredentials).2).1.symm

/-- While no body is read the credentials wait. -/
theorem Carries.pending (hx : x.Carries realm header) (hresting : x.phase = .resting) :
    x.pending = some ⟨header, none⟩ := by
  rcases hx.waits with hanswer | ⟨-, hwaits⟩
  · rw [hresting] at hanswer
    cases hanswer
  · exact hwaits

/-- While an attempt goes on the credentials wait. -/
theorem Carries.of_attempt (hx : x.Carries realm header)
    (hbefore : x.phase = .resting ∨ x.phase.isUnderWay = true)
    (hafter : y.phase = .resting ∨ y.phase.isUnderWay = true) (hrealm : y.realm = x.realm)
    (hstate : y.negotiator = x.negotiator) (hpending : y.pending = x.pending) :
    y.Carries realm header := by
  refine ⟨hrealm.trans hx.realm, hstate ▸ hx.unbound, Or.inr ⟨hafter, ?_⟩⟩
  rcases hx.waits with hanswer | ⟨-, hwaits⟩
  · cases hphase : x.phase with
    | draining =>
      rw [hphase] at hbefore
      rcases hbefore with hbefore | hbefore <;> cases hbefore
    | _ =>
      rw [hphase] at hanswer
      cases hanswer
  · rw [hpending, hwaits]

/-- At the end of the body the answer begins to wait. -/
theorem Carries.turned {read : Nat} {limit : Option Nat} {after : AfterDrain}
    (hx : x.Carries realm header) (hphase : x.phase = .draining l read limit after) :
    (x.turned l after).Carries realm header := by
  rcases hx.waits with hanswer | ⟨hattempt, -⟩
  · rw [hphase] at hanswer
    cases after with
    | answer found keep =>
      obtain rfl : found = header := Option.some.inj hanswer
      refine ⟨hx.realm, hx.unbound, Or.inr ⟨Or.inl rfl, ?_⟩⟩
      simp only [Exchange.turned, hx.unbound, Bool.false_eq_true, if_false]
    | follow => cases hanswer
  · rw [hphase] at hattempt
    rcases hattempt with hattempt | hattempt <;> cases hattempt

/-- No move without a head loses the credentials that wait, while the exchange goes on. -/
theorem carries_move (htidy : x.Tidy h) (hm : Move ⟨x, s, h⟩ notes ⟨y, t, h'⟩)
    (hsilent : ∀ note ∈ notes, note.head? = none)
    (hx : x.isRunning = true → x.Carries realm header) (hrunning : y.isRunning = true) :
    y.Carries realm header := by
  have hsame : x.phase = y.phase → x.realm = y.realm → x.negotiator = y.negotiator →
      x.pending = y.pending → y.Carries realm header := by
    intro hphase hrealm hstate hpending
    rw [isRunning_eq, ← hphase, ← isRunning_eq] at hrunning
    have hcarries := hx hrunning
    exact ⟨hrealm ▸ hcarries.realm, hstate ▸ hcarries.unbound, by
      rw [← hphase, ← hpending]
      exact hcarries.waits⟩
  have hgoes : (x.phase = .resting ∨ x.phase.isUnderWay = true) →
      (y.phase = .resting ∨ y.phase.isUnderWay = true) → y.realm = x.realm →
        y.negotiator = x.negotiator → y.pending = x.pending → y.Carries realm header :=
    fun hbefore => (hx (running_of_attempt hbefore)).of_attempt hbefore
  cases hm with
  | take | giveBack | spoil | close | retry | keep | store | hush => exact hsame rfl rfl rfl rfl
  | refuse hurl hask => exact hgoes (attempts_of_asked hask) (Or.inl rfl) rfl rfl rfl
  | queue hurl hask => exact hgoes (attempts_of_asked hask) (Or.inr rfl) rfl rfl rfl
  | find hurl hask => exact hgoes (attempts_of_asked hask) (Or.inl rfl) rfl rfl rfl
  | dial limit hurl hask => exact hgoes (attempts_of_asked hask) (Or.inr rfl) rfl rfl rfl
  | establish hphase | abandon hphase | leave hphase | lose hphase =>
    exact hgoes (Or.inr (by rw [hphase]; rfl)) (Or.inl rfl) rfl rfl rfl
  | send limit htarget hbind hcompose =>
    have hresting := htidy.rests ⟨_, Or.inl rfl⟩
    have hcarries := hx (running_of_attempt (Or.inl hresting))
    obtain rfl := attempt_of_unbound (hcarries.pending hresting) hcarries.unbound hbind hcompose
    exact hgoes (Or.inl hresting) (Or.inr rfl) rfl rfl rfl
  | misfit hbind hcompose =>
    have hresting := htidy.rests ⟨_, Or.inl rfl⟩
    have hcarries := hx (running_of_attempt (Or.inl hresting))
    rw [attempt_of_unbound (hcarries.pending hresting) hcarries.unbound hbind hcompose]
    exact hcarries
  | finish phase delivery hphase hheld hend =>
    rcases hend with rfl | ⟨e, rfl⟩ <;> cases hrunning
  | quit | pump | touch => cases hrunning
  | challenge | follow | answer | reject => exact absurd (hsilent _ List.mem_cons_self) nofun
  | @skim x s l read limit after bytes isLast inbox hphase hread hle =>
    have hcarries := hx (running hphase rfl)
    refine ⟨hcarries.realm, hcarries.unbound, ?_⟩
    rcases hcarries.waits with hanswer | ⟨hattempt, -⟩
    · rw [hphase] at hanswer
      cases after <;> exact Or.inl hanswer
    · rw [hphase] at hattempt
      rcases hattempt with hattempt | hattempt <;> cases hattempt
  | rest hphase | spill hphase | tire hphase =>
    exact (hx (running hphase rfl)).turned hphase

/-- No chain of moves without a head loses the credentials that wait. -/
theorem carries_moves (hm : Moves a notes b) (htidy : a.exchange.Tidy a.hand)
    (hsilent : ∀ note ∈ notes, note.head? = none)
    (hx : a.exchange.isRunning = true → a.exchange.Carries realm header)
    (hrunning : b.exchange.isRunning = true) : b.exchange.Carries realm header := by
  induction hm with
  | refl => exact hx hrunning
  | head hm _ ih =>
    obtain ⟨hfirst, hlater⟩ := List.forall_mem_append.mp hsilent
    exact ih (tidy_move htidy hm) hlater (carries_move htidy hm hfirst hx) hrunning

/-- The answer to a challenge waits from the head on, if the exchange goes on after it. -/
theorem carries_of_head {limit : Option Nat} {head : Head} (hnegotiates : x.Negotiates)
    (hphase : x.phase = .sending l limit) (hrealm : x.realm = some realm)
    (hscheme : realm.scheme.isConnectionScoped = false)
    (hanswer : (x.judged s l head).1.bind NextAction.header? = some header)
    (hrunning : (x.headArrived s head l).1.isRunning = true) :
    (x.headArrived s head l).1.Carries realm header := by
  have hstate : (x.judged s l head).2.1.isConnectionScoped = false := by
    have hbefore := hnegotiates realm hrealm (by rw [hphase]; rfl)
    rw [Negotiator.isConnectionScoped_of_scheme ((scheme?_judged x s l head).trans hbefore),
      hscheme]
  by_cases hstatus : head.status = realm.target.challengeStatus
  · rcases hchallenge : x.negotiator.onChallenge
      (Challenge.ofValues (head.headers.values realm.target.challengeHeader)) realm
      (x.authRequest l.target) s.supply with ⟨reaction, state, supply⟩
    have hjudged : x.judged s l head = (some reaction, state, supply) := by
      simp only [judged, hrealm, hstatus, if_true, hchallenge]
    rw [hjudged] at hanswer hstate
    have hsame : { x with pending := none }.authRequest l.target = x.authRequest l.target := rfl
    let z := { x with pending := none }.onChallenge s (l.afterHead head).target realm head
      (l.afterHead head)
    have hnext : z.1.isRunning = true → z.1.Carries realm header := by
      simp only [z, onChallenge, Lease.target_afterHead, hsame, hchallenge]
      cases reaction with
      | fail | done => cases hanswer
      | retry found keep =>
        obtain rfl : found = header := Option.some.inj hanswer
        rcases x.authRetries.withdraw with ⟨granted, budget⟩
        cases granted with
        | true => exact fun _ => ⟨hrealm, hstate, Or.inl rfl⟩
        | false =>
          intro hgoes
          cases hgoes
    simp only [z, hrealm, Lease.afterHead] at hnext
    simp only [headArrived, onHead, hrealm, hstatus, if_true] at hrunning ⊢
    exact hnext hrunning
  · simp only [judged, hrealm, hstatus, if_false] at hanswer
    cases hanswer

/-- While an exchange goes on, the credentials that it owes wait if they are good on any
connection. -/
def Honours (x : Exchange) (owed : Option (Realm × HeaderValue)) : Prop :=
  ∀ realm header, owed = some (realm, header) → realm.scheme.isConnectionScoped = false →
    x.isRunning = true → x.Carries realm header

/-- Every step of an exchange leaves it with the credentials that it owes. -/
theorem honours_step {j : Journal} {id : ExchangeId} (htidy : x.Tidy .empty)
    (hnegotiates : x.Negotiates) (hx : x.Honours (j.owed? id)) (hstep : x.step s = some (y, t)) :
    y.Honours (Journal.owed? (j ++ (x.hears s).map (Prod.mk id)) id) := by
  intro realm header howed hscheme hrunning
  cases hheard : x.heard? s with
  | none =>
    have hsilent := silent_of_unheard hheard
    rw [Journal.owed?_of_silent j id id _ fun _ => hsilent] at howed
    obtain ⟨said, hsaid, hmoves⟩ := step_moves hstep
    exact carries_moves hmoves htidy
      (List.forall_mem_append.mpr ⟨hsilent, hsaid.silent⟩) (hx realm header howed hscheme) hrunning
  | some head =>
    obtain ⟨l, limit, hphase, -, -, hnext, hhears⟩ := step_of_heard hheard
    rw [hhears, Journal.owed?_concat_headNote] at howed
    obtain ⟨found, hrealm, hmade⟩ := Option.bind_eq_some_iff.mp howed
    obtain ⟨answer, hanswer, heq⟩ := Option.map_eq_some_iff.mp hmade
    obtain ⟨rfl, rfl⟩ := Prod.mk.inj heq
    have hy : (x.headArrived s head l).1 = y :=
      congrArg Prod.fst (Option.some.inj (hnext.symm.trans hstep))
    rw [← hy] at hrunning ⊢
    exact carries_of_head hnegotiates hphase hrealm hscheme hanswer hrunning

/-- A step hears what others do. -/
theorem unsent_of_hears {note : Note} (hnote : note ∈ x.hears s) : note.action? = none :=
  List.filterMap_eq_nil_iff.mp (filterMap_hears x s) note hnote

end Exchange

namespace Client

open Snapshot Exchange

variable {c : Client} {j : Journal} {id : ExchangeId} {event : Event} {settings : Settings}
  {supply : Supply}

/-- The credentials that an exchange owes wait in it, and did so in every request of it. -/
structure Owes (id : ExchangeId) (c : Client) (j : Journal) : Prop where
  waits : ∃ x, c.exchange? id = some x ∧ x.Honours (j.owed? id)
  sent : j.All fun earlier entry => ∀ transport message after,
    entry = (id, .sent transport message after) → after.Honours (earlier.owed? id)

/-- Notes that are no requests of an exchange are not its. -/
theorem sent_append {notes : List Note} {k : ExchangeId}
    (hsent : j.All fun earlier entry => ∀ transport message after,
      entry = (id, .sent transport message after) → after.Honours (earlier.owed? id))
    (hnotes : k = id → ∀ note ∈ notes, ∀ transport message after,
      note ≠ .sent transport message after) :
    Journal.All (fun earlier entry => ∀ transport message after,
      entry = (id, .sent transport message after) → after.Honours (earlier.owed? id))
      (j ++ notes.map (Prod.mk k)) := by
  induction notes generalizing j with
  | nil =>
    rw [List.map_nil, List.append_nil]
    exact hsent
  | cons note notes ih =>
    have hfirst : Journal.All (fun earlier entry => ∀ transport message after,
        entry = (id, .sent transport message after) → after.Honours (earlier.owed? id))
        (j ++ [(k, note)]) := by
      refine hsent.concat fun transport message after hentry => ?_
      obtain ⟨hk, hnote⟩ := Prod.mk.inj hentry
      exact absurd hnote (hnotes hk note List.mem_cons_self transport message after)
    have hrest := ih hfirst fun hk note hnote => hnotes hk note (List.mem_cons_of_mem _ hnote)
    rwa [List.append_assoc] at hrest

/-- Every event leaves an exchange with the credentials that it owes. -/
theorem Owes.step (h : Owes id c j) (hreach : Reachable settings supply ⟨c, 0, .empty, j⟩)
    (event : Event) : Owes id (c.step event) (j ++ c.notes event) := by
  obtain ⟨x, hx, hhonours⟩ := h.waits
  obtain ⟨y, hy, -⟩ := fares_step hx event
  rcases c.notes_cases event id with ⟨w, z, t, said, hevent, hw, hstep, hsaid, hnotes⟩ |
    ⟨hidle, k, notes, hnotes, hsilent⟩
  · obtain rfl := Option.some.inj (hw.symm.trans hx)
    have hput : (c.step event).exchange? id = some z := by
      rcases c.step_run_cases (.exchange id) with ⟨-, hnone⟩ | ⟨w', z', t', hw', hstep', hput⟩
      · cases (hnone w hw).symm.trans hstep
      · obtain rfl := Option.some.inj (hw'.symm.trans hw)
        obtain ⟨rfl, rfl⟩ := Prod.mk.inj (Option.some.inj (hstep'.symm.trans hstep))
        rw [hevent, hput]
        exact exchange?_put_self hw
    have hown := hreach.next (.turn id)
    have hnext := honours_step (hown.sound.actor hw).1 (hown.bound.binds id w hw).negotiates
      hhonours hstep
    have hheard : Journal.All (fun earlier entry => ∀ transport message after,
        entry = (id, .sent transport message after) → after.Honours (earlier.owed? id))
        (j ++ (w.hears c.shared).map (Prod.mk id)) := by
      refine sent_append h.sent fun _ note hnote transport message after hsent => ?_
      have hnone := unsent_of_hears hnote
      rw [hsent] at hnone
      cases hnone
    rw [hnotes, List.map_append, ← List.append_assoc]
    refine ⟨⟨z, hput, ?_⟩, ?_⟩
    · rw [Journal.owed?_of_silent _ id id said fun _ => hsaid.silent]
      exact hnext
    · cases hsaid with
      | nothing =>
        rw [List.map_nil, List.append_nil]
        exact hheard
      | dial transport target =>
        exact sent_append hheard fun _ note hnote found message after hsent => by
          rw [List.mem_singleton.mp hnote] at hsent
          cases hsent
      | sent transport message =>
        refine hheard.concat fun found other after hentry => ?_
        obtain ⟨-, hnote⟩ := Prod.mk.inj hentry
        rw [← (Note.sent.inj hnote).2.2]
        exact hnext
  · rw [hnotes]
    refine ⟨⟨y, hy, ?_⟩, sent_append h.sent ?_⟩
    · rw [Journal.owed?_of_silent j id k notes fun hk => silent_of_isTraffic (hsilent hk)]
      intro realm header howed hscheme hrunning
      rcases stays_of_step hx hy hrunning with rfl | ⟨t, hevent, hstep, -⟩
      · exact hhonours realm header howed hscheme hrunning
      · rw [hidle hevent x hx] at hstep
        cases hstep
    · rintro hk note hnote transport message after rfl
      exact Bool.noConfusion (hsilent hk _ hnote)

/-- Whatever happens, a request that was submitted has the credentials that it owes. -/
theorem owes_run (settings : Settings) (supply : Supply) (before events : List Event)
    (r : Request) (consumer : Option Consumer) :
    let id := ((Client.make settings supply).run before).exchanges.length
    let whole := before ++ .submit r consumer :: events
    Owes id ((Client.make settings supply).run whole)
      ((Client.make settings supply).journal whole) := by
  intro id whole
  have hbefore := reachable_run settings supply before
  have hunknown : ∀ entry ∈ (Client.make settings supply).journal before, entry.1 ≠ id :=
    fun entry hentry => Nat.ne_of_lt (hbefore.numbered entry hentry)
  have hbegun : Owes id (((Client.make settings supply).run before).step (.submit r consumer))
      ((Client.make settings supply).journal before) := by
    refine ⟨⟨_, List.getElem?_concat_length, ?_⟩, ?_⟩
    · rw [Journal.owed?_of_unknown hunknown]
      exact nofun
    · rintro earlier entry later hsplit transport message after rfl
      refine absurd rfl (hunknown (id, .sent transport message after) ?_)
      rw [hsplit]
      exact List.mem_append_right _ List.mem_cons_self
  have hrun := run_kept
    (P := fun c j => Reachable settings supply ⟨c, 0, .empty, j⟩ ∧ Owes id c j)
    (fun c j event h => ⟨h.1.event event, h.2.step h.1 event⟩) events
    ⟨hbefore.next (.submit _ _), hbegun⟩
  simp only [whole, run_append, journal_append]
  exact hrun.2

/-- A request that owes credentials good on any connection has them in its message, as they are. -/
theorem resent_of_owed {r : Request} {earlier : Journal} {message : Message} {after : Exchange}
    {realm : Realm} {header : HeaderValue} (hposted : Posted settings r earlier id message after)
    (hhonours : after.Honours (earlier.owed? id))
    (howed : earlier.owed? id = some (realm, header))
    (hscheme : realm.scheme.isConnectionScoped = false) :
    message.headers.values realm.target.credentialsHeader = [header] := by
  obtain ⟨l, limit, credentials, hphase, -, hmessage, hattaches⟩ := hposted.made
  obtain ⟨hrealm, -, hwaits⟩ := hhonours realm header howed hscheme (running hphase rfl)
  have hpending : after.pending = some ⟨header, none⟩ := by
    rw [hphase] at hwaits
    rcases hwaits with hanswer | ⟨-, hpending⟩
    · cases hanswer
    · exact hpending
  have hcredentials : credentials = some header := by
    cases hattaches with
    | stranger hnone => cases hnone.symm.trans hrealm
    | pending _ hsome => rw [← Option.some.inj (hpending.symm.trans hsome)]
    | unasked _ hnone => cases hnone.symm.trans hpending
    | bare _ hnone => cases hnone.symm.trans hpending
  rw [hmessage, values_message, hrealm, hcredentials]
  simp only [Redirect.Content.outgoing, Realm.present?, if_true, Option.some_or]

end Client

end HttpClient
