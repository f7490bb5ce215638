import HttpClient.Proofs.Client.Trail
import HttpClient.Proofs.Exchange.Setbacks

/-!
# What an event notes of an exchange

Only in its own step does an exchange hear a head or send a request, and as long as it goes on
nothing else changes it. So what is true of an exchange and of its notes is settled by its own
steps, and these by what each of them hears.
-/

namespace HttpClient

namespace Exchange

variable {x y : Exchange} {s t : Shared} {head : Head}

/-- A step that hears a head decides what it means. -/
theorem step_of_heard (h : x.heard? s = some head) :
    ∃ l limit, x.phase = .sending l limit ∧ (s.inbox l).answer = some (.head head) ∧
      x.isCut s = false ∧ x.step s = some (x.headArrived s head l) ∧
      x.hears s = [x.headNote s l head] := by
  unfold heard? at h
  split at h
  · rename_i l limit hphase
    obtain ⟨hcut, h⟩ := Option.ite_none_left_eq_some.mp h
    rw [Bool.not_eq_true] at hcut
    split at h
    · rename_i found hanswer
      obtain rfl := Option.some.inj h
      have hstep : x.step s = some (x.headArrived s found l) := by
        rw [step_of_uncut (running hphase rfl) hcut, proceed, hphase]
        simp only [hanswer]
      refine ⟨l, limit, hphase, hanswer, hcut, hstep, ?_⟩
      simp only [hears, hstep, hphase, hcut, hanswer, Option.isNone_some, Bool.false_eq_true,
        if_false]
    · cases h
  · cases h

/-- A step that hears no head notes none. -/
theorem silent_of_unheard (h : x.heard? s = none) : ∀ note ∈ x.hears s, note.head? = none := by
  have hbroke : ∀ l, ∀ note ∈ [Note.broke l], note.head? = none := by
    intro l note hnote
    rw [List.mem_singleton.mp hnote]
    rfl
  have hnone : ∀ note ∈ ([] : List Note), note.head? = none :=
    fun note hnote => absurd hnote List.not_mem_nil
  unfold hears
  split
  · exact hnone
  · split
    · rename_i l limit hphase
      split
      · exact hbroke l
      · rename_i hcut
        split
        · rename_i head hanswer
          simp [heard?, hphase, hcut, hanswer] at h
        · exact hbroke l
    · rename_i l read limit after hphase
      split
      · exact hbroke l
      · split
        · rename_i item _
          intro note hnote
          rw [List.mem_singleton.mp hnote]
          rfl
        · exact hbroke l
    · exact hnone

/-- What is no traffic is no head. -/
theorem silent_of_isTraffic {notes : List Note} (h : ∀ note ∈ notes, note.isTraffic = false) :
    ∀ note ∈ notes, note.head? = none := by
  intro note hnote
  have htraffic := h note hnote
  cases note with
  | sent | heard => cases htraffic
  | dial | skipped | streamed | broke => rfl

/-- What an exchange says is no head. -/
theorem Says.silent {said : List Note} (h : Says y said) : ∀ note ∈ said, note.head? = none := by
  intro note hnote
  cases h with
  | nothing => cases hnote
  | dial | sent => rw [List.mem_singleton.mp hnote]; rfl

/-- Nobody loses interest in an exchange that goes on afterwards. -/
theorem ended_drop (x : Exchange) (s : Shared) : ¬(x.drop s).1.isRunning = true := by
  intro hgoes
  have hrunning := (visited_rests (rests_drop x s) hgoes).1
  rw [drop, if_pos hrunning] at hgoes
  cases hgoes

/-- A body has a pump only where the exchange ended. -/
theorem ended_pumpStep (h : x.pumpStep s = some (y, t)) : ¬y.isRunning = true := by
  unfold pumpStep at h
  split at h
  · dsimp only at h
    split at h
    · cases h
    · obtain ⟨rfl, -⟩ := Prod.mk.inj (Option.some.inj h)
      nofun
  · cases h

/-- Only a response is delivered. -/
theorem ended_deliverStep (h : x.deliverStep = some y) : ¬y.isRunning = true := by
  unfold deliverStep at h
  split at h
  · obtain ⟨next, -, rfl⟩ := Option.map_eq_some_iff.mp h
    nofun
  · cases h

end Exchange

namespace Client

open Exchange

variable {c : Client} {id : ExchangeId} {x y : Exchange} {event : Event}

/-- What an event notes. It is the step of a given exchange, and what that hears and says, or no
head that the exchange hears and no request that it sends. -/
theorem notes_cases (c : Client) (event : Event) (id : ExchangeId) :
    (∃ x y t said, event = .run (.exchange id) ∧ c.exchange? id = some x ∧
      x.step c.shared = some (y, t) ∧ Says y said ∧
      c.notes event = (x.hears c.shared ++ said).map (Prod.mk id)) ∨
    ((event = .run (.exchange id) → ∀ x, c.exchange? id = some x → x.step c.shared = none) ∧
      ∃ k notes, c.notes event = List.map (Prod.mk k) notes ∧
        (k = id → ∀ note ∈ notes, note.isTraffic = false)) := by
  have hmute : c.notes event = [] → ∃ k notes, c.notes event = List.map (Prod.mk k) notes ∧
      (k = id → ∀ note ∈ notes, note.isTraffic = false) :=
    fun hnone => ⟨0, [], hnone, fun _ note hnote => absurd hnote List.not_mem_nil⟩
  cases event with
  | tick | submit | dialed | arrive | cancelToken | request | cancelBody | read =>
    exact Or.inr ⟨(fun hevent => by cases hevent), hmute rfl⟩
  | run task =>
    cases task with
    | delivery => exact Or.inr ⟨(fun hevent => by cases hevent), hmute rfl⟩
    | exchange k =>
      rcases c.step_run_cases (.exchange k) with ⟨hsame, hidle⟩ | ⟨x, y, t, hx, hstep, hput⟩
      · refine Or.inr ⟨fun hevent => ?_, hmute (noted_of_idle hsame fun x hx => ?_)⟩
        · cases hevent
          exact hidle
        · have hnone : x.step c.shared = none := hidle x hx
          simp only [hears, hnone, Option.isNone_none, if_true]
      · obtain ⟨said, hsaid, hmoves⟩ := step_moves hstep
        have hnotes : c.noted (.run (.exchange k)) k (·.hears c.shared) = _ :=
          noted_of_moves hx hput hmoves hsaid (filterMap_hears x c.shared)
        by_cases hk : k = id
        · subst hk
          exact Or.inl ⟨x, y, t, said, rfl, hx, hstep, hsaid, hnotes⟩
        · refine Or.inr ⟨fun hevent => ?_, k, _, hnotes, fun hsame => absurd hsame hk⟩
          cases hevent
          exact absurd rfl hk
    | pump k =>
      refine Or.inr ⟨(fun hevent => by cases hevent), ?_⟩
      rcases c.step_run_cases (.pump k) with ⟨hsame, hidle⟩ | ⟨x, y, t, hx, hstep, hput⟩
      · exact hmute (noted_of_idle hsame fun x hx => pumpHears_of_idle (hidle x hx))
      · have hmoves := pumpStep_moves hstep
        rw [← List.append_nil (x.pumpHears c.shared)] at hmoves
        have hnotes : c.noted (.run (.pump k)) k (·.pumpHears c.shared) = _ :=
          noted_of_moves hx hput hmoves .nothing (filterMap_pumpHears x c.shared)
        rw [List.append_nil] at hnotes
        exact ⟨k, _, hnotes, fun _ note => isTraffic_pumpHears⟩
  | drop k =>
    refine Or.inr ⟨(fun hevent => by cases hevent), ?_⟩
    cases hx : c.exchange? k with
    | none =>
      refine hmute ?_
      rw [notes, noted, hx]
    | some x =>
      have hput : c.step (.drop k) = c.put k (x.drop c.shared).1 (x.drop c.shared).2 := by
        rw [Client.step, hx]
      have hmoves := drop_moves x c.shared
      rw [← List.append_nil x.dropHears] at hmoves
      have hnotes := noted_of_moves hx hput hmoves .nothing (filterMap_dropHears x)
      rw [List.append_nil] at hnotes
      refine ⟨k, _, hnotes, fun _ note hnote => ?_⟩
      unfold dropHears at hnote
      split at hnote
      · rw [List.mem_singleton.mp hnote]
        rfl
      · rw [List.mem_singleton.mp hnote]
        rfl
      · cases hnote

/-- An event in which an exchange hears no head adds none to those that it heard. -/
theorem heads_of_unheard (j : Journal) (event : Event)
    (h : ∀ x, event = .run (.exchange id) → c.exchange? id = some x →
      x.heard? c.shared = none) :
    (j ++ c.notes event).heads id = j.heads id := by
  rcases c.notes_cases event id with ⟨x, y, t, said, hevent, hx, -, hsaid, hnotes⟩ |
    ⟨-, k, notes, hnotes, hquiet⟩
  · rw [hnotes]
    exact (Journal.heads_of_silent j id id _ fun _ note hnote =>
      (List.mem_append.mp hnote).elim (silent_of_unheard (h x hevent hx) note)
        (hsaid.silent note)).1
  · rw [hnotes]
    exact (Journal.heads_of_silent j id k notes fun hk => silent_of_isTraffic (hquiet hk)).1

/-- What is put back of some exchange leaves every exchange alone that goes on, if it leaves that
one alone while it goes on. -/
theorem stays_put {other : ExchangeId} {w z : Exchange} {t : Shared}
    (hx : c.exchange? id = some x) (hw : c.exchange? other = some w)
    (hz : z.isRunning = true → z = w) (hy : (c.put other z t).exchange? id = some y)
    (hrunning : y.isRunning = true) : y = x := by
  rcases exchange?_put (z := z) (t := t) hx hw with ⟨hput, -, rfl⟩ | ⟨hput, -⟩
  · obtain rfl := Option.some.inj (hy.symm.trans hput)
    exact hz hrunning
  · exact Option.some.inj (hy.symm.trans hput)

/-- Only the body of an exchange that ended changes. -/
theorem stays_updateBody (hx : c.exchange? id = some x) (other : ExchangeId) {f : Body → Body}
    (hy : (c.updateBody other f).exchange? id = some y) (hrunning : y.isRunning = true) :
    y = x := by
  unfold updateBody at hy
  cases hw : c.exchange? other with
  | none =>
    rw [hw] at hy
    exact Option.some.inj (hy.symm.trans hx)
  | some w =>
    rw [hw] at hy
    refine stays_put hx hw (fun hgoes => ?_) hy hrunning
    unfold Exchange.updateBody at hgoes ⊢
    split at hgoes
    · cases hgoes
    · rfl

/-- As long as an exchange goes on only its own step changes it. -/
theorem stays_of_step (hx : c.exchange? id = some x) (hy : (c.step event).exchange? id = some y)
    (hrunning : y.isRunning = true) :
    y = x ∨ ∃ t, event = .run (.exchange id) ∧ x.step c.shared = some (y, t) ∧
      c.step event = c.put id y t := by
  cases event with
  | tick | dialed | arrive | cancelToken => exact Or.inl (Option.some.inj (hy.symm.trans hx))
  | submit r consumer =>
    obtain ⟨hid, -⟩ := List.getElem?_eq_some_iff.mp hx
    rw [exchange?, Client.step, List.getElem?_append_left hid] at hy
    exact Or.inl (Option.some.inj (hy.symm.trans hx))
  | request other parts => exact Or.inl (stays_updateBody hx other hy hrunning)
  | cancelBody other => exact Or.inl (stays_updateBody hx other hy hrunning)
  | read other =>
    rw [Client.step, Client.read] at hy
    split at hy
    · exact Or.inl (stays_updateBody hx other hy hrunning)
    · exact Or.inl (Option.some.inj (hy.symm.trans hx))
  | drop other =>
    rw [Client.step] at hy
    cases hw : c.exchange? other with
    | none =>
      rw [hw] at hy
      exact Or.inl (Option.some.inj (hy.symm.trans hx))
    | some w =>
      rw [hw] at hy
      exact Or.inl (stays_put hx hw (fun hgoes => absurd hgoes (ended_drop w c.shared)) hy hrunning)
  | run task =>
    rcases c.step_run_cases task with ⟨hsame, -⟩ | ⟨w, z, t, hw, hturn, hput⟩
    · rw [hsame] at hy
      exact Or.inl (Option.some.inj (hy.symm.trans hx))
    · rw [hput] at hy
      cases task with
      | exchange other =>
        rcases exchange?_put (z := z) (t := t) hx hw with ⟨hz, rfl, rfl⟩ | ⟨hz, -⟩
        · obtain rfl := Option.some.inj (hy.symm.trans hz)
          exact Or.inr ⟨t, rfl, hturn, hput⟩
        · exact Or.inl (Option.some.inj (hy.symm.trans hz))
      | pump other =>
        have hended : ¬z.isRunning = true := ended_pumpStep hturn
        exact Or.inl (stays_put hx hw (fun hgoes => absurd hgoes hended) hy hrunning)
      | delivery other =>
        obtain ⟨next, hnext, heq⟩ := Option.map_eq_some_iff.mp hturn
        obtain ⟨rfl, -⟩ := Prod.mk.inj heq
        exact Or.inl
          (stays_put hx hw (fun hgoes => absurd hgoes (ended_deliverStep hnext)) hy hrunning)

/-- What every event keeps of a client, of its past and of its journal is kept by every run. -/
theorem run_kept_since {P : List Event → Client → Journal → Prop}
    (hstep : ∀ past c j event, P past c j →
      P (past ++ [event]) (c.step event) (j ++ c.notes event))
    (past events : List Event) {j : Journal} (h : P past c j) :
    P (past ++ events) (c.run events) (j ++ c.journal events) := by
  induction events generalizing past c j with
  | nil =>
    rw [journal, List.append_nil, List.append_nil]
    exact h
  | cons event events ih =>
    have hrest := ih (past ++ [event]) (hstep past c j event h)
    rw [List.append_assoc, List.append_assoc] at hrest
    exact hrest

/-- What every event keeps of a client and of its journal is kept by every run. -/
theorem run_kept {P : Client → Journal → Prop}
    (hstep : ∀ c j event, P c j → P (c.step event) (j ++ c.notes event)) (events : List Event)
    {j : Journal} (h : P c j) : P (c.run events) (j ++ c.journal events) :=
  run_kept_since (P := fun _ => P) (fun _ => hstep) [] events h

/-- Among the events came a turn of an exchange, which it took from where the events before it had
led: something was true there of the client and of the exchange. -/
def HadTurn (c : Client) (events : List Event) (id : ExchangeId)
    (P : Client → Exchange → Prop) : Prop :=
  ∃ early later x, events = early ++ .run (.exchange id) :: later ∧
    (c.run early).exchange? id = some x ∧ P (c.run early) x

/-- What came before stays among the events. -/
theorem HadTurn.concat {events : List Event} {P : Client → Exchange → Prop}
    (h : c.HadTurn events id P) (event : Event) : c.HadTurn (events ++ [event]) id P := by
  obtain ⟨early, later, x, rfl, hx, hP⟩ := h
  exact ⟨early, later ++ [event], x, List.append_assoc _ _ _, hx, hP⟩

/-- The turn that comes last. -/
theorem HadTurn.last {events : List Event} {P : Client → Exchange → Prop}
    (hx : (c.run events).exchange? id = some x) (hP : P (c.run events) x) :
    c.HadTurn (events ++ [.run (.exchange id)]) id P :=
  ⟨events, [], x, rfl, hx, hP⟩

end Client

/-- What an exchange hears of in a journal that has grown by no head of it is no head. -/
theorem Journal.silent_of_heads {j : Journal} {id k : ExchangeId} {notes : List Note}
    (h : heads (j ++ notes.map (Prod.mk k)) id = j.heads id) (hk : k = id) :
    ∀ note ∈ notes, note.head? = none := by
  rw [heads, filterMap_own, if_pos hk] at h
  exact List.filterMap_eq_nil_iff.mp (List.self_eq_append_right.mp h.symm)

namespace Snapshot

variable {settings : Settings} {supply : Supply} {a b : Snapshot} {c : Client} {j : Journal}
  {id : ExchangeId}

/-- No head is taken back that an exchange heard. -/
theorem heads_of_step (id : ExchangeId) (hstep : Step a b) :
    a.journal.heads id <+: b.journal.heads id := by
  cases hstep with
  | turn | world | submit => exact List.prefix_refl _
  | @move c k h j x notes y t h' hx hmove =>
    exact ⟨_, (Journal.filterMap_own Note.head? j id k notes).symm⟩

/-- What is kept by everything in which an exchange hears no head is kept by an event in which it
hears none. -/
theorem event_of_unheard {P : Snapshot → Prop}
    (hP : ∀ a b, Reachable settings supply a → Step a b →
      b.journal.heads id = a.journal.heads id → P a → P b)
    (hreach : Reachable settings supply ⟨c, 0, .empty, j⟩) (h : P ⟨c, 0, .empty, j⟩) (event : Event)
    (hsilent : (j ++ c.notes event).heads id = j.heads id) :
    P ⟨c.step event, 0, .empty, j ++ c.notes event⟩ := by
  have hkept : IsKept fun a => Reachable settings supply a ∧ j.heads id <+: a.journal.heads id ∧
      (a.journal.heads id = j.heads id → P a) := by
    rintro a b ⟨hreach, hearlier, hholds⟩ hstep
    have hgrows := heads_of_step id hstep
    refine ⟨hreach.next hstep, hearlier.trans hgrows, fun hsame => ?_⟩
    have hbefore : a.journal.heads id = j.heads id :=
      (hearlier.eq_of_length_le (hsame ▸ hgrows).length_le).symm
    exact hP a b hreach hstep (hsame.trans hbefore.symm) (hholds hbefore)
  exact (hkept.event ⟨hreach, List.prefix_refl _, fun _ => h⟩ event).2.2 hsilent

end Snapshot

end HttpClient
