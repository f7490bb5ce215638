import HttpClient.Proofs.Exchange.Moves

/-!
# What moves leave alone

Choosing a negotiator state, making a message and parking change no more of an exchange than what
authentication needs, and no more of the shared state than the arena or the supply.
-/

namespace HttpClient

namespace Shared

/-- An operation on the pool changes the pool, and what goes with the connections that it closed. -/
theorem withPool_frame (s : Shared) (p : Pool) (dead : List Opened) :
    ∃ arena streams actions, arena.entries ⊆ s.arena.entries ∧ s.withPool p dead =
      { s with pool := p, arena := arena, streams := streams, actions := actions } := by
  have hbury : ∀ s : Shared, ∃ arena streams actions, arena.entries ⊆ s.arena.entries ∧
      dead.foldl bury s = { s with arena := arena, streams := streams, actions := actions } := by
    induction dead with
    | nil => exact fun s => ⟨s.arena, s.streams, s.actions, List.Subset.refl _, rfl⟩
    | cons o dead ih =>
      intro s
      obtain ⟨arena, streams, actions, hsub, heq⟩ := ih (s.bury o)
      have hless : (s.bury o).arena.entries ⊆ s.arena.entries := fun _ he =>
        (List.mem_filter.mp he).1
      refine ⟨arena, streams, actions, List.Subset.trans hsub hless, ?_⟩
      rw [List.foldl_cons, heq]
      rfl
  obtain ⟨arena, streams, actions, hsub, heq⟩ := hbury { s with pool := p }
  exact ⟨arena, streams, actions, hsub, heq⟩

@[simp] theorem pool_withPool (s : Shared) (p : Pool) (dead : List Opened) :
    (s.withPool p dead).pool = p := by
  obtain ⟨arena, streams, actions, -, heq⟩ := s.withPool_frame p dead
  rw [heq]

@[simp] theorem nextTransport_withPool (s : Shared) (p : Pool) (dead : List Opened) :
    (s.withPool p dead).nextTransport = s.nextTransport := by
  obtain ⟨arena, streams, actions, -, heq⟩ := s.withPool_frame p dead
  rw [heq]

/-- What is given for the steps of an exchange: the settings, the time, and which tokens are
canceled. -/
def given (s : Shared) : Settings × Nat × List TokenId := (s.settings, s.now, s.canceled)

theorem given_withPool (s : Shared) (p : Pool) (dead : List Opened) :
    (s.withPool p dead).given = s.given := by
  obtain ⟨arena, streams, actions, -, heq⟩ := s.withPool_frame p dead
  rw [heq]
  rfl

/-- An operation on the pool parks nothing. -/
theorem arena_withPool (s : Shared) (p : Pool) (dead : List Opened) :
    (s.withPool p dead).arena.entries ⊆ s.arena.entries := by
  obtain ⟨arena, streams, actions, hsub, heq⟩ := s.withPool_frame p dead
  rw [heq]
  exact hsub

end Shared

namespace Exchange

variable {x y : Exchange} {s t : Shared} {l : Lease} {target : Target}

/-- Choosing the negotiator state changes nothing but state and pending credentials, and takes at
most an entry out of the arena. -/
theorem bind_frame (h : x.bind s l = (y, t)) :
    y = { x with pending := y.pending, negotiator := y.negotiator } ∧
      t = { s with arena := t.arena } := by
  unfold bind at h
  split at h
  · obtain ⟨rfl, rfl⟩ := Prod.mk.injEq .. ▸ h
    exact ⟨rfl, rfl⟩
  · rename_i realm _
    rcases hunpark : s.unpark l realm with ⟨stored, u⟩
    have hu : u = { s with arena := u.arena } := by
      obtain ⟨-, rfl⟩ := Prod.mk.injEq .. ▸ hunpark
      rfl
    simp only [hunpark] at h
    split at h
    · obtain ⟨rfl, rfl⟩ := Prod.mk.injEq .. ▸ h
      exact ⟨rfl, hu⟩
    · cases stored with
      | none =>
        dsimp only at h
        split at h <;>
        · obtain ⟨rfl, rfl⟩ := Prod.mk.injEq .. ▸ h
          exact ⟨rfl, hu⟩
      | some negotiator =>
        dsimp only at h
        split at h <;>
        · obtain ⟨rfl, rfl⟩ := Prod.mk.injEq .. ▸ h
          exact ⟨rfl, hu⟩

/-- Choosing the credentials changes nothing but the negotiator state and the supply. -/
theorem credentials_frame {result : Except Failure (Option HeaderValue)}
    (h : x.credentials s target = (result, y, t)) :
    y = { x with negotiator := y.negotiator } ∧ t = { s with supply := t.supply } := by
  unfold credentials at h
  split at h
  · simp only [Prod.mk.injEq] at h
    obtain ⟨-, rfl, rfl⟩ := h
    exact ⟨rfl, rfl⟩
  · simp only [Prod.mk.injEq] at h
    obtain ⟨-, rfl, rfl⟩ := h
    exact ⟨rfl, rfl⟩
  · split at h
    · simp only [Prod.mk.injEq] at h
      obtain ⟨-, rfl, rfl⟩ := h
      exact ⟨rfl, rfl⟩
    · simp only [Prod.mk.injEq] at h
      obtain ⟨-, rfl, rfl⟩ := h
      exact ⟨rfl, rfl⟩

/-- Making the message changes no more than choosing the credentials. -/
theorem compose_frame {result : Except Error Message}
    (h : x.compose s target = (result, y, t)) :
    ∃ credentials, x.credentials s target = (credentials, y, t) := by
  unfold compose at h
  rcases hcredentials : x.credentials s target with ⟨credentials, z, u⟩
  rw [hcredentials] at h
  refine ⟨credentials, ?_⟩
  cases credentials with
  | error failure =>
    simp only [Prod.mk.injEq] at h
    rw [h.2.1, h.2.2]
  | ok value =>
    dsimp only at h
    split at h <;>
    · simp only [Prod.mk.injEq] at h
      rw [h.2.1, h.2.2]

/-- A message that could be made carries the credentials that were chosen. -/
theorem compose_ok {message : Message} (h : x.compose s target = (.ok message, y, t)) :
    ∃ credentials, x.credentials s target = (.ok credentials, y, t) ∧
      message = y.message t.settings target credentials := by
  unfold compose at h
  rcases hcredentials : x.credentials s target with ⟨credentials, z, u⟩
  rw [hcredentials] at h
  cases credentials with
  | error failure => cases h
  | ok value =>
    dsimp only at h
    split at h
    · cases h
    · simp only [Prod.mk.injEq, Except.ok.injEq] at h
      obtain ⟨rfl, rfl, rfl⟩ := h
      exact ⟨value, rfl, rfl⟩

/-- Up to its message an attempt changes no more than what authentication needs. -/
theorem attempt_frame {z : Exchange} {u : Shared} {result : Except Error Message}
    (hbind : x.bind s l = (y, t)) (hcompose : y.compose t target = (result, z, u)) :
    z = { x with pending := z.pending, negotiator := z.negotiator } ∧
      u = { s with arena := u.arena, supply := u.supply } := by
  obtain ⟨hy, ht⟩ := bind_frame hbind
  obtain ⟨credentials, hcredentials⟩ := compose_frame hcompose
  obtain ⟨hz, hu⟩ := credentials_frame hcredentials
  constructor
  · rw [hz, hy]
  · rw [hu, ht]

/-- Parking changes nothing but the negotiator state and the arena. -/
theorem park_frame (h : x.park s l = (y, t)) :
    y = { x with negotiator := y.negotiator } ∧ t = { s with arena := t.arena } := by
  unfold park at h
  split at h <;>
  · obtain ⟨rfl, rfl⟩ := Prod.mk.injEq .. ▸ h
    exact ⟨rfl, rfl⟩

/-- No move changes what is given for it. -/
theorem given_move {a b : Scene} {notes : List Note} (hm : Move a notes b) :
    b.shared.given = a.shared.given := by
  have hasked : ∀ {x : Exchange} {s t : Shared} {target : Target} {status : CheckoutStatus},
      x.Asked s target status t → t.given = s.given := by
    intro x s t target status hask
    cases hask with
    | first hphase hheld heq =>
      obtain ⟨-, rfl⟩ := Prod.mk.injEq .. ▸ heq
      exact Shared.given_withPool ..
    | again ticket hphase heq =>
      obtain ⟨-, rfl⟩ := Prod.mk.injEq .. ▸ heq
      exact Shared.given_withPool ..
  cases hm with
  | take | spoil | retry | finish | lose | quit | rest | spill | tire | keep | touch | hush => rfl
  | establish | abandon | leave | challenge | reject | skim => rfl
  | giveBack | close | store => exact Shared.given_withPool ..
  | refuse hurl hask => exact hasked hask
  | queue hurl hask => exact hasked hask
  | find hurl hask => exact hasked hask
  | dial limit hurl hask =>
    have hsame := hasked hask
    exact hsame
  | send limit htarget hbind hcompose =>
    have hsame := congrArg Shared.given (attempt_frame hbind hcompose).2
    exact hsame
  | misfit hbind hcompose =>
    have hsame := congrArg Shared.given (attempt_frame hbind hcompose).2
    exact hsame
  | follow next hphase hanswer hjudged hstatus hhttp hcheck hpark =>
    have hsame := congrArg Shared.given (park_frame hpark).2
    exact hsame
  | answer hphase hanswer hjudged hpark =>
    have hsame := congrArg Shared.given (park_frame hpark).2
    exact hsame
  | @pump x s head body =>
    cases body.lease <;> rfl

/-- No chain of moves changes what is given for it. -/
theorem given_moves {a b : Scene} {notes : List Note} (hm : Moves a notes b) :
    b.shared.given = a.shared.given := by
  induction hm with
  | refl => rfl
  | head hmove _ ih => rw [ih, given_move hmove]

/-- No move changes the settings. -/
theorem settings_move {a b : Scene} {notes : List Note} (hm : Move a notes b) :
    b.shared.settings = a.shared.settings := congrArg Prod.fst (given_move hm)

end Exchange

end HttpClient
