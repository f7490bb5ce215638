import HttpClient.Proofs.Client.Fates

/-!
# Budgets

Every attempt but the first is paid for: a repeated attempt costs a retry, an answered challenge
costs a retry of its own, and a followed redirect adds a URL to the history that the policy looks
at. Nothing is ever paid back. So the number of attempts of a request is bounded by its budgets,
whatever the servers do and in whatever order things happen.
-/

namespace HttpClient

/-- The URL that an exchange turns to once the body of a response is dropped. -/
def Phase.turning : Phase → List Url
  | draining _ _ _ (.follow next) => [next]
  | _ => []

/-- How many attempts follow without being paid for. -/
def Phase.due : Phase → Nat
  | resting | draining _ _ _ _ => 1
  | _ => 0

/-- While an attempt is under way none is due. -/
theorem Phase.due_of_isUnderWay {p : Phase} (h : p.isUnderWay = true) :
    p.due = 0 ∧ p.turning = [] := by
  cases p with
  | waiting | dialing | sending => exact ⟨rfl, rfl⟩
  | resting | draining | answered | failed | dropped => cases h

/-- Where an attempt begins, or a redirect is followed, an attempt is due. -/
theorem Phase.turning_le_due (p : Phase) :
    (if p.isResting then 1 else 0) + p.turning.length ≤ p.due := by
  cases p with
  | draining l read limit after => cases after <;> exact Nat.le_of_ble_eq_true rfl
  | _ => exact Nat.le_of_ble_eq_true rfl

/-- The second course is a later one of the same request: the policy is the same, and no budget was
refilled. -/
structure Course.Spends (c d : Course) : Prop where
  policy : d.policy = c.policy
  retries : d.retries.remaining ≤ c.retries.remaining
  authRetries : d.authRetries.remaining ≤ c.authRetries.remaining

namespace Course.Spends

variable {c d e : Course}

theorem refl (c : Course) : c.Spends c := ⟨rfl, Nat.le_refl _, Nat.le_refl _⟩

theorem trans (h : c.Spends d) (hmore : d.Spends e) : c.Spends e :=
  ⟨hmore.policy.trans h.policy, Nat.le_trans hmore.retries h.retries,
    Nat.le_trans hmore.authRetries h.authRetries⟩

theorem of_eq (h : d = c) : c.Spends d := h ▸ refl c

end Course.Spends

/-- What is withdrawn from a budget is one. -/
theorem Retry.Budget.remaining_withdraw {b left : Retry.Budget} (h : b.withdraw = (true, left)) :
    b.remaining = left.remaining + 1 := by
  unfold withdraw at h
  split at h
  · cases h
  · rename_i n hn
    obtain ⟨-, rfl⟩ := Prod.mk.inj h
    exact hn

namespace RedirectPolicy

variable {max : Nat} {status : Status} {next : Url} {previous : List Url}

/-- Up to its limit a policy follows. -/
theorem check_of_le (h : previous.length ≤ max) :
    (limited max).check status next previous = .follow := if_neg (Nat.not_lt.mpr h)

/-- Above its limit a policy refuses. -/
theorem check_of_lt (h : max < previous.length) :
    (limited max).check status next previous = .fail .tooManyRedirects := if_pos h

end RedirectPolicy

namespace Exchange

/-- The URLs of an exchange, in order: those it came from, the current one, and the one that it
turns to. -/
def visited (x : Exchange) : List Url := x.history ++ x.url :: x.phase.turning

/-- True when the next step of an exchange begins an attempt. -/
def isAttempting (x : Exchange) (s : Shared) : Bool := x.phase.isResting && !x.isCut s

/-- How many attempts an exchange can still begin, where so many redirects are followed. -/
def allowance (x : Exchange) (n : Nat) : Nat :=
  x.phase.due + x.retries.remaining + x.authRetries.remaining + (n + 1 - x.visited.length)

/-- An exchange ended because a redirect was one too many. -/
def IsRefused (x : Exchange) (next : Url) : Prop :=
  ∃ status, x.phase =
    .failed (((Error.of .redirect .tooManyRedirects).withStatus status).withUrl next)

variable {x y : Exchange} {s t : Shared} {n : Nat}

/-- The allowance, read off the course and the phase. -/
theorem allowance_eq {c : Course} {p : Phase} (hcourse : x.course = c) (hphase : x.phase = p) :
    x.allowance n = p.due + c.retries.remaining + c.authRetries.remaining +
      (n - c.history.length - p.turning.length) := by
  subst hcourse hphase
  simp only [allowance, visited, course, List.length_append, List.length_cons]
  omega

/-- Where nothing is due afterwards, an attempt that began was due. -/
theorem allowance_settled {p : Phase} (hcourse : y.course = x.course) (hnext : y.phase = p)
    (hp : p.due = 0 ∧ p.turning = []) :
    y.allowance n + (if x.phase.isResting then 1 else 0) ≤ x.allowance n ∧
      x.course.Spends y.course := by
  have hdue := x.phase.turning_le_due
  rw [allowance_eq hcourse hnext, allowance_eq (x := x) rfl rfl, hp.1, hp.2]
  simp only [List.length_nil]
  exact ⟨by omega, .of_eq hcourse⟩

/-- An attempt that begins is due, and one that is repeated costs a retry. -/
theorem allowance_tried (hphase : x.phase = .resting ∨ x.phase.isUnderWay = true)
    (h : Tried x.course y) :
    y.allowance n + (if x.phase.isResting then 1 else 0) ≤ x.allowance n ∧
      x.course.Spends y.course := by
  cases h with
  | pursue hcourse hnext =>
    exact allowance_settled hcourse rfl (Phase.due_of_isUnderWay hnext)
  | @retry budget hspent hcourse hnext =>
    have hone := Retry.Budget.remaining_withdraw hspent
    have hdue := x.phase.turning_le_due
    have hturning : x.phase.turning = [] := by
      rcases hphase with hphase | hphase
      · rw [hphase]
        rfl
      · exact (Phase.due_of_isUnderWay hphase).2
    have hagain : Phase.resting.due = 1 ∧ Phase.resting.turning = [] := ⟨rfl, rfl⟩
    rw [allowance_eq hcourse hnext, allowance_eq (x := x) rfl rfl, hturning, hcourse, hagain.1,
      hagain.2]
    simp only [List.length_nil]
    refine ⟨by omega, rfl, ?_, Nat.le_refl _⟩
    change budget.remaining ≤ x.course.retries.remaining
    omega
  | fail hcourse hnext => exact allowance_settled hcourse hnext ⟨rfl, rfl⟩

/-- A challenge that is answered costs a retry of its own, and every other response ends the
exchange. -/
theorem allowance_reaction (hphase : x.phase.isUnderWay = true) (h : Reaction x.course y) :
    y.allowance n ≤ x.allowance n ∧ x.course.Spends y.course := by
  have hended : ∀ {p : Phase}, y.course = x.course → y.phase = p → p.due = 0 ∧ p.turning = [] →
      y.allowance n ≤ x.allowance n ∧ x.course.Spends y.course := by
    intro p hcourse hnext hend
    obtain ⟨hless, hspends⟩ := allowance_settled (n := n) hcourse hnext hend
    exact ⟨by omega, hspends⟩
  cases h with
  | @challenge budget l limit header keep hspent hcourse hnext =>
    have hone := Retry.Budget.remaining_withdraw hspent
    obtain ⟨hdue, hturning⟩ := Phase.due_of_isUnderWay hphase
    rw [allowance_eq (x := x) rfl rfl, hdue, hturning, allowance_eq hcourse hnext, hcourse]
    simp only [Phase.due, Phase.turning, List.length_nil]
    refine ⟨by omega, rfl, Nat.le_refl _, ?_⟩
    change budget.remaining ≤ x.course.authRetries.remaining
    omega
  | answer hcourse hnext => exact hended hcourse hnext ⟨rfl, rfl⟩
  | reject hcourse hnext => exact hended hcourse hnext ⟨rfl, rfl⟩

/-- A step that hears no redirect pays for the attempt that it begins, and for the one that it makes
due. -/
theorem allowance_outcome (h : x.Outcome y) :
    y.allowance n + (if x.phase.isResting then 1 else 0) ≤ x.allowance n ∧
      x.course.Spends y.course := by
  cases h with
  | attempt hphase htried => exact allowance_tried hphase htried
  | react hphase hreaction =>
    have hunderWay : x.phase.isUnderWay = true := by
      rw [hphase]
      rfl
    rw [hphase]
    exact allowance_reaction hunderWay hreaction
  | @skim l read more limit after hphase hcourse hnext =>
    have hturning : y.phase.turning = x.phase.turning := by
      rw [hphase, hnext]
      cases after <;> rfl
    rw [allowance_eq hcourse rfl, allowance_eq (x := x) rfl rfl, hturning, hphase, hnext]
    exact ⟨Nat.le_refl _, .of_eq hcourse⟩
  | @turn l read limit after hphase hcourse hnext =>
    rw [allowance_eq hcourse hnext, allowance_eq (x := x) rfl hphase, hcourse, hphase]
    cases after with
    | answer header keep => exact ⟨Nat.le_refl _, .refl _⟩
    | follow next =>
      refine ⟨?_, rfl, Nat.le_refl _, Nat.le_refl _⟩
      simp only [Course.turn, Phase.due, Phase.turning, Phase.isResting, List.length_append,
        List.length_singleton, List.length_nil, Bool.false_eq_true, if_false]
      omega
  | cut hrunning hcourse hnext =>
    exact allowance_settled hcourse hnext ⟨rfl, rfl⟩

/-- A redirect that is followed adds a URL to the history, and every other ends the exchange. -/
theorem allowance_heeds {head : Head} {next : Url} {max : Nat} (hphase : x.phase.isUnderWay = true)
    (h : Heeds x.course head next
      ((RedirectPolicy.limited max).check head.status next (x.history ++ [x.url])) y) :
    y.allowance max ≤ x.allowance max := by
  obtain ⟨hdue, hturning⟩ := Phase.due_of_isUnderWay hphase
  obtain ⟨hcourse, hnext⟩ := h
  rw [allowance_eq hcourse rfl, allowance_eq (x := x) rfl rfl, hdue, hturning]
  by_cases hlimit : max < (x.history ++ [x.url]).length
  · rw [RedirectPolicy.check_of_lt hlimit] at hnext
    rw [hnext]
    exact Nat.le_refl _
  · rw [Nat.not_lt] at hlimit
    rw [RedirectPolicy.check_of_le hlimit] at hnext
    obtain ⟨l, limit, hdraining⟩ := hnext
    rw [List.length_append, List.length_singleton] at hlimit
    rw [hdraining]
    simp only [Phase.due, Phase.turning, List.length_singleton, List.length_nil, course]
    omega

/-- What becomes of an exchange without a step of its own costs nothing, and pays nothing back. -/
theorem allowance_rests (h : x.Rests y) :
    y.allowance n ≤ x.allowance n ∧ x.course.Spends y.course := by
  cases h with
  | quiet hcourse hphase =>
    rw [allowance_eq hcourse hphase, allowance_eq (x := x) rfl rfl]
    exact ⟨Nat.le_refl _, .of_eq hcourse⟩
  | body hcourse hphase hevolves hnext =>
    rw [allowance_eq hcourse hnext, allowance_eq (x := x) rfl hphase]
    exact ⟨Nat.le_refl _, .of_eq hcourse⟩
  | drop hcourse hrunning hnext =>
    obtain ⟨hless, hspends⟩ := allowance_settled (n := n) hcourse hnext ⟨rfl, rfl⟩
    exact ⟨by omega, hspends⟩

end Exchange

end HttpClient
