import HttpClient.Proofs.Client.Attempts
import HttpClient.Proofs.Exchange.Conduct
import HttpClient.Proofs.Exchange.Messages

/-!
# The trail of a request

Every move of an exchange is one stride on the trail of its request: most leave it where it is, a
head that is no redirect ends an attempt, and a redirect that is followed leads on. So where an
exchange stands, and what it has left of its request, is settled by the heads that it heard.
-/

namespace HttpClient

/-- The head that is heard. -/
def Note.head? : Note → Option Head
  | heard _ head _ _ _ => some head
  | _ => none

/-- What a head is answered with, if anything. -/
def Note.answer? : Note → Option (Option HeaderValue)
  | heard _ _ _ answer _ => some answer
  | _ => none

namespace Journal

/-- The heads that an exchange heard, first to last. -/
def heads (j : Journal) (id : ExchangeId) : List Head :=
  j.filterMap fun entry => if entry.1 = id then entry.2.head? else none

/-- The answer to the last head that an exchange heard, where it was a challenge. -/
def answer? (j : Journal) (id : ExchangeId) : Option HeaderValue :=
  (j.filterMap fun entry => if entry.1 = id then entry.2.answer? else none).getLast?.join

variable {j : Journal} {id : ExchangeId}

/-- What is read off the notes of one exchange, note by note. -/
theorem filterMap_own {α : Type} (f : Note → Option α) (j : Journal) (id k : ExchangeId)
    (notes : List Note) :
    ((j ++ notes.map (Prod.mk k)).filterMap fun entry => if entry.1 = id then f entry.2 else none) =
      (j.filterMap fun entry => if entry.1 = id then f entry.2 else none) ++
        if k = id then notes.filterMap f else [] := by
  rw [List.filterMap_append, List.filterMap_map]
  refine congrArg (_ ++ ·) ?_
  by_cases hk : k = id
  · rw [if_pos hk]
    exact List.filterMap_congr fun note _ => if_pos hk
  · rw [if_neg hk]
    exact List.filterMap_eq_nil_iff.mpr fun note _ => if_neg hk

/-- An exchange that a journal does not know heard nothing. -/
theorem heads_of_unknown (h : ∀ entry ∈ j, entry.1 ≠ id) :
    j.heads id = [] ∧ j.answer? id = none := by
  have hnone : ∀ {α : Type} (f : Note → Option α),
      (j.filterMap fun entry => if entry.1 = id then f entry.2 else none) = [] :=
    fun f => List.filterMap_eq_nil_iff.mpr fun entry hentry => if_neg (h entry hentry)
  refine ⟨hnone Note.head?, ?_⟩
  rw [answer?, hnone Note.answer?]
  rfl

/-- Notes of other exchanges, and notes without a head, are nothing that an exchange heard. -/
theorem heads_of_silent (j : Journal) (id k : ExchangeId) (notes : List Note)
    (h : k = id → ∀ note ∈ notes, note.head? = none) :
    heads (j ++ notes.map (Prod.mk k)) id = j.heads id ∧
      answer? (j ++ notes.map (Prod.mk k)) id = j.answer? id := by
  have hnone : ∀ {α : Type} (f : Note → Option α), (∀ note, note.head? = none → f note = none) →
      (if k = id then notes.filterMap f else []) = [] := by
    intro α f hf
    split
    · rename_i hk
      exact List.filterMap_eq_nil_iff.mpr fun note hnote => hf note (h hk note hnote)
    · rfl
  have hanswer : ∀ note : Note, note.head? = none → note.answer? = none := by
    intro note hhead
    cases note with
    | heard => cases hhead
    | dial | sent | skipped | streamed | broke => rfl
  constructor
  · rw [heads, filterMap_own, hnone _ fun _ hhead => hhead, List.append_nil]
    rfl
  · rw [answer?, filterMap_own, hnone _ hanswer, List.append_nil]
    rfl

/-- A head is noted with what it is answered with. -/
theorem heads_concat_headNote (j : Journal) (id : ExchangeId) (x : Exchange) (s : Shared)
    (l : Lease) (head : Head) :
    heads (j ++ [x.headNote s l head].map (Prod.mk id)) id = j.heads id ++ [head] ∧
      answer? (j ++ [x.headNote s l head].map (Prod.mk id)) id =
        (x.judged s l head).1.bind NextAction.header? := by
  constructor
  · rw [heads, filterMap_own, if_pos rfl]
    rfl
  · rw [answer?, filterMap_own, if_pos rfl]
    exact congrArg Option.join List.getLast?_concat

end Journal

/-- What a challenge is answered with, once its body is read. -/
def Phase.answer? : Phase → Option HeaderValue
  | draining _ _ _ (.answer header _) => some header
  | _ => none

namespace Exchange

/-- Credentials that an exchange has made from a challenge and not done with. -/
def Prepares (x : Exchange) (header : HeaderValue) : Prop :=
  (∃ p, x.pending = some p ∧ p.header = header) ∨ x.phase.answer? = some header

/-- What does not change from one redirect to the next. -/
structure Abides (x y : Exchange) : Prop where
  policy : y.policy = x.policy
  content : y.content = x.content
  realm : y.realm = x.realm

/-- What a move does to the trail of a request. -/
inductive Stride (x : Exchange) (s : Shared) (notes : List Note) (y : Exchange) : Prop
  /-- No head is heard. -/
  | go (habides : x.Abides y) (hnotes : ∀ note ∈ notes, note.head? = none)
    (hvisited : y.isRunning = true → x.isRunning = true ∧ y.visited = x.visited)
    (hprepares : ∀ header, y.Prepares header → x.Prepares header ∧ y.url = x.url)
  /-- A head is no redirect that is followed. -/
  | hear {l limit head} (hphase : x.phase = .sending l limit)
    (hnotes : notes = [x.headNote s l head]) (hhop : x.hop? head = none) (habides : x.Abides y)
    (hvisited : y.isRunning = true → y.visited = x.visited) (hurl : y.url = x.url)
    (hprepares : ∀ header, y.Prepares header →
      ∃ keep, (x.judged s l head).1 = some (.retry header keep))
  /-- A redirect is followed. -/
  | hop {l limit head hop} (hphase : x.phase = .sending l limit)
    (hnotes : notes = [x.headNote s l head]) (hhop : x.hop? head = some hop)
    (hpolicy : y.policy = x.policy)
    (hcontent : y.content = hop.carry s.settings.strict302 x.content)
    (hrealm : y.realm = if hop.isCross then none else x.realm)
    (hvisited : y.visited = x.visited ++ [hop.next]) (hprepares : ∀ header, ¬y.Prepares header)

variable {x y z : Exchange} {s t u : Shared} {h h' : Hand} {notes : List Note} {l : Lease}

/-- A head is no redirect that is followed, and nothing comes of it but an answer to a challenge. -/
theorem Stride.of_head {limit : Option Nat} {head : Head} (hphase : x.phase = .sending l limit)
    (hhop : x.hop? head = none)
    (hsame : y = { x with
      pending := none, negotiator := y.negotiator, authRetries := y.authRetries, phase := y.phase })
    (hturning : y.phase.turning = [])
    (hanswer : ∀ header, y.phase.answer? = some header →
      ∃ keep, (x.judged s l head).1 = some (.retry header keep)) :
    x.Stride s [x.headNote s l head] y := by
  refine .hear hphase rfl hhop ?_ (fun _ => ?_) ?_ fun header hprepares => ?_
  · rw [hsame]
    exact ⟨rfl, rfl, rfl⟩
  · rw [visited_eq (x := x) rfl hphase, visited_eq (x := y) rfl rfl, hturning, hsame]
    rfl
  · rw [hsame]
  · rcases hprepares with ⟨p, hpending, -⟩ | hphase
    · rw [hsame] at hpending
      cases hpending
    · exact hanswer header hphase

/-- An exchange whose request stays what it is makes no stride. -/
theorem Stride.of_phase (hsame : y = { x with
      phase := y.phase, pending := y.pending, held := y.held, retries := y.retries
      negotiator := y.negotiator, delivery := y.delivery })
    (hpending : ∀ p, y.pending = some p → x.pending = some p)
    (hlive : y.phase.isLive = true → x.phase.isLive = true ∧ y.phase.turning = x.phase.turning)
    (hanswer : ∀ header, y.phase.answer? = some header → x.phase.answer? = some header)
    (hnotes : ∀ note ∈ notes, note.head? = none) : x.Stride s notes y := by
  refine .go ?_ hnotes (fun hrunning => ?_) fun header hprepares => ⟨?_, ?_⟩
  · rw [hsame]
    exact ⟨rfl, rfl, rfl⟩
  · rw [isRunning_eq] at hrunning ⊢
    obtain ⟨hbefore, hturning⟩ := hlive hrunning
    refine ⟨hbefore, ?_⟩
    rw [visited_eq (x := x) rfl rfl, visited_eq (x := y) rfl rfl, hturning, hsame]
    rfl
  · rcases hprepares with ⟨p, hp, hheader⟩ | hphase
    · exact Or.inl ⟨p, hpending p hp, hheader⟩
    · exact Or.inr (hanswer header hphase)
  · rw [hsame]

/-- Who asks for a connection attempts something. -/
theorem attempts_of_asked {target : Target} {status : CheckoutStatus}
    (hask : x.Asked s target status t) : x.phase = .resting ∨ x.phase.isUnderWay = true := by
  cases hask with
  | first hphase => exact Or.inl hphase
  | again ticket hphase =>
    rw [hphase]
    exact Or.inr rfl

/-- From one part of an attempt to the next a request stays what it is. -/
theorem Stride.of_attempt (hsame : y = { x with
      phase := y.phase, pending := y.pending, held := y.held, retries := y.retries
      negotiator := y.negotiator, delivery := y.delivery })
    (hpending : ∀ p, y.pending = some p → x.pending = some p)
    (hbefore : x.phase = .resting ∨ x.phase.isUnderWay = true)
    (hafter : y.phase = .resting ∨ y.phase.isUnderWay = true)
    (hnotes : ∀ note ∈ notes, note.head? = none) : x.Stride s notes y := by
  obtain ⟨hlive, hturning⟩ := Phase.live_of_attempt hbefore
  obtain ⟨-, hturning'⟩ := Phase.live_of_attempt hafter
  refine .of_phase hsame hpending (fun _ => ⟨hlive, by rw [hturning', hturning]⟩)
    (fun header hanswer => ?_) hnotes
  cases hphase : y.phase with
  | draining =>
    rw [hphase] at hafter
    rcases hafter with hafter | hafter <;> cases hafter
  | _ =>
    rw [hphase] at hanswer
    cases hanswer

/-- An exchange that ends makes no stride. -/
theorem Stride.of_end (hsame : y = { x with phase := y.phase, delivery := y.delivery })
    (hend : y.phase.isLive = false) (hnotes : ∀ note ∈ notes, note.head? = none) :
    x.Stride s notes y := by
  refine .of_phase ?_ (fun p hp => ?_) (fun hlive => ?_) (fun header hanswer => ?_) hnotes
  · rw [hsame]
  · rw [hsame] at hp
    exact hp
  · rw [hend] at hlive
    cases hlive
  · cases hphase : y.phase with
    | draining =>
      rw [hphase] at hend
      cases hend
    | _ =>
      rw [hphase] at hanswer
      cases hanswer

/-- A body that is dropped is over. -/
theorem Stride.of_turned {read : Nat} {limit : Option Nat} {after : AfterDrain}
    (hphase : x.phase = .draining l read limit after) (hnotes : ∀ note ∈ notes, note.head? = none) :
    x.Stride s notes (x.turned l after) := by
  have hrunning : x.isRunning = true := running hphase rfl
  cases after with
  | answer header keep =>
    refine .go ⟨rfl, rfl, rfl⟩ hnotes (fun _ => ⟨hrunning, ?_⟩) fun other hprepares => ⟨?_, rfl⟩
    · rw [visited_eq (x := x) rfl hphase]
      rfl
    · rcases hprepares with ⟨p, hpending, hheader⟩ | hanswer
      · obtain rfl := Option.some.inj hpending
        refine Or.inr ?_
        rw [hphase, ← hheader]
        rfl
      · cases hanswer
  | follow next =>
    refine .go ⟨rfl, rfl, rfl⟩ hnotes (fun _ => ⟨hrunning, ?_⟩) fun other hprepares => ?_
    · rw [visited_eq (x := x) rfl hphase]
      simp only [visited, course, turned, Phase.turning, List.append_assoc, List.singleton_append]
    · rcases hprepares with ⟨p, hpending, -⟩ | hanswer
      · cases hpending
      · cases hanswer

/-- Up to its message an attempt leaves a request what it is, and makes nothing from a challenge. -/
theorem Stride.of_compose {target : Target} {result : Except Error Message} (phase : Phase)
    (hresting : x.phase = .resting) (hbind : x.bind s l = (y, t))
    (hcompose : y.compose t target = (result, z, u))
    (hafter : phase = .resting ∨ phase.isUnderWay = true)
    (hnotes : ∀ note ∈ notes, note.head? = none) :
    x.Stride s notes { z with phase := phase } := by
  obtain ⟨credentials, hcredentials⟩ := compose_frame hcompose
  have hz := (credentials_frame hcredentials).1
  have hframe := (attempt_frame hbind hcompose).1
  refine .of_attempt ?_ (fun p hp => ?_) (Or.inl hresting) hafter hnotes
  · rw [hframe]
  · have hy : y.pending = some p := by
      rw [hz] at hp
      exact hp
    cases hrealm : x.realm with
    | none =>
      simp only [bind, hrealm, Prod.mk.injEq] at hbind
      rw [hbind.1, hy]
    | some realm =>
      rcases (bound_of_bind hrealm hbind).pending with hnone | ⟨hsame, -⟩
      · rw [hnone] at hy
        cases hy
      · rw [← hsame, hy]

/-- Every move is a stride. -/
theorem stride_of_move (htidy : x.Tidy h) (hm : Move ⟨x, s, h⟩ notes ⟨y, t, h'⟩) :
    x.Stride s notes y := by
  have hsilent : ∀ note ∈ ([] : List Note), note.head? = none :=
    fun note hnote => absurd hnote List.not_mem_nil
  have hsingle : ∀ {n : Note}, n.head? = none → ∀ note ∈ [n], note.head? = none := by
    intro n hn note hnote
    rw [List.mem_singleton.mp hnote]
    exact hn
  cases hm with
  | take | giveBack | spoil | close | retry | keep | store | hush =>
    exact .of_phase rfl (fun _ hp => hp) (fun hlive => ⟨hlive, rfl⟩) (fun _ hanswer => hanswer)
      hsilent
  | refuse hurl hask =>
    exact .of_attempt rfl (fun _ hp => hp) (attempts_of_asked hask) (Or.inl rfl) hsilent
  | queue hurl hask =>
    exact .of_attempt rfl (fun _ hp => hp) (attempts_of_asked hask) (Or.inr rfl) hsilent
  | find hurl hask =>
    exact .of_attempt rfl (fun _ hp => hp) (attempts_of_asked hask) (Or.inl rfl) hsilent
  | dial limit hurl hask =>
    exact .of_attempt rfl (fun _ hp => hp) (attempts_of_asked hask) (Or.inr rfl) (hsingle rfl)
  | establish hphase | abandon hphase | leave hphase =>
    have hbefore : x.phase.isUnderWay = true := by rw [hphase]; rfl
    exact .of_attempt rfl (fun _ hp => hp) (Or.inr hbefore) (Or.inl rfl) hsilent
  | lose hphase =>
    have hbefore : x.phase.isUnderWay = true := by rw [hphase]; rfl
    exact .of_attempt rfl (fun _ hp => hp) (Or.inr hbefore) (Or.inl rfl) (hsingle rfl)
  | send limit htarget hbind hcompose =>
    exact .of_compose _ (htidy.rests ⟨_, Or.inl rfl⟩) hbind hcompose (Or.inr rfl) (hsingle rfl)
  | misfit hbind hcompose =>
    have hresting := htidy.rests ⟨_, Or.inl rfl⟩
    have hframe := (attempt_frame hbind hcompose).1
    have hphase : y.phase = .resting := by rw [hframe, hresting]
    have hstride : x.Stride s [] { y with phase := .resting } :=
      .of_compose _ hresting hbind hcompose (Or.inl rfl) hsilent
    rw [← hphase] at hstride
    exact hstride
  | finish phase delivery hphase hheld hend =>
    rcases hend with rfl | ⟨e, rfl⟩ <;> exact .of_end rfl rfl hsilent
  | quit hphase => exact .of_end rfl rfl (hsingle rfl)
  | @challenge x s l limit head header keep negotiator supply budget next hphase hanswer hjudged =>
    have hhop : x.hop? head = none := by
      unfold judged at hjudged
      split at hjudged
      · cases hjudged
      · split at hjudged
        · rename_i hstatus
          exact Redirect.hop?_of_challenge hstatus
        · cases hjudged
    refine .of_head hphase hhop rfl rfl fun other hother => ⟨keep, ?_⟩
    obtain rfl := Option.some.inj hother
    rw [hjudged]
  | @follow x s l limit head action negotiator supply url y t next hphase hanswer hjudged hstatus
      hhttp hcheck hpark hhop =>
    obtain ⟨hy, ht⟩ := park_frame hpark
    refine .hop hphase rfl hhop ?_ ?_ ?_ ?_ ?_
    · rw [hy]
      rfl
    · rw [hy, ht]
      rfl
    · rw [hy]
      rfl
    · rw [visited_eq (x := x) rfl hphase, hy]
      simp only [visited, course, turnTo, Phase.turning, List.append_assoc, List.cons_append,
        List.nil_append]
    · rintro header (⟨p, hpending, -⟩ | hnext)
      · rw [hy] at hpending
        cases hpending
      · cases hnext
  | answer hphase hanswer hjudged hpark hhop =>
    have hframe := (park_frame hpark).1
    refine .of_head hphase hhop ?_ rfl fun header hother => ?_
    · rw [hframe]
    · cases hother
  | reject hphase hanswer hjudged hhop =>
    refine .of_head hphase hhop rfl rfl fun header hother => ?_
    cases hother
  | @skim x s l read limit after bytes isLast inbox hphase hread hle =>
    refine .of_phase rfl (fun _ hp => hp) (fun _ => ?_) (fun header hanswer => ?_) (hsingle rfl)
    · rw [hphase]
      cases after <;> exact ⟨rfl, rfl⟩
    · rw [hphase]
      cases after <;> exact hanswer
  | rest hphase | spill hphase | tire hphase => exact .of_turned hphase (hsingle rfl)
  | @pump x s head body next effect inbox hphase hpump =>
    refine .of_end rfl rfl fun note hnote => ?_
    have htraffic := isTraffic_pumpHears hnote
    cases note with
    | heard => cases htraffic
    | dial | sent | skipped | streamed | broke => rfl
  | touch next delivery hphase => exact .of_end rfl rfl hsilent

end Exchange

end HttpClient
