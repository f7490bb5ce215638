import HttpClient.Proofs.Exchange.Aims

/-!
# Moves as the connections see them

For the connections of a client all that matters of a move is what the exchange has before and
after it, what becomes of the pool, and what is noted. Every move of an exchange that aims where
its URL leads is one of these turns.
-/

namespace HttpClient

/-- What an exchange has after the pool answered it. -/
def CheckoutStatus.place : CheckoutStatus → Place
  | .ready (.idle l) => .kept l
  | _ => .bare

/-- The pool is asked, and what it closes is let go of. -/
inductive Shared.Asks (s : Shared) (status : CheckoutStatus) : Shared → Prop
  | checkout {p dead} (target : Target) (wait : Option Nat)
    (heq : s.pool.checkout s.moment target wait = (status, p, dead)) :
    Asks s status (s.withPool p dead)
  | resume {p dead} (ticket : Nat) (heq : s.pool.resume s.moment ticket = (status, p, dead)) :
    Asks s status (s.withPool p dead)

/-- The same pool and the same streams. -/
structure Shared.Same (s t : Shared) : Prop where
  pool : t.pool = s.pool
  nextTransport : t.nextTransport = s.nextTransport

/-- A move as the connections see it. -/
inductive Place.Turn : Place → Shared → List Note → Place → Shared → Prop
  | stay {p s t} (hsame : s.Same t) : Turn p s [] p t
  | ask {s t status} (hask : s.Asks status t) (hslot : ∀ r, status ≠ .ready (.reserved r)) :
    Turn .bare s [] status.place t
  | dial {s t r} (hask : s.Asks (.ready (.reserved r)) t) :
    Turn .bare s [.dial t.nextTransport r.target] (.dialing r t.nextTransport)
      (t.dial r.target).2
  | establish {s r transport} :
    Turn (.dialing r transport) s [] (.kept (s.fulfill r transport).1)
      (s.fulfill r transport).2
  | abandon {s r transport} :
    Turn (.dialing r transport) s [] .bare ((s.abandon r).hangUp transport)
  | leave {s} (ticket : Nat) : Turn .bare s [] .bare (s.stopWaiting ticket)
  | spoil {s t l} (hsame : s.Same t) : Turn (.kept l) s [] (.spent l) t
  | close {s l} : Turn (.spent l) s [] .bare (s.discard l)
  | send {s t l limit} (message : Message) (y : Exchange) (hphase : y.phase = .sending l limit)
    (hurl : Target.ofUrl y.url = .ok l.target) (huri : message.uri = y.url.originForm)
    (hsame : s.Same t) : Turn (.kept l) s [.sent l.transport message y] (.asked l) t
  /-- A head is heard, and the body is dropped or goes to its reader, or the exchange ends. -/
  | hear {s t l p} (head : Head) (realm : Option Realm) (answer : Option HeaderValue)
    (state : Negotiator)
    (hnext : p = .draining (l.afterHead head) 0 ∨ p = .streaming (l.afterHead head) ∨
      p = .spent (l.afterHead head)) (hsame : s.Same t) :
    Turn (.asked l) s [.heard l head realm answer state] p t
  | lose {p s l} (hreading : p = .asked l ∨ ∃ read, p = .draining l read) :
    Turn p s [.broke l] (.spent l) s
  | skim {s t l read} (bytes : Bytes) (isLast : Bool) (hle : read + bytes.length ≤ maxDrain)
    (hsame : s.Same t) :
    Turn (.draining l read) s [.skipped l (.data bytes isLast)]
      (.draining l (read + bytes.length)) t
  | rest {s l read} (keep : Bool) :
    Turn (.draining l read) s [.skipped l (.ended .complete)] (.rested l keep) s
  | spill {s l read} (note : Note) (hnote : note = .broke l ∨ ∃ item, note = .skipped l item) :
    Turn (.draining l read) s [note] (.spent l) s
  | keep {s l} (hpoolable : l.isPoolable s.moment = true) :
    Turn (.rested l true) s [] (.kept l) s
  | store {s l keep} (hkeep : keep = true → l.isPoolable s.moment = false) :
    Turn (.rested l keep) s [] .bare (s.release l)
  | pump {s t l next effect notes} (hpumped : Exchange.Pumped l next effect notes)
    (hsame : s.Same t) :
    Turn (.streaming l) s notes
      (match effect with
        | .keep => .streaming l
        | .release l => .rested l false
        | .discard l => .spent l) t

namespace Exchange

variable {x y : Exchange} {s t : Shared} {h h' : Hand} {notes : List Note}

/-- Who asks for a connection asks the pool. -/
theorem asks_of_asked {target : Target} {status : CheckoutStatus}
    (hask : x.Asked s target status t) : s.Asks status t := by
  cases hask with
  | first hphase hheld heq =>
    rcases hcheckout : s.pool.checkout s.moment target s.settings.pool.acquireTimeout with
      ⟨found, p, dead⟩
    simp only [Shared.checkout, hcheckout] at heq
    obtain ⟨rfl, rfl⟩ := Prod.mk.injEq .. ▸ heq
    exact .checkout target _ hcheckout
  | again ticket hphase heq =>
    rcases hresume : s.pool.resume s.moment ticket with ⟨found, p, dead⟩
    simp only [Shared.resume, hresume] at heq
    obtain ⟨rfl, rfl⟩ := Prod.mk.injEq .. ▸ heq
    exact .resume ticket hresume

/-- Who asks for a connection has nothing. -/
theorem place_of_asked {target : Target} {status : CheckoutStatus} (htidy : x.Tidy .empty)
    (hask : x.Asked s target status t) : x.place .empty = .bare := by
  rw [place_of_held (held_of_asked htidy hask)]
  cases hask with
  | first hphase => rw [hphase]; rfl
  | again ticket hphase => rw [hphase]; rfl

/-- Every move of an exchange that aims where its URL leads is a turn of what it has. -/
theorem turn_of_move (hnumbered : s.pool.IsNumbered) (htidy : x.Tidy h) (haims : x.Aims s h)
    (hm : Move ⟨x, s, h⟩ notes ⟨y, t, h'⟩) :
    (x.place h).Turn s notes (y.place h') t := by
  have htidy' := tidy_move htidy hm
  cases hm with
  | take hheld =>
    simp only [place, hheld]
    exact .stay ⟨rfl, rfl⟩
  | giveBack hurl hne =>
    have hsame := (haims.leads _ rfl).symm.trans hurl
    exact absurd (Except.ok.inj hsame) hne
  | spoil => exact .spoil ⟨rfl, rfl⟩
  | close =>
    rw [place_of_held (htidy.held_of_hand rfl), htidy.bare_of_hand rfl]
    exact .close
  | store hkeep =>
    rw [place_of_held (htidy.held_of_hand rfl), htidy.bare_of_hand rfl]
    exact .store hkeep
  | refuse hurl hask =>
    have hheld := held_of_asked htidy hask
    rw [place_of_asked htidy hask]
    simp only [place, hheld]
    exact .ask (asks_of_asked hask) (by rintro _ ⟨⟩)
  | queue hurl hask =>
    rw [place_of_asked htidy hask, htidy'.place_of_phase rfl rfl]
    exact .ask (asks_of_asked hask) (by rintro _ ⟨⟩)
  | find hurl hask =>
    rw [place_of_asked htidy hask]
    exact .ask (asks_of_asked hask) (by rintro _ ⟨⟩)
  | @dial x s t target r limit hurl hask =>
    have htarget : r.target = target :=
      (answers_of_asked hnumbered haims hurl hask).ready (.reserved r) rfl
    rw [place_of_asked htidy hask, htidy'.place_of_phase rfl rfl, ← htarget]
    exact .dial (asks_of_asked hask)
  | establish hphase =>
    rw [htidy.place_of_phase hphase rfl]
    exact .establish
  | abandon hphase =>
    have hheld := htidy.held_of_phase hphase rfl
    simp only [place, hheld, hphase]
    exact .abandon
  | leave hphase =>
    have hheld := htidy.held_of_phase hphase rfl
    simp only [place, hheld, hphase]
    exact .leave _
  | @send x s l target message y t z u limit htarget hbind hcompose =>
    obtain ⟨hz, hu⟩ := attempt_frame hbind hcompose
    obtain ⟨credentials, -, hmessage⟩ := compose_ok hcompose
    have hurl : Target.ofUrl z.url = .ok l.target := by
      rw [hz]
      exact haims.leads l.target rfl
    rw [htidy'.place_of_phase rfl rfl]
    refine .send message { z with phase := .sending l limit } rfl hurl ?_ ⟨?_, ?_⟩
    · rw [hmessage]
      rfl
    · rw [hu]
      rfl
    · rw [hu]
      rfl
  | misfit hbind hcompose =>
    obtain ⟨-, hu⟩ := attempt_frame hbind hcompose
    refine .spoil ⟨?_, ?_⟩ <;> rw [hu]
  | retry => exact .stay ⟨rfl, rfl⟩
  | @finish x s phase delivery hphase hheld hend =>
    have hbare : x.place .empty = .bare := by
      rw [place_of_held hheld]
      rcases hphase with hphase | hphase <;> rw [hphase] <;> rfl
    rw [hbare]
    rcases hend with rfl | ⟨e, rfl⟩ <;>
    · simp only [place, hheld]
      exact .stay ⟨rfl, rfl⟩
  | challenge next hphase =>
    rw [htidy.place_of_phase hphase rfl, htidy'.place_of_phase rfl rfl]
    exact .hear _ _ _ _ (Or.inl rfl) ⟨rfl, rfl⟩
  | follow next hphase hanswer hjudged hstatus hhttp hcheck hpark =>
    rw [htidy.place_of_phase hphase rfl, htidy'.place_of_phase rfl rfl]
    refine .hear _ _ _ _ (Or.inl rfl) ⟨?_, ?_⟩ <;> rw [(park_frame hpark).2]
  | answer hphase hanswer hjudged hpark =>
    rw [htidy.place_of_phase hphase rfl, htidy'.place_of_phase rfl rfl]
    refine .hear _ _ _ _ (Or.inr (Or.inl rfl)) ⟨?_, ?_⟩ <;> rw [(park_frame hpark).2]
  | reject hphase =>
    rw [htidy.place_of_phase hphase rfl]
    exact .hear _ _ _ _ (Or.inr (Or.inr rfl)) ⟨rfl, rfl⟩
  | lose hphase =>
    rw [htidy.place_of_phase hphase rfl]
    exact .lose (Or.inl rfl)
  | quit hphase =>
    rw [htidy.place_of_phase hphase rfl]
    exact .lose (Or.inr ⟨_, rfl⟩)
  | skim hphase hread hle =>
    rw [htidy.place_of_phase hphase rfl, htidy'.place_of_phase rfl rfl]
    exact .skim _ _ hle ⟨rfl, rfl⟩
  | rest hphase =>
    rw [htidy.place_of_phase hphase rfl]
    exact .rest _
  | spill hphase =>
    rw [htidy.place_of_phase hphase rfl]
    exact .spill _ (Or.inr ⟨_, rfl⟩)
  | tire hphase =>
    rw [htidy.place_of_phase hphase rfl]
    exact .spill _ (Or.inl rfl)
  | keep hphase hpending hpoolable => exact .keep hpoolable
  | @pump x s head body next effect inbox hphase hpump =>
    rw [htidy.place_of_phase hphase rfl]
    rcases place_of_pump hphase hpump with ⟨hbody, hnext, rfl, hsilent⟩ | ⟨l, hbody, hpumped⟩
    · simp only [PumpEffect.hand] at htidy' ⊢
      rw [htidy'.place_of_phase rfl rfl, hsilent]
      simp only [Phase.place, hbody, hnext]
      exact .stay ⟨rfl, rfl⟩
    · have hsame : s.Same ((body.lease.map fun l => s.setInbox l inbox).getD s) := by
        rw [hbody]
        exact ⟨rfl, rfl⟩
      have hbefore : Phase.place (.answered head body) = .streaming l := by
        simp only [Phase.place, hbody, Option.map_some, Option.getD_some]
      have hafter : effect = .keep → next.lease = some l →
          { x with phase := .answered head next }.place effect.hand = .streaming l := by
        rintro rfl hnext
        rw [PumpEffect.hand] at htidy' ⊢
        rw [htidy'.place_of_phase rfl rfl]
        simp only [Phase.place, hnext, Option.map_some, Option.getD_some]
      rw [hbefore]
      generalize hnext : next.lease = lease at hpumped hafter
      generalize x.pumpHears s = heard at hpumped
      cases hpumped with
      | silent =>
        rw [hafter rfl rfl]
        exact .pump .silent hsame
      | part bytes =>
        rw [hafter rfl rfl]
        exact .pump (.part bytes) hsame
      | whole item hend => exact .pump (.whole item hend) hsame
      | broken => exact .pump .broken hsame
      | stopped => exact .pump .stopped hsame
  | touch next delivery hphase hlease =>
    rw [htidy.place_of_phase hphase rfl, htidy'.place_of_phase rfl rfl]
    simp only [Phase.place, hlease]
    exact .stay ⟨rfl, rfl⟩
  | hush => exact .stay ⟨rfl, rfl⟩

end Exchange

end HttpClient
