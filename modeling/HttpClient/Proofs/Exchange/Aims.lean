import HttpClient.Proofs.Exchange.Places
import HttpClient.Proofs.Pool.Asking

/-!
# Where connections lead

Whatever an exchange has for its current URL leads to the target of that URL, also what it waits
for. So a connection that was kept for the next attempt never has to be given back for another.
-/

namespace HttpClient

namespace Exchange

/-- Everything that an exchange has for its URL leads to the target of the URL. -/
structure Aims (x : Exchange) (s : Shared) (h : Hand) : Prop where
  leads : ∀ target, (x.place h).target? = some target → Target.ofUrl x.url = .ok target
  waits : ∀ ticket, x.phase = .waiting ticket → ticket < s.pool.nextTicket ∧
    ∀ c ∈ s.pool.callers, c.1 = ticket → Target.ofUrl x.url = .ok c.2

variable {x y : Exchange} {s t : Shared} {h h' : Hand} {notes : List Note} {target : Target}
  {status : CheckoutStatus}

/-- What the pool does for others leaves the aims of an exchange. -/
theorem Aims.recalls (haims : x.Aims s h) (hrecalls : s.pool.Recalls t.pool) : x.Aims t h := by
  refine ⟨haims.leads, fun ticket hphase => ?_⟩
  obtain ⟨hlt, hcallers⟩ := haims.waits ticket hphase
  refine ⟨hlt.trans_le hrecalls.nextTicket, fun c hc hticket => ?_⟩
  rcases hrecalls.callers c hc with hold | ⟨hle, -⟩
  · exact hcallers c hold hticket
  · omega

/-- An exchange that does not wait aims where its place leads. -/
theorem Aims.of_leads (hphase : ∀ ticket, x.phase ≠ .waiting ticket)
    (hleads : ∀ target, (x.place h).target? = some target → Target.ofUrl x.url = .ok target) :
    x.Aims s h :=
  ⟨hleads, fun ticket hwaiting => absurd hwaiting (hphase ticket)⟩

/-- What the pool answers is for the target of the URL. -/
structure Answers (s : Shared) (target : Target) (status : CheckoutStatus) (t : Shared) :
    Prop where
  recalls : s.pool.Recalls t.pool
  waiting : ∀ ticket, status = .waiting ticket → ticket < t.pool.nextTicket ∧
    ∀ c ∈ t.pool.callers, c.1 = ticket → c.2 = target
  ready : ∀ checkout, status = .ready checkout → checkout.target = target

/-- Who asks for the target of its URL is answered for that target. -/
theorem answers_of_asked (hnumbered : s.pool.IsNumbered) (haims : x.Aims s h)
    (hurl : Target.ofUrl x.url = .ok target) (hask : x.Asked s target status t) :
    Answers s target status t := by
  cases hask with
  | first hphase hheld heq =>
    rcases hcheckout : s.pool.checkout s.moment target s.settings.pool.acquireTimeout with
      ⟨found, p, dead⟩
    obtain ⟨hnext, hasks⟩ := Pool.asks_checkout hcheckout
    simp only [Shared.checkout, hcheckout] at heq
    obtain ⟨rfl, rfl⟩ := Prod.mk.injEq .. ▸ heq
    refine ⟨⟨?_, ?_⟩, ?_, hasks.ready⟩
    · rw [Shared.pool_withPool]
      omega
    · intro c hc
      rw [Shared.pool_withPool] at hc ⊢
      rcases hasks.callers c hc with hold | rfl
      · exact Or.inl hold
      · exact Or.inr ⟨Nat.le_refl _, by omega⟩
    · intro ticket hwaiting
      obtain rfl := hasks.waiting ticket hwaiting
      rw [Shared.pool_withPool]
      refine ⟨by omega, fun c hc hticket => ?_⟩
      rcases hasks.callers c hc with hold | rfl
      · exact absurd (hnumbered c hold) (by omega)
      · rfl
  | again ticket hphase heq =>
    obtain ⟨hlt, hcallers⟩ := haims.waits ticket hphase
    have htarget : ∀ c ∈ s.pool.callers, c.1 = ticket → c.2 = target := by
      intro c hc hticket
      have hsame := (hcallers c hc hticket).symm.trans hurl
      exact Except.ok.inj hsame
    rcases hresume : s.pool.resume s.moment ticket with ⟨found, p, dead⟩
    obtain ⟨hsub, hasks⟩ := Pool.asks_resume htarget hresume
    simp only [Shared.resume, hresume] at heq
    obtain ⟨rfl, rfl⟩ := Prod.mk.injEq .. ▸ heq
    refine ⟨?_, ?_, hasks.ready⟩
    · rw [Shared.pool_withPool]
      exact .of_subset hasks.nextTicket hsub
    · intro u hwaiting
      obtain rfl := hasks.waiting u hwaiting
      rw [Shared.pool_withPool, hasks.nextTicket]
      exact ⟨hlt, fun c hc hticket => htarget c (hsub hc) hticket⟩

/-- What a move does to the pool leaves callers to their tickets. -/
theorem recalls_move (hnumbered : s.pool.IsNumbered) (haims : x.Aims s h)
    (hm : Move ⟨x, s, h⟩ notes ⟨y, t, h'⟩) : s.pool.Recalls t.pool := by
  have hrelease : ∀ l, s.pool.Recalls (s.release l).pool := by
    intro l
    rcases heq : s.pool.release s.moment l with ⟨p, dead⟩
    simp only [Shared.release, heq, Shared.pool_withPool]
    exact Pool.recalls_release heq
  cases hm with
  | take | spoil | retry | finish | lose | quit | rest | spill | tire | keep | touch | hush =>
    exact .refl _
  | challenge | reject | skim => exact .refl _
  | establish => exact .of_eq rfl rfl
  | giveBack => exact hrelease _
  | store => exact hrelease _
  | @close x s l =>
    simp only [Shared.discard, Shared.pool_withPool]
    exact Pool.recalls_discard s.pool l
  | refuse hurl hask => exact (answers_of_asked hnumbered haims hurl hask).recalls
  | queue hurl hask => exact (answers_of_asked hnumbered haims hurl hask).recalls
  | find hurl hask => exact (answers_of_asked hnumbered haims hurl hask).recalls
  | dial limit hurl hask => exact (answers_of_asked hnumbered haims hurl hask).recalls
  | abandon => exact Pool.recalls_abandon _ _
  | leave => exact Pool.recalls_dequeue _ _
  | send limit htarget hbind hcompose =>
    rw [(attempt_frame hbind hcompose).2]
    exact .refl _
  | misfit hbind hcompose =>
    rw [(attempt_frame hbind hcompose).2]
    exact .refl _
  | follow next hphase hanswer hjudged hstatus hhttp hcheck hpark =>
    rw [(park_frame hpark).2]
    exact .refl _
  | answer hphase hanswer hjudged hpark =>
    rw [(park_frame hpark).2]
    exact .refl _
  | @pump x s head body =>
    cases body.lease <;> exact .refl _

/-- Aims are carried along where the URL stays and no other target comes up. -/
theorem Aims.carry (haims : x.Aims s h) (hrecalls : s.pool.Recalls t.pool) (hurl : y.url = x.url)
    (hphase : y.phase = x.phase ∨ ∀ ticket, y.phase ≠ .waiting ticket)
    (hleads : ∀ target, (y.place h').target? = some target → (x.place h).target? = some target) :
    y.Aims t h' := by
  refine ⟨fun target htarget => ?_, fun ticket hwaiting => ?_⟩
  · rw [hurl]
    exact haims.leads target (hleads target htarget)
  · rcases hphase with hphase | hphase
    · rw [hurl]
      exact (haims.recalls hrecalls).waits ticket (hphase ▸ hwaiting)
    · exact absurd hwaiting (hphase ticket)

/-- A body that was read to its end leaves a connection that leads as before, if it is kept. -/
theorem aims_turned {l : Lease} {after : AfterDrain} (s : Shared)
    (hurl : Target.ofUrl x.url = .ok l.target) (hkeep : h = .rested l after.keeps ∨ h = .spent l) :
    (x.turned l after).Aims s h := by
  refine .of_leads ?_ fun target htarget => ?_
  · cases after <;> exact fun ticket => by rintro ⟨⟩
  · rcases hkeep with rfl | rfl
    · cases after with
      | answer header keepConnection =>
        cases keepConnection with
        | true =>
          simp only [place, AfterDrain.keeps, Place.target?, Option.some.injEq] at htarget
          rw [← htarget]
          exact hurl
        | false => exact absurd htarget (by rintro ⟨⟩)
      | follow next => exact absurd htarget (by rintro ⟨⟩)
    · exact absurd htarget (by rintro ⟨⟩)

/-- Everything that an exchange has for its URL leads to the target of the URL after every move. -/
theorem aims_move (hnumbered : s.pool.IsNumbered) (htidy : x.Tidy h) (haims : x.Aims s h)
    (hm : Move ⟨x, s, h⟩ notes ⟨y, t, h'⟩) : y.Aims t h' := by
  have hrecalls := recalls_move hnumbered haims hm
  have htidy' := tidy_move htidy hm
  cases hm with
  | take hheld =>
    refine haims.carry hrecalls rfl (Or.inl rfl) fun target htarget => ?_
    simp only [place, hheld]
    exact htarget
  | giveBack hurl hne =>
    have hsame := (haims.leads _ rfl).symm.trans hurl
    exact absurd (Except.ok.inj hsame) hne
  | spoil => exact haims.carry hrecalls rfl (Or.inl rfl) (by rintro _ ⟨⟩)
  | close | store =>
    refine haims.carry hrecalls rfl (Or.inl rfl) fun target htarget => ?_
    rw [place_of_held (htidy.held_of_hand rfl), htidy.bare_of_hand rfl] at htarget
    cases htarget
  | refuse hurl hask =>
    refine .of_leads (fun ticket => by rintro ⟨⟩) fun target htarget => ?_
    have hheld := held_of_asked htidy hask
    simp only [place, hheld] at htarget
    cases htarget
  | @queue x s t target ticket hurl hask =>
    have hanswers := answers_of_asked hnumbered haims hurl hask
    refine ⟨fun found hfound => ?_, fun ticket hphase => ?_⟩
    · rw [htidy'.place_of_phase rfl rfl] at hfound
      cases hfound
    · obtain ⟨hlt, hcallers⟩ := hanswers.waiting ticket (by rw [Phase.waiting.inj hphase])
      refine ⟨hlt, fun c hc hticket => ?_⟩
      rw [hcallers c hc hticket]
      exact hurl
  | @find x s t target l hurl hask =>
    have hanswers := answers_of_asked hnumbered haims hurl hask
    refine .of_leads (fun ticket => by rintro ⟨⟩) fun found hfound => ?_
    obtain rfl : l.target = found := Option.some.inj hfound
    rw [show l.target = target from hanswers.ready _ rfl]
    exact hurl
  | @dial x s t target r limit hurl hask =>
    have hanswers := answers_of_asked hnumbered haims hurl hask
    refine .of_leads (fun ticket => by rintro ⟨⟩) fun found hfound => ?_
    rw [htidy'.place_of_phase rfl rfl] at hfound
    obtain rfl : r.target = found := Option.some.inj hfound
    rw [show r.target = target from hanswers.ready _ rfl]
    exact hurl
  | establish hphase =>
    refine haims.carry hrecalls rfl (Or.inr fun ticket => by rintro ⟨⟩) fun target htarget => ?_
    rw [htidy.place_of_phase hphase rfl]
    exact htarget
  | abandon hphase | leave hphase =>
    refine .of_leads (fun ticket => by rintro ⟨⟩) fun target htarget => ?_
    have hheld := htidy.held_of_phase hphase rfl
    simp only [place, hheld] at htarget
    cases htarget
  | @send x s l target message y t z u limit htarget hbind hcompose =>
    have hurl : z.url = x.url := by rw [(attempt_frame hbind hcompose).1]
    refine haims.carry hrecalls hurl (Or.inr fun ticket => by rintro ⟨⟩) fun found hfound => ?_
    rw [htidy'.place_of_phase rfl rfl] at hfound
    exact hfound
  | misfit hbind hcompose =>
    rw [(attempt_frame hbind hcompose).1]
    exact haims.carry hrecalls rfl (Or.inl rfl) (by rintro _ ⟨⟩)
  | retry e reused hphase =>
    exact haims.carry hrecalls rfl (Or.inl rfl) fun target htarget => htarget
  | finish phase delivery hphase hheld hend =>
    refine .of_leads (fun ticket => ?_) fun target htarget => ?_
    · rcases hend with rfl | ⟨e, rfl⟩ <;> rintro ⟨⟩
    · simp only [place, hheld] at htarget
      rcases hend with rfl | ⟨e, rfl⟩ <;> cases htarget
  | challenge next hphase =>
    refine haims.carry hrecalls rfl (Or.inr fun ticket => by rintro ⟨⟩) fun target htarget => ?_
    rw [htidy.place_of_phase hphase rfl]
    rw [htidy'.place_of_phase rfl rfl] at htarget
    simp only [Phase.place, Place.target?, Lease.target_afterHead] at htarget ⊢
    exact htarget
  | follow next hphase hanswer hjudged hstatus hhttp hcheck hpark =>
    refine haims.carry hrecalls ?_ (Or.inr fun ticket => by rintro ⟨⟩) fun target htarget => ?_
    · simp only [turnTo]
      rw [(park_frame hpark).1]
    · rw [htidy.place_of_phase hphase rfl]
      rw [htidy'.place_of_phase rfl rfl] at htarget
      simp only [Phase.place, Place.target?, Lease.target_afterHead] at htarget ⊢
      exact htarget
  | answer hphase hanswer hjudged hpark =>
    refine .of_leads (fun ticket => by rintro ⟨⟩) fun target htarget => ?_
    rw [htidy'.place_of_phase rfl rfl] at htarget
    cases htarget
  | reject => exact .of_leads (fun ticket => by rintro ⟨⟩) (by rintro _ ⟨⟩)
  | lose | quit => exact .of_leads (fun ticket => by rintro ⟨⟩) (by rintro _ ⟨⟩)
  | skim hphase =>
    refine haims.carry hrecalls rfl (Or.inr fun ticket => by rintro ⟨⟩) fun target htarget => ?_
    rw [htidy.place_of_phase hphase rfl]
    rw [htidy'.place_of_phase rfl rfl] at htarget
    exact htarget
  | rest hphase =>
    refine aims_turned s (haims.leads _ ?_) (Or.inl rfl)
    rw [htidy.place_of_phase hphase rfl]
    rfl
  | spill hphase | tire hphase =>
    refine aims_turned s (haims.leads _ ?_) (Or.inr rfl)
    rw [htidy.place_of_phase hphase rfl]
    rfl
  | keep hphase =>
    exact haims.carry hrecalls rfl (Or.inl rfl) fun target htarget => htarget
  | @pump x s head body next effect inbox hphase hpump =>
    refine .of_leads (fun ticket => by rintro ⟨⟩) fun target htarget => ?_
    cases effect with
    | keep =>
      simp only [PumpEffect.hand] at htidy' htarget
      rw [htidy'.place_of_phase rfl rfl] at htarget
      simp only [Phase.place] at htarget
      cases hlease : next.lease <;> simp [hlease, Place.target?] at htarget
    | release l => cases htarget
    | discard l => cases htarget
  | @touch x s head body next delivery hphase =>
    refine .of_leads (fun ticket => by rintro ⟨⟩) fun target htarget => ?_
    rw [htidy'.place_of_phase rfl rfl] at htarget
    simp only [Phase.place] at htarget
    cases hlease : next.lease <;> simp [hlease, Place.target?] at htarget
  | hush delivery => exact haims.carry hrecalls rfl (Or.inl rfl) fun target htarget => htarget

end Exchange

end HttpClient
