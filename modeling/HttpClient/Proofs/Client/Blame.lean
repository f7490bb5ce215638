import HttpClient.Proofs.Client.Events
import HttpClient.Proofs.Client.Itinerary

/-!
# The URL that an error names

An error that ends a request names the URL that was being requested, after the redirects followed so
far, or that of a redirect that was refused. Only a request that is cut short, by its token or by
its deadline, ends with an error about the URL that it began with, wherever it has been led since.
-/

namespace HttpClient

/-- A head sends on to a URL where no request goes, for its scheme or because the policy refuses. -/
def Redirect.Refuses (policy : RedirectPolicy) (previous : List Url) (url : Url) (head : Head)
    (next : Url) (cause : Cause) : Prop :=
  head.status ∈ [301, 302, 303, 307, 308] ∧
    ∃ location text, head.headers.first? "location" = some location ∧
      location.text? = some text ∧ url.join text = .ok next ∧
      (next.isHttp = false ∧ cause = .badScheme ∨
        next.isHttp = true ∧ policy.check head.status next previous = .fail cause)

/-- The error about a redirect that is refused. -/
def Redirect.refusal (head : Head) (next : Url) (cause : Cause) : Error :=
  ((Error.of .redirect cause).withStatus head.status).withUrl next

/-- What an error says that ends a request, given the heads that the request heard and whether it
was cut short. -/
inductive Request.Blames (r : Request) (settings : Settings) (heads : List Head) (cut : Prop)
    (e : Error) : Prop
  | cut (hcut : cut) (h : e = Error.canceled.withUrl r.url ∨ e = Error.timeout.withUrl r.url)
  | here (hurl : e.url = some (Redirect.current r.url (r.hops settings heads)))
  | refused {head next cause} (hlast : heads.getLast? = some head)
    (hrefuses : Redirect.Refuses (r.redirect.getD settings.redirectPolicy)
      (Redirect.visited r.url (r.hops settings heads))
      (Redirect.current r.url (r.hops settings heads)) head next cause)
    (herror : e = Redirect.refusal head next cause)

/-- What an error says does not change with more that cut the request short. -/
theorem Request.Blames.imp {r : Request} {settings : Settings} {heads : List Head} {cut late : Prop}
    {e : Error} (h : r.Blames settings heads cut e) (himp : cut → late) :
    r.Blames settings heads late e := by
  cases h with
  | cut hcut h => exact .cut (himp hcut) h
  | here hurl => exact .here hurl
  | refused hlast hrefuses herror => exact .refused hlast hrefuses herror

/-- What an error says about a head that an exchange heard. -/
def Exchange.Faults (x : Exchange) (head : Head) (e : Error) : Prop :=
  x.hop? head = none ∧ (e.url = some x.url ∨ ∃ next cause,
    Redirect.Refuses x.policy (x.history ++ [x.url]) x.url head next cause ∧
      e = Redirect.refusal head next cause)

namespace Exchange

variable {x y : Exchange} {s t : Shared} {l : Lease} {head : Head} {e : Error}

/-- A final response is no error. -/
theorem answer_unfailed (x : Exchange) (s : Shared) (head : Head) (l : Lease) :
    (x.answer s head l).1.phase ≠ .failed e := by
  obtain ⟨-, body, hphase, -⟩ := x.answer_fresh s head l
  rw [hphase]
  nofun

/-- A challenge that ends an exchange is blamed on the current URL. -/
theorem blame_onChallenge {target : Target} {realm : Realm}
    (hfailed : (x.onChallenge s target realm head l).1.phase = .failed e) :
    e.url = some x.url := by
  unfold onChallenge at hfailed
  dsimp only at hfailed
  split at hfailed
  · split at hfailed
    · cases hfailed
    · obtain rfl := Phase.failed.inj hfailed
      rfl
  · obtain rfl := Phase.failed.inj hfailed
    rfl
  · exact absurd hfailed (answer_unfailed _ _ head l)

/-- A response that ends an exchange with an error has a redirect, which leads nowhere or is
refused. -/
theorem blame_passOn (hfailed : (x.passOn s head l).1.phase = .failed e) : x.Faults head e := by
  unfold passOn at hfailed
  split at hfailed
  · rename_i location hlocation
    split at hfailed
    · rename_i hstatus
      rw [Bool.and_eq_true] at hstatus
      have hmember := (Redirect.isRedirectStatus_iff _).mp hstatus.1
      have hhop : Redirect.hop? x.policy (x.history ++ [x.url]) x.url head = _ :=
        Redirect.hop?_of_location x hstatus.1 hlocation
      unfold onRedirect at hfailed
      cases hnext : x.redirectUrl location with
      | error cause =>
        rw [hnext] at hhop hfailed
        obtain rfl := Phase.failed.inj hfailed
        exact ⟨hhop, Or.inl rfl⟩
      | ok next =>
        rw [hnext] at hhop hfailed
        obtain ⟨text, htext, hjoin⟩ := redirectUrl_eq_ok_iff.mp hnext
        change x.hop? head = if _ then _ else _ at hhop
        dsimp only at hfailed
        split at hfailed
        · rename_i hscheme
          rw [Bool.not_eq_true'] at hscheme
          obtain rfl := Phase.failed.inj hfailed
          refine ⟨?_, Or.inr ⟨next, .badScheme, ⟨hmember, location, text, hlocation, htext, hjoin,
            Or.inl ⟨hscheme, rfl⟩⟩, rfl⟩⟩
          simp only [hhop, hscheme, Bool.false_and, Bool.false_eq_true, if_false]
        · rename_i hscheme
          rw [Bool.not_eq_true', Bool.not_eq_false] at hscheme
          cases hcheck : x.policy.check head.status next (x.history ++ [x.url]) with
          | follow =>
            rw [hcheck] at hfailed
            cases hfailed
          | stop =>
            rw [hcheck] at hfailed
            exact absurd hfailed (answer_unfailed x s head l)
          | fail cause =>
            rw [hcheck] at hfailed
            obtain rfl := Phase.failed.inj hfailed
            refine ⟨?_, Or.inr ⟨next, cause, ⟨hmember, location, text, hlocation, htext, hjoin,
              Or.inr ⟨hscheme, hcheck⟩⟩, rfl⟩⟩
            simp only [hhop, hcheck, reduceCtorEq, decide_false, Bool.and_false,
              Bool.false_eq_true, if_false]
    · exact absurd hfailed (answer_unfailed x s head l)
  · exact absurd hfailed (answer_unfailed x s head l)

/-- A head that ends an exchange with an error is no redirect that is followed. -/
theorem blame_headArrived (hfailed : (x.headArrived s head l).1.phase = .failed e) :
    x.Faults head e := by
  unfold headArrived at hfailed
  generalize (if head.wantsClose then l.unpoolable else l) = m at hfailed
  rcases onHead_cases { x with pending := none } s m.target head m with
    ⟨realm, hstatus, heq⟩ | ⟨negotiator, heq⟩
  · rw [heq] at hfailed
    exact ⟨Redirect.hop?_of_challenge hstatus,
      Or.inl (blame_onChallenge (x := { x with pending := none }) hfailed)⟩
  · rw [heq] at hfailed
    exact blame_passOn (x := { x with pending := none, negotiator := negotiator }) hfailed

/-- The end of a body is no error. -/
theorem unfailed_drainStep {read : Nat} {limit : Option Nat} {after : AfterDrain}
    (h : x.drainStep s l read limit after = some (y, t)) : y.phase ≠ .failed e := by
  have hdrained : ∀ whole : Bool, some (x.drained s l whole after) = some (y, t) →
      y.phase ≠ .failed e := by
    intro whole heq
    have hturn := (drained_turn x s l whole after).2
    rw [Option.some.inj heq] at hturn
    rw [hturn]
    nofun
  unfold drainStep at h
  split at h
  · dsimp only at h
    split at h
    · exact hdrained false h
    · obtain ⟨rfl, -⟩ := Prod.mk.inj (Option.some.inj h)
      nofun
  · exact hdrained _ h
  · obtain ⟨-, heq⟩ := Option.ite_none_right_eq_some.mp h
    exact hdrained false heq

/-- What the error of a step says: that the exchange was cut short, or something about the current
URL, or about the redirect in the head that was heard. -/
theorem blame_of_step (hstep : x.step s = some (y, t)) (hfailed : y.phase = .failed e) :
    x.heard? s = none ∧ (x.isCut s = true ∧ e = x.cutError s ∨
        e.url = some x.url ∧ x.phase.turning = []) ∨
      ∃ head, x.heard? s = some head ∧ x.Faults head e := by
  have hrunning := running_of_step hstep
  cases hheard : x.heard? s with
  | some head =>
    obtain ⟨l, limit, -, -, -, hown, -⟩ := step_of_heard hheard
    refine Or.inr ⟨head, rfl, ?_⟩
    rw [hown] at hstep
    have hblame : (x.headArrived s head l).1.phase = .failed e → x.Faults head e :=
      blame_headArrived
    rw [Option.some.inj hstep] at hblame
    exact hblame hfailed
  | none =>
    refine Or.inl ⟨rfl, ?_⟩
    by_cases hcut : x.isCut s = true
    · rw [step_of_cut hrunning hcut] at hstep
      obtain ⟨rfl, -⟩ := Prod.mk.inj (Option.some.inj hstep)
      exact Or.inl ⟨hcut, (Phase.failed.inj hfailed).symm⟩
    · rw [Bool.not_eq_true] at hcut
      refine Or.inr ?_
      cases hphase : x.phase with
      | resting => exact ⟨url_of_setback (Or.inl hphase) hcut hheard hstep hfailed, rfl⟩
      | waiting | dialing | sending =>
        exact ⟨url_of_setback (Or.inr (by rw [hphase]; rfl)) hcut hheard hstep hfailed, rfl⟩
      | draining l read limit after =>
        rw [step_of_uncut hrunning hcut, proceed, hphase] at hstep
        exact absurd hfailed (unfailed_drainStep hstep)
      | answered | failed | dropped =>
        rw [isRunning_eq, hphase] at hrunning
        cases hrunning

/-- No move changes the URL that an exchange began with. -/
theorem start_move {a b : Scene} {notes : List Note} (hm : Move a notes b) :
    b.exchange.start = a.exchange.start := by
  cases hm with
  | take | giveBack | spoil | close | refuse | queue | find | dial => rfl
  | establish | abandon | leave | retry | finish | challenge | reject => rfl
  | lose | quit | skim | keep | store | pump | touch | hush => rfl
  | send limit htarget hbind hcompose =>
    have hsame := congrArg Exchange.start (attempt_frame hbind hcompose).1
    exact hsame
  | misfit hbind hcompose =>
    have hsame := congrArg Exchange.start (attempt_frame hbind hcompose).1
    exact hsame
  | follow next hphase hanswer hjudged hstatus hhttp hcheck hpark =>
    have hsame := congrArg Exchange.start (park_frame hpark).1
    exact hsame
  | answer hphase hanswer hjudged hpark =>
    have hsame := congrArg Exchange.start (park_frame hpark).1
    exact hsame
  | @rest x s l read limit after | @spill x s l read limit after | @tire x s l read limit after =>
    cases after <;> rfl

end Exchange

namespace Client

open Snapshot Exchange

variable {c : Client} {j : Journal} {id : ExchangeId} {x y : Exchange} {event : Event}
  {settings : Settings} {r : Request} {e : Error}

/-- Whatever happens, an exchange goes on from the URL that it began with. -/
theorem isKept_start (id : ExchangeId) (url : Url) :
    IsKept fun a => ∃ x, a.client.exchange? id = some x ∧ x.start = url := by
  rintro a b ⟨x, hx, hstart⟩ hstep
  cases hstep with
  | turn | world => exact ⟨x, hx, hstart⟩
  | submit request delivery =>
    obtain ⟨hid, -⟩ := List.getElem?_eq_some_iff.mp hx
    exact ⟨x, (List.getElem?_append_left hid).trans hx, hstart⟩
  | @move c k h j w notes y t h' hw hmove =>
    by_cases hk : k = id
    · subst hk
      obtain rfl := Option.some.inj (hw.symm.trans hx)
      exact ⟨y, exchange?_put_self hw, (start_move hmove).trans hstart⟩
    · exact ⟨x, (exchange?_put_of_ne (Ne.symm hk)).trans hx, hstart⟩

/-- An error without a head says what the heads that were heard before lead to. -/
theorem blames_unheard {s t : Shared} (hstart : x.start = r.url)
    (hkeeps : x.Keeps settings r (j.heads id) (j.answer? id)) (hstep : x.step s = some (y, t))
    (hblame : x.isCut s = true ∧ e = x.cutError s ∨ e.url = some x.url ∧ x.phase.turning = []) :
    r.Blames settings (j.heads id) (x.isCut s = true) e := by
  rcases hblame with ⟨hcut, rfl⟩ | ⟨hurl, hturning⟩
  · refine .cut hcut ?_
    rw [cutError, hstart]
    split
    · exact Or.inl rfl
    · exact Or.inr rfl
  · have hvisited := hkeeps.visited (running_of_step hstep)
    rw [visited_eq rfl rfl, hturning] at hvisited
    have hcurrent : x.url = Redirect.current r.url _ := Redirect.current_of_visited hvisited
    refine .here ?_
    rw [hurl, hcurrent]

/-- An error about a head says what that head and those before it lead to. -/
theorem blames_heard {l : Lease} {limit : Option Nat} {head : Head} (cut : Prop)
    (hkeeps : x.Keeps settings r (j.heads id) (j.answer? id)) (hphase : x.phase = .sending l limit)
    (hfaults : x.Faults head e) : r.Blames settings (j.heads id ++ [head]) cut e := by
  obtain ⟨hhop, hblame⟩ := hfaults
  obtain ⟨hvisited, hcurrent⟩ := hkeeps.url hphase
  have hhops : r.hops settings (j.heads id ++ [head]) = r.hops settings (j.heads id) := by
    rw [hkeeps.hops_concat hphase, hhop, Option.toList_none, List.append_nil]
  rcases hblame with hurl | ⟨next, cause, hrefuses, herror⟩
  · refine .here ?_
    rw [hhops, hurl, hcurrent]
  · refine .refused List.getLast?_concat ?_ herror
    rw [hhops, ← hvisited, ← hcurrent, ← hkeeps.policy]
    exact hrefuses

/-- An error that an event ends a request with says what the heads that it heard lead to, or that
the event was a turn in which the request was cut short. -/
theorem blames_step {cut : Prop} (hx : c.exchange? id = some x) (hstart : x.start = r.url)
    (hkeeps : x.Keeps settings r (j.heads id) (j.answer? id))
    (hblames : ∀ e, x.phase = .failed e → r.Blames settings (j.heads id) cut e)
    (hcut : event = .run (.exchange id) → x.isRunning = true ∧ x.isCut c.shared = true → cut)
    (hy : (c.step event).exchange? id = some y) (hfailed : y.phase = .failed e) :
    r.Blames settings ((j ++ c.notes event).heads id) cut e := by
  obtain ⟨z, hz, hfares⟩ := fares_step hx event
  obtain rfl := Option.some.inj (hy.symm.trans hz)
  rcases c.notes_cases event id with ⟨w, v, t, said, hevent, hw, hstep, hsaid, hnotes⟩ |
    ⟨hidle, k, notes, hnotes, hsilent⟩
  · obtain rfl := Option.some.inj (hw.symm.trans hx)
    have hown : v = y := by
      cases hfares with
      | step _ hsame => exact (Prod.mk.inj (Option.some.inj (hstep.symm.trans hsame))).1
      | rest hwaits => cases (hwaits hevent).symm.trans hstep
    subst hown
    rcases blame_of_step hstep hfailed with ⟨hheard, hblame⟩ | ⟨head, hheard, hfaults⟩
    · obtain ⟨hheads, -⟩ := Journal.heads_of_silent j id id (w.hears c.shared ++ said)
        fun _ note hnote => (List.mem_append.mp hnote).elim (silent_of_unheard hheard note)
          (hsaid.silent note)
      rw [hnotes, hheads]
      exact (blames_unheard hstart hkeeps hstep hblame).imp
        fun hshort => hcut hevent ⟨running_of_step hstep, hshort⟩
    · obtain ⟨l, limit, hphase, -, -, -, hhears⟩ := step_of_heard hheard
      rw [hnotes, hhears, List.map_append, ← List.append_assoc,
        (Journal.heads_of_silent _ id id said fun _ => hsaid.silent).1]
      rw [show (j ++ [w.headNote c.shared l head].map (Prod.mk id)).heads id = _ from
        (Journal.heads_concat_headNote j id w c.shared l head).1]
      exact blames_heard cut hkeeps hphase hfaults
  · -- The request was at its end already.
    obtain ⟨hheads, -⟩ := Journal.heads_of_silent j id k notes
      fun hk => silent_of_isTraffic (hsilent hk)
    rw [hnotes, hheads]
    cases hfares with
    | step hevent hstep =>
      rw [hidle hevent x hx] at hstep
      cases hstep
    | rest hwaits hrests =>
      cases hrests with
      | quiet hcourse hphase => exact hblames e (hphase.symm.trans hfailed)
      | body hcourse hphase hevolves hnext => cases hnext.symm.trans hfailed
      | drop hcourse hrunning hnext => cases hnext.symm.trans hfailed

/-- True of an exchange that is cut short with its next step, by its token or by its deadline. -/
def EndsEarly (c : Client) (x : Exchange) : Prop := x.isRunning = true ∧ x.isCut c.shared = true

/-- Whatever happens, a request that ends with an error ends with one about where the heads that it
heard have led it, or it was cut short. -/
theorem blames_run (settings : Settings) (supply : Supply) (before events : List Event)
    (r : Request) (consumer : Option Consumer) :
    let id := ((Client.make settings supply).run before).exchanges.length
    let whole := before ++ .submit r consumer :: events
    ∃ x, ((Client.make settings supply).run whole).exchange? id = some x ∧ x.start = r.url ∧
      ∀ e, x.phase = .failed e →
        r.Blames settings (((Client.make settings supply).journal whole).heads id)
          ((Client.make settings supply).HadTurn whole id EndsEarly) e := by
  intro id whole
  let start := Client.make settings supply
  let Kept := fun a : Snapshot => (Reachable settings supply a ∧ Follows settings r id a) ∧
    ∃ x, a.client.exchange? id = some x ∧ x.start = r.url
  have hkept : IsKept Kept := fun a b h hstep =>
    ⟨⟨h.1.1.next hstep, h.1.2.step h.1.1 hstep⟩, isKept_start id r.url a b h.2 hstep⟩
  have hbegun : Kept ⟨((Client.make settings supply).run before).step (.submit r consumer), 0,
      .empty, (Client.make settings supply).journal before⟩ := by
    have hreach := reachable_run settings supply before
    have hfollows := follows_run settings supply before [] r consumer
    simp only [run_append, journal_append, journal, notes, List.append_nil] at hfollows
    exact ⟨⟨hreach.next (.submit _ _), hfollows⟩, _, List.getElem?_concat_length, rfl⟩
  have hrun := run_kept_since
    (P := fun past c j => c = start.run past ∧ Kept ⟨c, 0, .empty, j⟩ ∧
      ∀ x e, c.exchange? id = some x → x.phase = .failed e →
        r.Blames settings (j.heads id) (start.HadTurn past id EndsEarly) e)
    (fun past c j event hkeeping => by
      obtain ⟨rfl, hc, hblames⟩ := hkeeping
      refine ⟨(run_append start past [event]).symm, hkept.event hc event, fun y e hy hfailed => ?_⟩
      obtain ⟨⟨-, hfollows⟩, x, hx, hstart⟩ := hc
      obtain ⟨z, hz, hkeeps⟩ := hfollows.keeps
      obtain rfl := Option.some.inj (hx.symm.trans hz)
      refine blames_step hx hstart hkeeps (fun e hended => ?_) (fun hevent hshort => ?_) hy hfailed
      · exact (hblames x e hx hended).imp fun hcut => hcut.concat event
      · subst hevent
        exact .last hx hshort)
    (before ++ [.submit r consumer]) events
    ⟨(run_append start before [.submit r consumer]).symm, hbegun, fun x e hx hfailed => by
      obtain rfl := Option.some.inj (hx.symm.trans List.getElem?_concat_length)
      cases hfailed⟩
  obtain ⟨-, ⟨-, x, hx, hstart⟩, hblames⟩ := hrun
  rw [List.append_assoc] at hblames
  simp only [whole, run_append, journal_append]
  exact ⟨x, hx, hstart, fun e => hblames x e hx⟩

/-- What the error of a request names. A request is submitted to any client, and after that anything
happens. If it ended with an error, that names a URL: the one to which the redirects in the heads
that it heard have led, or the one of a redirect that was refused in the last head, for its scheme
or by the policy. The exception is a request that was cut short in one of its turns, by its token or
by its deadline: its error always names the URL that it was submitted with. -/
theorem url_of_error (settings : Settings) (supply : Supply) (before events : List Event)
    (r : Request) (consumer : Option Consumer) :
    let id := ((Client.make settings supply).run before).exchanges.length
    let whole := before ++ .submit r consumer :: events
    let reached := (Client.make settings supply).run whole
    let heads := ((Client.make settings supply).journal whole).heads id
    let hops := r.hops settings heads
    let url := Redirect.current r.url hops
    (reached.shared.actions.filter Action.isSaid =
      ((Client.make settings supply).journal whole).filterMap (·.2.action?)) ∧
    ∃ x, reached.exchange? id = some x ∧
      (∀ e, x.phase = .failed e → ∃ named, e.url = some named ∧
        (named = url ∨
          (∃ head cause, heads.getLast? = some head ∧
            Redirect.Refuses (r.redirect.getD settings.redirectPolicy)
              (Redirect.visited r.url hops) url head named cause ∧
            e = Redirect.refusal head named cause) ∨
          named = r.url ∧ (e = Error.canceled.withUrl r.url ∨ e = Error.timeout.withUrl r.url) ∧
            (Client.make settings supply).HadTurn whole id EndsEarly)) ∧
      (x.isRunning = true → x.isCut reached.shared = true →
        ∃ y t e, x.step reached.shared = some (y, t) ∧ y.phase = .failed e ∧
          e.url = some r.url) := by
  intro id whole reached heads hops url
  obtain ⟨x, hx, hstart, hblames⟩ := blames_run settings supply before events r consumer
  refine ⟨(reachable_run settings supply whole).actions, x, hx, fun e hfailed => ?_,
    fun hrunning hcut => ?_⟩
  · cases hblames e hfailed with
    | cut hcut h =>
      refine ⟨r.url, ?_, Or.inr (Or.inr ⟨rfl, h, hcut⟩)⟩
      rcases h with rfl | rfl <;> rfl
    | here hurl => exact ⟨url, hurl, Or.inl rfl⟩
    | @refused head next cause hlast hrefuses herror =>
      refine ⟨next, ?_, Or.inr (Or.inl ⟨head, cause, hlast, hrefuses, herror⟩)⟩
      rw [herror]
      rfl
  · refine ⟨_, _, _, step_of_cut hrunning hcut, rfl, ?_⟩
    rw [cutError, hstart]
    rfl

/-- A request that is followed to another page and has a second for it all. -/
def lateRequest : Request :=
  { method := "GET"
    url := { scheme := "http", host := some (.domain "h.example"), path := .segments ["1"] }
    redirect := some (.limited 10)
    timeout := some 1000 }

/-- The page that it is led to does not answer in time. -/
def late : List Event :=
  let redirect : Head := { status := 302, headers := ⟨[("location", .ofAscii "/2")]⟩ }
  [.submit lateRequest none, .run (.exchange 0), .dialed 0 none, .run (.exchange 0),
    .arrive 0 (.head redirect), .run (.exchange 0), .arrive 0 (.ending .complete),
    .run (.exchange 0), .run (.exchange 0), .tick 1000, .run (.exchange 0)]

/-- A request that ran out of time names the page that it began with, which had answered. -/
theorem late_names_start :
    (((Client.make {} {}).run late).exchange? 0).bind (·.phase.error?) =
        some (Error.timeout.withUrl lateRequest.url) ∧
      Redirect.current lateRequest.url
        (lateRequest.hops {} (((Client.make {} {}).journal late).heads 0)) ≠ lateRequest.url := by
  decide +kernel

end Client

end HttpClient
