import HttpClient.Proofs.Client.Handshake
import HttpClient.Proofs.Client.Trail

/-!
# What each attempt sends

Every message is made anew from what the caller asked for and the heads that the request heard: the
redirects followed so far settle the URL and what is left of content and realm, and the last head
settles whether credentials answer it. Nothing that was made for one attempt is found in a later
one, and what a redirect to another host took away never comes back.
-/

namespace HttpClient

/-- What the caller asks to be sent. -/
def Request.content (r : Request) : Redirect.Content := ⟨r.method, r.headers, r.body⟩

/-- The redirects that a request follows, given the heads that it hears. -/
def Request.hops (r : Request) (settings : Settings) (heads : List Head) : List Redirect.Hop :=
  Redirect.trail (r.redirect.getD settings.redirectPolicy) r.url heads

namespace Exchange

/-- An exchange has of its request what the heads that it heard have left, and is done with all
credentials but those that answer the last head. -/
structure Keeps (settings : Settings) (r : Request) (heads : List Head)
    (answer : Option HeaderValue) (x : Exchange) : Prop where
  policy : x.policy = r.redirect.getD settings.redirectPolicy
  visited : x.isRunning = true → x.visited = Redirect.visited r.url (r.hops settings heads)
  content : x.content = Redirect.carried settings.strict302 r.content (r.hops settings heads)
  realm : x.realm = Redirect.trusted (r.realm.or settings.realm) (r.hops settings heads)
  prepares : ∀ header, x.Prepares header → answer = some header ∧
    ∃ realm, x.realm = some realm ∧ realm.Signs x.content.method x.url.originForm header

variable {x y : Exchange} {s : Shared} {settings : Settings} {r : Request} {heads : List Head}
  {answer : Option HeaderValue} {notes : List Note} {l : Lease} {limit : Option Nat} {head : Head}
  {j : Journal} {id : ExchangeId}

/-- A request that was just submitted is what the caller asked for. -/
theorem Keeps.ofRequest (r : Request) (delivery : Option Delivery) :
    (Exchange.ofRequest s r delivery).Keeps s.settings r [] none where
  policy := rfl
  visited _ := rfl
  content := rfl
  realm := rfl
  prepares := by rintro header (⟨p, hpending, -⟩ | hanswer) <;> contradiction

/-- An exchange that waits for a head is at the current URL. -/
theorem Keeps.url (hx : x.Keeps settings r heads answer) (hphase : x.phase = .sending l limit) :
    x.history ++ [x.url] = Redirect.visited r.url (r.hops settings heads) ∧
      x.url = Redirect.current r.url (r.hops settings heads) := by
  have hvisited := hx.visited (running hphase rfl)
  rw [visited_eq rfl hphase] at hvisited
  exact ⟨hvisited, Redirect.current_of_visited hvisited⟩

/-- The redirect that an exchange follows is the next one on the trail. -/
theorem Keeps.hops_concat (hx : x.Keeps settings r heads answer)
    (hphase : x.phase = .sending l limit) (head : Head) :
    r.hops settings (heads ++ [head]) = r.hops settings heads ++ (x.hop? head).toList := by
  obtain ⟨hvisited, hurl⟩ := hx.url hphase
  rw [Request.hops, Redirect.trail_concat, hop?, hvisited, hurl, hx.policy]
  rfl

/-- An answer to a challenge is good for the request that was challenged. -/
theorem signs_of_judged {header : HeaderValue} {keep : Bool} (hx : x.Negotiates)
    (hphase : x.phase = .sending l limit)
    (h : (x.judged s l head).1 = some (.retry header keep)) :
    ∃ realm, x.realm = some realm ∧ realm.Signs x.content.method x.url.originForm header := by
  unfold judged at h
  split at h
  · cases h
  · rename_i realm hrealm
    have hscheme := hx realm hrealm (by rw [hphase]; rfl)
    split at h
    · rcases hanswer : x.negotiator.onChallenge
        (Challenge.ofValues (head.headers.values realm.target.challengeHeader)) realm
        (x.authRequest l.target) s.supply with ⟨action, next, rest⟩
      simp only [hanswer, Option.some.injEq] at h
      subst h
      have hsigns := Negotiator.signs_of_onChallenge hscheme hanswer
      exact ⟨realm, hrealm, hsigns⟩
    · cases h

/-- Every stride leaves an exchange with what the heads so far have left. -/
theorem Keeps.stride (hx : x.Keeps s.settings r (j.heads id) (j.answer? id))
    (hnegotiates : x.Negotiates) (hstride : x.Stride s notes y) :
    y.Keeps s.settings r (Journal.heads (j ++ notes.map (Prod.mk id)) id)
      (Journal.answer? (j ++ notes.map (Prod.mk id)) id) := by
  cases hstride with
  | go habides hnotes hvisited hprepares =>
    obtain ⟨hheads, hanswer⟩ := Journal.heads_of_silent j id id notes fun _ => hnotes
    rw [hheads, hanswer]
    refine ⟨habides.policy.trans hx.policy, fun hrunning => ?_, habides.content.trans hx.content,
      habides.realm.trans hx.realm, fun header hheader => ?_⟩
    · obtain ⟨hbefore, hsame⟩ := hvisited hrunning
      rw [hsame, hx.visited hbefore]
    · obtain ⟨hbefore, hurl⟩ := hprepares header hheader
      rw [habides.realm, habides.content, hurl]
      exact hx.prepares header hbefore
  | @hear l limit head hphase hnotes hhop habides hvisited hurl hprepares =>
    subst hnotes
    obtain ⟨hheads, hanswer⟩ := Journal.heads_concat_headNote j id x s l head
    rw [hheads, hanswer]
    have hhops : r.hops s.settings (j.heads id ++ [head]) = r.hops s.settings (j.heads id) := by
      rw [hx.hops_concat hphase, hhop, Option.toList_none, List.append_nil]
    refine ⟨habides.policy.trans hx.policy, fun hrunning => ?_, ?_, ?_, fun header hheader => ?_⟩
    · rw [hhops, hvisited hrunning, hx.visited (running hphase rfl)]
    · rw [hhops, habides.content, hx.content]
    · rw [hhops, habides.realm, hx.realm]
    · obtain ⟨keep, hjudged⟩ := hprepares header hheader
      rw [habides.realm, habides.content, hurl, hjudged]
      exact ⟨rfl, signs_of_judged hnegotiates hphase hjudged⟩
  | @hop l limit head hop hphase hnotes hhop hpolicy hcontent hrealm hvisited hprepares =>
    subst hnotes
    obtain ⟨hheads, -⟩ := Journal.heads_concat_headNote j id x s l head
    rw [hheads]
    have hhops : r.hops s.settings (j.heads id ++ [head]) =
        r.hops s.settings (j.heads id) ++ [hop] := by
      rw [hx.hops_concat hphase, hhop, Option.toList_some]
    refine ⟨hpolicy.trans hx.policy, fun _ => ?_, ?_, ?_, fun header hheader => ?_⟩
    · rw [hhops, Redirect.visited_concat, hvisited, hx.visited (running hphase rfl)]
    · rw [hhops, Redirect.carried_concat, hcontent, hx.content]
    · rw [hhops, Redirect.trusted_concat, hrealm, hx.realm]
    · exact absurd hheader (hprepares header)

end Exchange

/-- A message is made from what the heads that its request heard have left, and from credentials
that are attached to it. -/
structure Posted (settings : Settings) (r : Request) (earlier : Journal) (id : ExchangeId)
    (message : Message) (after : Exchange) : Prop where
  keeps : after.Keeps settings r (earlier.heads id) (earlier.answer? id)
  negotiates : after.Negotiates
  made : ∃ l limit credentials, after.phase = .sending l limit ∧
    Target.ofUrl after.url = .ok l.target ∧
    message = after.message settings l.target credentials ∧ Attaches l.target after credentials

namespace Posted

variable {settings : Settings} {r : Request} {earlier : Journal} {id : ExchangeId}
  {message : Message} {after : Exchange} {target : Target} {realm : Realm} {header : HeaderValue}

/-- A message goes out to the current URL. -/
theorem url (h : Posted settings r earlier id message after) :
    after.history ++ [after.url] =
        Redirect.visited r.url (r.hops settings (earlier.heads id)) ∧
      after.url = Redirect.current r.url (r.hops settings (earlier.heads id)) := by
  obtain ⟨l, limit, credentials, hphase, -⟩ := h.made
  exact h.keeps.url hphase

/-- Pending credentials answer the last head. -/
theorem pending {p : PendingAuth} (h : Posted settings r earlier id message after)
    (hpending : after.pending = some p) : earlier.answer? id = some p.header :=
  (h.keeps.prepares p.header (Or.inl ⟨p, hpending, rfl⟩)).1

/-- The credentials that are attached to a message are good for it. -/
theorem signs (h : Posted settings r earlier id message after) (hrealm : after.realm = some realm)
    (hattaches : Attaches target after (some header)) :
    realm.Signs after.content.method after.url.originForm header := by
  generalize hvalue : some header = value at hattaches
  cases hattaches with
  | stranger => cases hvalue
  | bare => cases hvalue
  | @pending _ p _ hpending =>
    obtain rfl := Option.some.inj hvalue
    obtain ⟨-, realm', hsame, hsigns⟩ := h.keeps.prepares p.header (Or.inl ⟨p, hpending, rfl⟩)
    obtain rfl := Option.some.inj (hrealm.symm.trans hsame)
    exact hsigns
  | @unasked realm' supply rest header' n hsame hpending hshould hpreempt =>
    obtain rfl := Option.some.inj hvalue
    obtain rfl := Option.some.inj (hrealm.symm.trans hsame)
    obtain ⟨l, limit, credentials, hphase, -⟩ := h.made
    have hstate := h.negotiates realm hrealm (by rw [hphase]; rfl)
    have hscheme := Negotiator.scheme?_preempt n realm (after.authRequest target) supply
    rw [hpreempt, hstate] at hscheme
    have hsigns := Negotiator.signs_of_preempt hscheme.symm hpreempt
    exact hsigns

end Posted

namespace Snapshot

open Exchange

/-- An exchange that began with a request has what the heads so far have left of it, and so had
every message of it. -/
structure Follows (settings : Settings) (r : Request) (id : ExchangeId) (a : Snapshot) : Prop where
  keeps : ∃ x, a.client.exchange? id = some x ∧
    x.Keeps settings r (a.journal.heads id) (a.journal.answer? id)
  posted : a.journal.All fun earlier entry => ∀ transport message after,
    entry = (id, .sent transport message after) → Posted settings r earlier id message after

variable {settings : Settings} {supply : Supply} {r : Request} {a b : Snapshot} {c : Client}
  {id k : ExchangeId} {h h' : Hand} {j : Journal} {x y : Exchange} {t : Shared}
  {notes : List Note}

/-- The journal knows only exchanges that there are. -/
theorem Reachable.numbered (h : Reachable settings supply a) :
    ∀ entry ∈ a.journal, entry.1 < a.client.exchanges.length := by
  induction h with
  | start => exact fun entry hentry => absurd hentry List.not_mem_nil
  | next _ hstep ih =>
    cases hstep with
    | turn | world => exact ih
    | @move c id h j x notes y t h' hx hmove =>
      obtain ⟨hid, -⟩ := List.getElem?_eq_some_iff.mp hx
      intro entry hentry
      simp only [Client.put, List.length_set]
      rcases List.mem_append.mp hentry with hold | hnew
      · exact ih entry hold
      · obtain ⟨note, -, rfl⟩ := List.mem_map.mp hnew
        exact hid
    | submit request delivery =>
      intro entry hentry
      rw [List.length_append]
      exact Nat.lt_add_right _ (ih entry hentry)

/-- A message that an exchange sends is made from what it has. -/
theorem posted_of_sends {s : Shared} {transport : TransportId} {message : Message}
    {after : Exchange}
    (hkeeps : after.Keeps s.settings r (j.heads id) (j.answer? id))
    (hnegotiates : after.Negotiates) (hsends : x.Sends s h transport message after) :
    Posted s.settings r j id message after := by
  cases hsends with
  | @intro l message y t z u limit hurl hbind hcompose =>
    obtain ⟨hframe, hshared⟩ := attempt_frame hbind hcompose
    obtain ⟨credentials, hmessage, hattaches⟩ := attaches_of_compose (.sending l limit) hcompose
    refine ⟨hkeeps, hnegotiates, l, limit, credentials, rfl, ?_, ?_, hattaches⟩
    · rw [hframe]
      exact hurl
    · rw [hmessage, hshared]
      rfl

/-- A move of the exchange of a request is a stride on its trail. -/
theorem Follows.stride (ha : Follows settings r id ⟨c, id, h, j⟩)
    (hreach : Reachable settings supply ⟨c, id, h, j⟩) (hx : c.exchange? id = some x)
    (hmove : Move ⟨x, c.shared, h⟩ notes ⟨y, t, h'⟩) :
    Follows settings r id ⟨c.put id y t, id, h', j ++ notes.map (Prod.mk id)⟩ := by
  have hsound := hreach.sound
  have hsettings : c.shared.settings = settings := hreach.bound.configured
  have hy : (c.put id y t).exchange? id = some y := Client.exchange?_put_self hx
  have hnegotiates := ((hreach.next (.move hx hmove)).bound.binds id y hy).negotiates
  obtain ⟨htidy, haims⟩ := hsound.actor hx
  obtain ⟨z, hz, hkeeps⟩ := ha.keeps
  obtain rfl : x = z := Option.some.inj (hx.symm.trans hz)
  rw [← hsettings] at hkeeps
  have hkept := hkeeps.stride (hreach.bound.binds id x hx).negotiates (stride_of_move htidy hmove)
  rw [hsettings] at hkept
  refine ⟨⟨y, hy, hkept⟩, Place.all_of_turn ha.posted id (hsound.turn hx hmove).1 ?_⟩
  intro note hnote transport message after hentry
  obtain rfl := (Prod.mk.inj hentry).2
  obtain ⟨hsends, rfl⟩ := sends_of_conduct haims (conduct_of_move htidy hmove) hnote
  -- What is noted as sent is all that is noted, so what the exchange heard is what it heard before.
  obtain rfl : notes = [.sent transport message after] := by
    rcases Place.notes_of_turn (hsound.turn hx hmove).1 with rfl | ⟨note, rfl⟩
    · cases hnote
    · rw [List.mem_singleton.mp hnote]
  obtain ⟨hheads, hanswer⟩ := Journal.heads_of_silent j id id [.sent transport message after]
    fun _ => List.forall_mem_singleton.mpr rfl
  rw [hheads, hanswer, ← hsettings] at hkept
  rw [← hsettings]
  exact posted_of_sends hkept hnegotiates hsends

/-- A move of another exchange leaves a request on its trail. -/
theorem Follows.others (ha : Follows settings r id ⟨c, k, h, j⟩)
    (hreach : Reachable settings supply ⟨c, k, h, j⟩) (hk : k ≠ id) (hx : c.exchange? k = some x)
    (hmove : Move ⟨x, c.shared, h⟩ notes ⟨y, t, h'⟩) :
    Follows settings r id ⟨c.put k y t, k, h', j ++ notes.map (Prod.mk k)⟩ := by
  obtain ⟨z, hz, hkeeps⟩ := ha.keeps
  obtain ⟨hheads, hanswer⟩ :=
    Journal.heads_of_silent j id k notes fun hsame => absurd hsame hk
  refine ⟨⟨z, (Client.exchange?_put_of_ne (Ne.symm hk)).trans hz, ?_⟩, ?_⟩
  · change z.Keeps settings r (Journal.heads (j ++ notes.map (Prod.mk k)) id)
      (Journal.answer? (j ++ notes.map (Prod.mk k)) id)
    rw [hheads, hanswer]
    exact hkeeps
  · refine Place.all_of_turn ha.posted k (hreach.sound.turn hx hmove).1 ?_
    intro note hnote transport message after hentry
    exact absurd (Prod.mk.inj hentry).1 hk

/-- What happens to a client leaves a request on its trail. -/
theorem Follows.step (ha : Follows settings r id a) (hreach : Reachable settings supply a)
    (hstep : Step a b) : Follows settings r id b := by
  cases hstep with
  | turn | world => exact ⟨ha.keeps, ha.posted⟩
  | @submit c k j request delivery =>
    obtain ⟨x, hx, hkeeps⟩ := ha.keeps
    refine ⟨⟨x, ?_, hkeeps⟩, ha.posted⟩
    obtain ⟨hid, -⟩ := List.getElem?_eq_some_iff.mp hx
    exact (List.getElem?_append_left hid).trans hx
  | @move c k h j x notes y t h' hx hmove =>
    by_cases hk : k = id
    · subst hk
      exact ha.stride hreach hx hmove
    · exact ha.others hreach hk hx hmove

end Snapshot

namespace Client

open Snapshot Exchange

/-- Whatever happens, a request that was submitted stays on its trail. -/
theorem follows_run (settings : Settings) (supply : Supply) (before events : List Event)
    (r : Request) (consumer : Option Consumer) :
    let id := ((Client.make settings supply).run before).exchanges.length
    let whole := before ++ .submit r consumer :: events
    Follows settings r id ⟨(Client.make settings supply).run whole, 0, .empty,
      (Client.make settings supply).journal whole⟩ := by
  intro id whole
  have hkept : IsKept fun a => Reachable settings supply a ∧ Follows settings r id a :=
    fun a b h hstep => ⟨h.1.next hstep, h.2.step h.1 hstep⟩
  have hbefore := reachable_run settings supply before
  have hunknown : ∀ entry ∈ (Client.make settings supply).journal before, entry.1 ≠ id :=
    fun entry hentry => Nat.ne_of_lt (hbefore.numbered entry hentry)
  have hsubmitted := hbefore.next
    (.submit r (consumer.map fun consumer => { consumer := consumer }))
  have hbegun : Follows settings r id
      ⟨((Client.make settings supply).run before).step (.submit r consumer), 0, .empty,
        (Client.make settings supply).journal before⟩ := by
    refine ⟨⟨_, List.getElem?_concat_length, ?_⟩, ?_⟩
    · obtain ⟨hheads, hanswer⟩ := Journal.heads_of_unknown hunknown
      have hsettings : ((Client.make settings supply).run before).shared.settings = settings :=
        hbefore.bound.configured
      have hkeeps := Keeps.ofRequest (s := ((Client.make settings supply).run before).shared) r
        (consumer.map fun consumer => { consumer := consumer })
      rw [hsettings] at hkeeps
      change Keeps settings r (((Client.make settings supply).journal before).heads id)
        (((Client.make settings supply).journal before).answer? id) _
      rw [hheads, hanswer]
      exact hkeeps
    · rintro earlier entry later hsplit transport message after rfl
      refine absurd rfl (hunknown (id, .sent transport message after) ?_)
      change (Client.make settings supply).journal before = _ at hsplit
      rw [hsplit]
      exact List.mem_append_right _ List.mem_cons_self
  have hrun := (hkept.run events ⟨hsubmitted, hbegun⟩).2
  simp only [whole, run_append, journal_append]
  exact hrun

/-- Credentials never return. Once a request has followed a redirect to another host or port, no
message of it has any of the caller's credentials under their names, and none that a realm gives:
there is no realm any more, nothing is pending, and all that goes out is what is left of the
caller's content and what every request has. -/
theorem nothing_returns (settings : Settings) (supply : Supply) (before events : List Event)
    (r : Request) (consumer : Option Consumer) :
    let id := ((Client.make settings supply).run before).exchanges.length
    let whole := before ++ .submit r consumer :: events
    (((Client.make settings supply).run whole).shared.actions.filter Action.isSaid =
      ((Client.make settings supply).journal whole).filterMap (·.2.action?)) ∧
    ∀ (earlier : Journal) transport message after later,
      (Client.make settings supply).journal whole =
        earlier ++ (id, .sent transport message after) :: later →
      let hops := r.hops settings (earlier.heads id)
      after.history ++ [after.url] = Redirect.visited r.url hops ∧
      ∀ hop ∈ hops, (hop.next.hostText? ≠ hop.source.hostText? ∨
          hop.next.effectivePort? ≠ hop.source.effectivePort?) →
        (∀ name ∈ ["authorization", "cookie", "cookie2", "proxy-authorization"],
          message.headers.values name = []) ∧
        after.realm = none ∧ after.pending = none ∧
        ∃ target, ∀ name, message.headers.values name =
          (Redirect.carried settings.strict302 r.content hops).outgoing settings target none none
            name := by
  intro id whole
  have hreach := reachable_run settings supply whole
  refine ⟨hreach.actions, fun earlier transport message after later hsplit => ?_⟩
  intro hops
  have hposted := (follows_run settings supply before events r consumer).posted earlier _ later
    hsplit transport message after rfl
  refine ⟨hposted.url.1, fun hop hhop hdiffers => ?_⟩
  have hcross : hops.any Redirect.Hop.isCross = true := by
    refine List.any_eq_true.mpr ⟨hop, hhop, ?_⟩
    rw [Redirect.Hop.isCross, Redirect.isCrossHost, Bool.or_eq_true, bne_iff_ne, bne_iff_ne]
    exact hdiffers
  have hrealm : after.realm = none := by
    have htrusted := hposted.keeps.realm
    rwa [Redirect.trusted, if_pos hcross] at htrusted
  obtain ⟨l, limit, credentials, hphase, hurl, hmessage, hattaches⟩ := hposted.made
  have hvalues : ∀ name, message.headers.values name =
      (Redirect.carried settings.strict302 r.content hops).outgoing settings l.target none none
        name := by
    intro name
    rw [hmessage, values_message, hrealm, hposted.keeps.content]
    rfl
  refine ⟨fun name hname => ?_, hrealm, ?_, l.target, hvalues⟩
  · have hsensitive : name ∈ Redirect.sensitiveHeaders :=
      List.mem_append_left ["www-authenticate"] hname
    rw [hvalues]
    exact Redirect.Content.outgoing_of_sensitive settings l.target hsensitive
      (Redirect.values_carried_of_cross hsensitive hcross)
  · rw [Option.eq_none_iff_forall_ne_some]
    intro p hpending
    obtain ⟨-, realm, hsome, -⟩ := hposted.keeps.prepares p.header (Or.inl ⟨p, hpending, rfl⟩)
    rw [hrealm] at hsome
    cases hsome

end Client

end HttpClient
