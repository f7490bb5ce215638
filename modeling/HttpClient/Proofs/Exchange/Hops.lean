import HttpClient.Exchange.Step

/-!
# The redirects of a request

Which redirects a request follows is settled by the heads that it hears, one after the other, and
by its policy. The redirects followed so far settle the current URL, what is left of the caller's
content, and whether there are credentials still.
-/

namespace HttpClient

namespace Redirect

/-- A redirect that is followed. -/
structure Hop where
  status : Status
  /-- The URL that answered with the redirect. -/
  source : Url
  next : Url
  deriving DecidableEq, Repr

/-- The redirect in a head that a policy follows; `previous` are the URLs requested so far, with
the current one last. -/
def hop? (policy : RedirectPolicy) (previous : List Url) (url : Url) (head : Head) : Option Hop :=
  if head.status ∈ [301, 302, 303, 307, 308] then do
    let location ← head.headers.first? "location"
    let text ← location.text?
    let next ← (url.join text).toOption
    if next.isHttp && policy.check head.status next previous = .follow then
      some ⟨head.status, url, next⟩
    else none
  else none

/-- The URLs requested so far. -/
def visited (start : Url) (hops : List Hop) : List Url := start :: hops.map Hop.next

/-- The current URL. -/
def current (start : Url) (hops : List Hop) : Url := (hops.map Hop.next).getLast?.getD start

/-- The redirects followed after one more head. -/
def follow (policy : RedirectPolicy) (start : Url) (hops : List Hop) (head : Head) : List Hop :=
  hops ++ (hop? policy (visited start hops) (current start hops) head).toList

/-- The redirects that a request follows, given the heads that it hears. -/
def trail (policy : RedirectPolicy) (start : Url) (heads : List Head) : List Hop :=
  heads.foldl (follow policy start) []

/-- True for a redirect to another host or port. -/
def Hop.isCross (hop : Hop) : Bool := isCrossHost hop.next hop.source

/-- What a redirect leaves of the content of a request. -/
def Hop.carry (strict302 : Bool) (c : Content) (hop : Hop) : Content :=
  let adjusted := adjust hop.status strict302 c
  { adjusted with headers := dropSensitive adjusted.headers hop.next hop.source }

/-- What redirects leave of the content of a request. -/
def carried (strict302 : Bool) (c : Content) (hops : List Hop) : Content :=
  hops.foldl (Hop.carry strict302) c

/-- What redirects leave of the realm of a request. -/
def trusted (realm : Option Realm) (hops : List Hop) : Option Realm :=
  if hops.any Hop.isCross then none else realm

section

variable {policy : RedirectPolicy} {start url : Url} {hops : List Hop} {hop : Hop} {head : Head}
  {previous : List Url} {strict302 : Bool} {c : Content}

@[simp] theorem trail_concat (heads : List Head) :
    trail policy start (heads ++ [head]) =
      follow policy start (trail policy start heads) head := by
  rw [trail, List.foldl_append]
  rfl

@[simp] theorem carried_concat (strict302 : Bool) (c : Content) (hops : List Hop) (hop : Hop) :
    carried strict302 c (hops ++ [hop]) = hop.carry strict302 (carried strict302 c hops) := by
  rw [carried, List.foldl_append]
  rfl

@[simp] theorem trusted_concat (realm : Option Realm) (hops : List Hop) (hop : Hop) :
    trusted realm (hops ++ [hop]) = if hop.isCross then none else trusted realm hops := by
  simp only [trusted, List.any_append, List.any_cons, List.any_nil, Bool.or_false]
  cases hop.isCross <;> simp

@[simp] theorem visited_concat (start : Url) (hops : List Hop) (hop : Hop) :
    visited start (hops ++ [hop]) = visited start hops ++ [hop.next] := by
  simp only [visited, List.map_append, List.map_singleton, List.cons_append]

/-- The current URL is the last of those requested so far. -/
theorem current_of_visited {history : List Url} (h : history ++ [url] = visited start hops) :
    url = current start hops := by
  have hlast := congrArg List.getLast? h
  rw [List.getLast?_concat, visited, List.getLast?_cons] at hlast
  exact Option.some.inj hlast

/-- A redirect with a location is followed where the policy says so about the URL. -/
theorem hop?_of_location (x : Exchange) {location : HeaderValue}
    (hstatus : isRedirectStatus head.status = true)
    (hlocation : head.headers.first? "location" = some location) :
    hop? policy previous x.url head = (x.redirectUrl location).toOption.bind fun next =>
      if next.isHttp && policy.check head.status next previous = .follow then
        some ⟨head.status, x.url, next⟩
      else none := by
  have hurl : (x.redirectUrl location).toOption =
      location.text?.bind fun text => (x.url.join text).toOption := by
    unfold Exchange.redirectUrl
    cases location.text? with
    | none => rfl
    | some text =>
      change ((x.url.join text).mapError Cause.badUrl).toOption = (x.url.join text).toOption
      cases x.url.join text <;> rfl
  rw [hop?, if_pos ((isRedirectStatus_iff _).mp hstatus), hlocation, hurl, Option.bind_assoc]
  rfl

/-- A challenge is no redirect. -/
theorem hop?_of_challenge {realm : Realm} (h : head.status = realm.target.challengeStatus) :
    hop? policy previous url head = none := by
  have hstatus : head.status ∉ [301, 302, 303, 307, 308] := by
    rw [h]
    cases realm.target <;> decide
  rw [hop?, if_neg hstatus]

/-- What is no redirect is not followed, and the policy that leaves redirects to the caller follows
none. -/
theorem hop?_of_unfollowed (h : ¬(isRedirectStatus head.status && policy.isFollow) = true) :
    hop? policy previous url head = none := by
  by_cases hstatus : isRedirectStatus head.status = true
  · have hpolicy : policy = .none := by
      cases policy with
      | none => rfl
      | limited | custom => exact absurd (by rw [hstatus]; rfl) h
    subst hpolicy
    simp only [hop?, (isRedirectStatus_iff _).mp hstatus, RedirectPolicy.check, if_true]
    simp
  · rw [hop?, if_neg (mt (isRedirectStatus_iff _).mpr hstatus)]

/-- A head without a location is no redirect that is followed. -/
theorem hop?_of_unlocated (h : head.headers.first? "location" = none) :
    hop? policy previous url head = none := by
  rw [hop?, h]
  exact ite_self _

/-- No redirect brings a header back that is gone. -/
theorem values_carry {name : String} (h : c.headers.values name = []) :
    (hop.carry strict302 c).headers.values name = [] := by
  have hadjusted : (adjust hop.status strict302 c).headers.values name = [] := by
    unfold adjust
    split
    · rw [Fields.values_eraseAll, h, ite_self]
    · exact h
  unfold Hop.carry dropSensitive
  dsimp only
  split
  · rw [Fields.values_eraseAll, hadjusted, ite_self]
  · exact hadjusted

theorem values_carried {name : String} (hops : List Hop) (h : c.headers.values name = []) :
    (carried strict302 c hops).headers.values name = [] := by
  induction hops generalizing c with
  | nil => exact h
  | cons hop hops ih => exact ih (values_carry h)

/-- After a redirect to another host or port nothing is left under the names that carry credentials,
whatever redirects follow. -/
theorem values_carried_of_cross {name : String} (hname : name ∈ sensitiveHeaders)
    (hcross : hops.any Hop.isCross = true) :
    (carried strict302 c hops).headers.values name = [] := by
  induction hops generalizing c with
  | nil => cases hcross
  | cons hop hops ih =>
    rw [List.any_cons, Bool.or_eq_true] at hcross
    rcases hcross with hnow | hlater
    · have hgone : (hop.carry strict302 c).headers.values name = [] := by
        rw [Hop.isCross] at hnow
        simp only [Hop.carry, dropSensitive, hnow, if_true, Fields.values_eraseAll, hname]
      exact values_carried hops hgone
    · exact ih hlater

end

end Redirect

end HttpClient
