import HttpClient.Proofs.Client.Itinerary

/-!
# Redirects one after the other

What a chain of redirects leaves of a request does not depend on their order. It matters only
whether one of them turns the request into a plain fetch, and whether one leads to another host or
port.
-/

namespace HttpClient

namespace Fields

theorem eraseAll_nil (f : Fields) : f.eraseAll [] = f := by
  simp [eraseAll]

theorem eraseAll_eraseAll (f : Fields) (names more : List String) :
    (f.eraseAll names).eraseAll more = f.eraseAll (names ++ more) := by
  simp only [eraseAll, List.filter_filter, List.mem_append, not_or, Bool.decide_and, Bool.and_comm]

/-- It matters only which names are removed. -/
theorem eraseAll_congr (f : Fields) {names others : List String}
    (h : ∀ name, name ∈ names ↔ name ∈ others) : f.eraseAll names = f.eraseAll others := by
  simp only [eraseAll, h]

end Fields

namespace Redirect

/-- A redirect that is followed, under a setting for the status 302. -/
structure Leg where
  hop : Hop
  strict302 : Bool
  deriving DecidableEq, Repr

/-- True where the request becomes a plain fetch. -/
def Leg.switches (leg : Leg) : Bool := switchesToGet leg.hop.status leg.strict302

/-- True where the request goes to another host or port. -/
def Leg.crosses (leg : Leg) : Bool := leg.hop.isCross

/-- What legs leave of a content, one after the other. -/
def travel (c : Content) (legs : List Leg) : Content :=
  legs.foldl (fun c leg => leg.hop.carry leg.strict302 c) c

/-- The method of a plain fetch. -/
def fetchMethod (method : Method) : Method := if method = "HEAD" then "HEAD" else "GET"

/-- The headers that go where the request becomes a plain fetch, and where it leaves its host. -/
def lost (switches crosses : Bool) : List String :=
  (if switches then bodyHeaders else []) ++ if crosses then sensitiveHeaders else []

/-- A content without what is lost. -/
def stripped (switches crosses : Bool) (c : Content) : Content where
  method := if switches then fetchMethod c.method else c.method
  headers := c.headers.eraseAll (lost switches crosses)
  body := if switches then none else c.body

section

variable {legs others : List Leg} {leg : Leg} {c : Content} {name : String}

theorem carry_eq_stripped (leg : Leg) (c : Content) :
    leg.hop.carry leg.strict302 c = stripped leg.switches leg.crosses c := by
  unfold Hop.carry adjust dropSensitive stripped lost Leg.switches Leg.crosses Hop.isCross
  cases switchesToGet leg.hop.status leg.strict302 <;>
    cases isCrossHost leg.hop.next leg.hop.source <;>
    simp [Fields.eraseAll_nil, Fields.eraseAll_eraseAll, fetchMethod]

theorem fetchMethod_fetchMethod (method : Method) :
    fetchMethod (fetchMethod method) = fetchMethod method := by
  unfold fetchMethod
  split <;> rfl

theorem mem_lost {switches crosses : Bool} : name ∈ lost switches crosses ↔
    switches = true ∧ name ∈ bodyHeaders ∨ crosses = true ∧ name ∈ sensitiveHeaders := by
  cases switches <;> cases crosses <;> simp [lost]

/-- What is lost twice is lost as if it were once. -/
theorem stripped_stripped (switches crosses switches' crosses' : Bool) (c : Content) :
    stripped switches crosses (stripped switches' crosses' c) =
      stripped (switches' || switches) (crosses' || crosses) c := by
  have hheaders : (c.headers.eraseAll (lost switches' crosses')).eraseAll (lost switches crosses) =
      c.headers.eraseAll (lost (switches' || switches) (crosses' || crosses)) := by
    rw [Fields.eraseAll_eraseAll]
    refine Fields.eraseAll_congr _ fun name => ?_
    simp only [List.mem_append, mem_lost, Bool.or_eq_true]
    tauto
  unfold stripped
  rw [hheaders]
  cases switches <;> cases switches' <;> simp [fetchMethod_fetchMethod]

theorem stripped_false (c : Content) : stripped false false c = c := by
  simp [stripped, lost, Fields.eraseAll_nil]

/-- A chain leaves what one leg would that does all that any of its legs does. -/
theorem travel_eq_stripped (c : Content) (legs : List Leg) :
    travel c legs = stripped (legs.any Leg.switches) (legs.any Leg.crosses) c := by
  induction legs generalizing c with
  | nil => exact (stripped_false c).symm
  | cons leg legs ih =>
    calc travel c (leg :: legs)
        = travel (stripped leg.switches leg.crosses c) legs := by
          rw [← carry_eq_stripped]
          rfl
      _ = stripped (leg.switches || legs.any Leg.switches) (leg.crosses || legs.any Leg.crosses)
            c := by rw [ih, stripped_stripped]

/-- What a chain leaves hangs on its legs, but neither on their order nor on their number. -/
theorem travel_congr (c : Content) (h : ∀ leg, leg ∈ others ↔ leg ∈ legs) :
    travel c others = travel c legs := by
  have hany : ∀ p : Leg → Bool, others.any p = legs.any p := fun p => by
    rw [Bool.eq_iff_iff, List.any_eq_true, List.any_eq_true]
    simp only [h]
  rw [travel_eq_stripped, travel_eq_stripped, hany, hany]

theorem travel_append (c : Content) (legs others : List Leg) :
    travel c (legs ++ others) = travel (travel c legs) others :=
  List.foldl_append

/-- The redirects that a request follows are legs under the one setting of its client. -/
theorem carried_eq_travel (strict302 : Bool) (c : Content) (hops : List Hop) :
    carried strict302 c hops = travel c (hops.map (⟨·, strict302⟩)) := by
  rw [carried, travel, List.foldl_map]

/-- Some leg is answered by a plain fetch. -/
def SomeSwitch (legs : List Leg) : Prop :=
  ∃ leg ∈ legs, leg.hop.status = 301 ∨ leg.hop.status = 303 ∨
    leg.hop.status = 302 ∧ leg.strict302 = false

/-- Some leg goes to another host or port. -/
def SomeCross (legs : List Leg) : Prop :=
  ∃ leg ∈ legs, leg.hop.next.hostText? ≠ leg.hop.source.hostText? ∨
    leg.hop.next.effectivePort? ≠ leg.hop.source.effectivePort?

theorem any_switches_iff : legs.any Leg.switches = true ↔ SomeSwitch legs := by
  simp only [List.any_eq_true, SomeSwitch, Leg.switches, switchesToGet, Bool.or_eq_true,
    Bool.and_eq_true, beq_iff_eq, Bool.not_eq_true', or_assoc]

theorem any_crosses_iff : legs.any Leg.crosses = true ↔ SomeCross legs := by
  simp only [List.any_eq_true, SomeCross, Leg.crosses, Hop.isCross, isCrossHost, Bool.or_eq_true,
    bne_iff_ne]

/-- What legs leave. If one of them is answered by a plain fetch there is no body any more, and none
of its headers; if one goes to another host or port there are no credentials. Every other header
keeps its values. -/
structure Leaves (legs : List Leg) (before after : Content) : Prop where
  fetched : SomeSwitch legs → after.method = fetchMethod before.method ∧ after.body = none ∧
    ∀ name ∈ bodyHeaders, after.headers.values name = []
  resent : ¬ SomeSwitch legs → after.method = before.method ∧ after.body = before.body
  crossed : SomeCross legs → ∀ name ∈ sensitiveHeaders, after.headers.values name = []
  kept : ∀ name, (SomeSwitch legs → name ∉ bodyHeaders) →
    (SomeCross legs → name ∉ sensitiveHeaders) →
      after.headers.values name = before.headers.values name

theorem leaves_travel (legs : List Leg) (c : Content) : Leaves legs c (travel c legs) := by
  rw [travel_eq_stripped]
  refine ⟨fun hswitch => ?_, fun hswitch => ?_, fun hcross name hname => ?_,
    fun name hbody hsensitive => ?_⟩
  · have hany := any_switches_iff.mpr hswitch
    refine ⟨if_pos hany, if_pos hany, fun name hname => ?_⟩
    rw [stripped, Fields.values_eraseAll, if_pos (mem_lost.mpr (Or.inl ⟨hany, hname⟩))]
  · have hnone := mt any_switches_iff.mp hswitch
    exact ⟨if_neg hnone, if_neg hnone⟩
  · have hany := any_crosses_iff.mpr hcross
    rw [stripped, Fields.values_eraseAll, if_pos (mem_lost.mpr (Or.inr ⟨hany, hname⟩))]
  · rw [stripped, Fields.values_eraseAll, if_neg]
    rw [mem_lost, any_switches_iff, any_crosses_iff]
    rintro (⟨hswitch, hname⟩ | ⟨hcross, hname⟩)
    · exact hbody hswitch hname
    · exact hsensitive hcross hname

end

end Redirect

namespace Client

open Redirect

/-- A chain of redirects leaves of a content what its legs leave in whatever order: a chain in
another order leaves the same, and no leg takes anything more when it comes again. In every session
a request is left with what the redirects leave that it followed. -/
theorem travel_settled (c : Content) (legs : List Leg) (settings : Settings) (supply : Supply)
    (before events : List Event) (r : Request) (consumer : Option Consumer) :
    let id := ((Client.make settings supply).run before).exchanges.length
    let whole := before ++ .submit r consumer :: events
    Leaves legs c (travel c legs) ∧
      (∀ order, order.Perm legs → travel c order = travel c legs) ∧
      (∀ again, again ⊆ legs → travel (travel c legs) again = travel c legs) ∧
      ∃ x, ((Client.make settings supply).run whole).exchange? id = some x ∧
        Leaves ((r.hops settings (((Client.make settings supply).journal whole).heads id)).map
          (⟨·, settings.strict302⟩)) r.content x.content := by
  intro id whole
  refine ⟨leaves_travel legs c, fun order h => ?_, fun again h => ?_, ?_⟩
  · exact travel_congr c fun leg => h.mem_iff
  · rw [← travel_append]
    refine travel_congr c fun leg => ?_
    rw [List.mem_append]
    exact ⟨fun hleg => hleg.elim (fun hold => hold) fun hagain => h hagain, Or.inl⟩
  · obtain ⟨x, hx, hkeeps⟩ := (follows_run settings supply before events r consumer).keeps
    refine ⟨x, hx, ?_⟩
    rw [hkeeps.content, carried_eq_travel]
    exact leaves_travel _ _

/-- The start page of a host. -/
def startPage (host : String) : Url :=
  { scheme := "http", host := some (.domain host), path := .segments [""] }

/-- A redirect to another host that turns the request into a plain fetch. -/
def there : Leg := ⟨⟨303, startPage "a.example", startPage "b.example"⟩, false⟩

/-- A redirect back that keeps method and body. -/
def back : Leg := ⟨⟨307, startPage "b.example", startPage "a.example"⟩, true⟩

/-- A form and its credentials. -/
def form : Content where
  method := "POST"
  headers := ⟨[("content-type", .ofAscii "text/plain"), ("authorization", .ofAscii "secret"),
    ("accept", .ofAscii "*/*")]⟩
  body := some [112]

/-- There and back, in this order or the other and with one leg more, a form leaves a fetch. -/
theorem travel_there_and_back :
    [back, there].Perm [there, back] ∧ [back, back] ⊆ [there, back] ∧
      travel form [back, there] = travel form [there, back] ∧
      travel (travel form [there, back]) [back, back] = travel form [there, back] ∧
      travel form [there, back] = ⟨"GET", ⟨[("accept", .ofAscii "*/*")]⟩, none⟩ := by
  have hperm : [back, there].Perm [there, back] := by decide
  have hsub : [back, back] ⊆ [there, back] := by decide
  obtain ⟨-, horder, hagain, -⟩ := travel_settled form [there, back] {} {} [] []
    { method := "GET", url := startPage "a.example" } none
  exact ⟨hperm, hsub, horder _ hperm, hagain _ hsub, by decide +kernel⟩

end Client

end HttpClient
