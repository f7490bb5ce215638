import HttpClient.Proofs.Body.Events

/-!
# What the frames of a body say

The frames of a body and its ending are read as a list of items: one for each frame that carries
bytes, and one that ends the body. The list can be read off the frames as a whole, and the reader of
a connection goes through it item by item, whatever arrives meanwhile. Where a frame that is known
to be the last is followed by no bytes, the items are the bytes of all frames and the outcome.
-/

namespace HttpClient

/-- The bytes of a frame. -/
def Frame.bytes : Frame → Bytes
  | data bytes _ => bytes
  | trailers => []

/-- The bytes of a frame, if it has any. -/
def Frame.payload? (f : Frame) : Option Bytes := if f.bytes.isEmpty then none else some f.bytes

/-- True for a frame with which the end of the body is known. -/
def Frame.isEnd : Frame → Bool
  | data _ isLast => isLast
  | trailers => false

/-- True for an item that ends a body, well or not. -/
def BodyItem.isTerminal : BodyItem → Bool
  | data _ isLast => isLast
  | ended _ => true

@[simp] theorem Queued.isTerminal_ofItem (url : Url) (item : BodyItem) :
    (Queued.ofItem url item).isTerminal = item.isTerminal := by
  rcases item with ⟨bytes, isLast⟩ | (_ | _) <;> rfl

namespace Inbox

/-- The items that frames and an ending make up. -/
def itemsOf (ending : Option Ending) : List Frame → List BodyItem
  | [] => (ending.map .ended).toList
  | .trailers :: rest => itemsOf ending rest
  | .data bytes isLast :: rest =>
    if isLast then [.data bytes true]
    else if bytes.isEmpty then itemsOf ending rest
    else .data bytes false :: itemsOf ending rest

/-- The items that the body is made of, as far as it has arrived. -/
def items (i : Inbox) : List BodyItem := itemsOf i.ending i.frames

/-- The bytes of all frames that have some, frame by frame. -/
def payloads (i : Inbox) : List Bytes := i.frames.filterMap Frame.payload?

/-- The bytes of all frames. -/
def content (i : Inbox) : Bytes := i.frames.flatMap Frame.bytes

/-- How the body ended. -/
def outcome? (i : Inbox) : Option Ending :=
  if i.frames.any Frame.isEnd then some .complete else i.ending

/-- True for frames of which none has bytes after one with which the end is known. -/
def isHonest : List Frame → Bool
  | [] => true
  | f :: rest => (!f.isEnd || rest.all fun g => g.payload?.isNone) && isHonest rest

/-- What the items of a body are. -/
inductive Told (i : Inbox) : List BodyItem → Prop
  | begun (houtcome : i.outcome? = none) : Told i (i.payloads.map (.data · false))
  /-- The end is known with the last bytes, or with an empty frame. -/
  | last {parts bytes} (houtcome : i.outcome? = some .complete)
    (hparts : i.payloads = parts ++ if bytes.isEmpty then [] else [bytes]) :
    Told i (parts.map (.data · false) ++ [.data bytes true])
  | ended {ending} (houtcome : i.outcome? = some ending) :
    Told i (i.payloads.map (.data · false) ++ [.ended ending])

section Items

variable {ending : Option Ending} {frames rest : List Frame} {item : BodyItem}

/-- After an item that ends the body nothing that arrives counts. -/
theorem itemsOf_of_terminal (hitem : item ∈ itemsOf none frames) (hend : item.isTerminal = true)
    (ending : Option Ending) (more : List Frame) :
    itemsOf ending (frames ++ more) = itemsOf none frames := by
  induction frames with
  | nil => cases hitem
  | cons f frames ih =>
    cases f with
    | trailers => exact ih hitem
    | data bytes isLast =>
      cases isLast with
      | true => rfl
      | false =>
        by_cases hempty : bytes.isEmpty = true
        · simp only [List.cons_append, itemsOf, Bool.false_eq_true, if_false,
            if_pos hempty] at hitem ⊢
          exact ih hitem
        · simp only [List.cons_append, itemsOf, Bool.false_eq_true, if_false,
            if_neg hempty] at hitem ⊢
          rcases List.mem_cons.mp hitem with rfl | hitem
          · cases hend
          · rw [ih hitem]

/-- The item with bytes that is read next is the first, whatever arrives meanwhile. -/
theorem itemsOf_of_data {bytes : Bytes} {isLast : Bool}
    (hnext : nextItem ending frames = (some (.data bytes isLast), rest)) (later : Option Ending)
    (more : List Frame) :
    itemsOf later (frames ++ more) =
      .data bytes isLast :: if isLast then [] else itemsOf later (rest ++ more) := by
  induction frames with
  | nil =>
    simp only [nextItem, Prod.mk.injEq] at hnext
    cases ending <;> cases hnext.1
  | cons f frames ih =>
    cases f with
    | trailers => exact ih hnext
    | data found isEnd =>
      rw [nextItem] at hnext
      by_cases hskip : (found.isEmpty && !isEnd) = true
      · rw [if_pos hskip] at hnext
        rw [Bool.and_eq_true, Bool.not_eq_true'] at hskip
        simp only [List.cons_append, itemsOf, hskip.1, hskip.2, Bool.false_eq_true, if_false,
          if_true]
        exact ih hnext
      · rw [if_neg hskip] at hnext
        simp only [Prod.mk.injEq, Option.some.injEq, BodyItem.data.injEq] at hnext
        obtain ⟨⟨rfl, rfl⟩, rfl⟩ := hnext
        cases isEnd with
        | true => rfl
        | false =>
          simp only [Bool.not_false, Bool.and_true] at hskip
          simp only [List.cons_append, itemsOf, Bool.false_eq_true, if_false, if_neg hskip]

/-- Where no item with bytes is read next there is none: the ending is all that is left. -/
theorem itemsOf_of_ended {next : Option BodyItem} (hnext : nextItem ending frames = (next, rest))
    (hbytes : ∀ bytes isLast, next ≠ some (.data bytes isLast)) :
    next = ending.map .ended ∧ itemsOf ending frames = next.toList := by
  induction frames with
  | nil =>
    simp only [nextItem, Prod.mk.injEq] at hnext
    obtain ⟨rfl, -⟩ := hnext
    exact ⟨rfl, rfl⟩
  | cons f frames ih =>
    cases f with
    | trailers => exact ih hnext
    | data found isEnd =>
      rw [nextItem] at hnext
      by_cases hskip : (found.isEmpty && !isEnd) = true
      · rw [if_pos hskip] at hnext
        rw [Bool.and_eq_true, Bool.not_eq_true'] at hskip
        simp only [itemsOf, hskip.1, hskip.2, Bool.false_eq_true, if_false, if_true]
        exact ih hnext
      · rw [if_neg hskip] at hnext
        simp only [Prod.mk.injEq] at hnext
        exact absurd hnext.1.symm (hbytes found isEnd)

/-- Frames without bytes and without an end add nothing to what is told. -/
private theorem Told.skip {answer : Option Answer} {f : Frame} {items : List BodyItem}
    (h : Told ⟨answer, frames, ending⟩ items) (hbytes : f.payload? = none)
    (hend : f.isEnd = false) : Told ⟨answer, f :: frames, ending⟩ items := by
  have hpayloads : payloads ⟨answer, f :: frames, ending⟩ = payloads ⟨answer, frames, ending⟩ :=
    List.filterMap_cons_none hbytes
  have houtcome : outcome? ⟨answer, f :: frames, ending⟩ = outcome? ⟨answer, frames, ending⟩ := by
    simp only [outcome?, List.any_cons, hend, Bool.false_or]
  cases h with
  | begun hnone =>
    rw [← hpayloads]
    exact .begun (houtcome.trans hnone)
  | last hcomplete hparts => exact .last (houtcome.trans hcomplete) (hpayloads.trans hparts)
  | ended hsome =>
    rw [← hpayloads]
    exact .ended (houtcome.trans hsome)

/-- A frame with bytes that is not the last adds them to what is told. -/
private theorem Told.cons {answer : Option Answer} {bytes : Bytes} {items : List BodyItem}
    (h : Told ⟨answer, frames, ending⟩ items) (hbytes : ¬bytes.isEmpty = true) :
    Told ⟨answer, .data bytes false :: frames, ending⟩ (.data bytes false :: items) := by
  have hpayloads : payloads ⟨answer, .data bytes false :: frames, ending⟩ =
      bytes :: payloads ⟨answer, frames, ending⟩ := List.filterMap_cons_some (if_neg hbytes)
  have houtcome : outcome? ⟨answer, .data bytes false :: frames, ending⟩ =
      outcome? ⟨answer, frames, ending⟩ := by
    simp only [outcome?, List.any_cons, Frame.isEnd, Bool.false_or]
  cases h with
  | begun hnone =>
    rw [← List.map_cons (f := (BodyItem.data · false)), ← hpayloads]
    exact .begun (houtcome.trans hnone)
  | @last parts final hcomplete hparts =>
    rw [← List.cons_append, ← List.map_cons (f := (BodyItem.data · false))]
    exact .last (houtcome.trans hcomplete) (by rw [hpayloads, hparts, List.cons_append])
  | ended hsome =>
    rw [← List.cons_append, ← List.map_cons (f := (BodyItem.data · false)), ← hpayloads]
    exact .ended (houtcome.trans hsome)

end Items

/-- The items are the bytes of all frames, in order, and then the outcome. -/
theorem told_items (i : Inbox) (h : isHonest i.frames = true) : i.Told i.items := by
  obtain ⟨answer, frames, ending⟩ := i
  induction frames with
  | nil =>
    cases ending with
    | none => exact .begun rfl
    | some ending => exact .ended rfl
  | cons f frames ih =>
    rw [isHonest, Bool.and_eq_true] at h
    have htold := ih h.2
    cases f with
    | trailers => exact htold.skip rfl rfl
    | data bytes isLast =>
      cases isLast with
      | true =>
        have hsilent : frames.filterMap Frame.payload? = [] := by
          rw [List.filterMap_eq_nil_iff]
          intro g hg
          have hnone := List.all_eq_true.mp h.1 g hg
          exact Option.isNone_iff_eq_none.mp hnone
        refine @Told.last _ [] bytes rfl ?_
        rw [payloads, List.filterMap_cons, hsilent, Frame.payload?]
        cases bytes <;> rfl
      | false =>
        by_cases hempty : bytes.isEmpty = true
        · have hsame : items ⟨answer, .data bytes false :: frames, ending⟩ =
              items ⟨answer, frames, ending⟩ := by
            simp only [items, itemsOf, Bool.false_eq_true, if_false, if_pos hempty]
          rw [hsame]
          exact htold.skip (if_pos hempty) rfl
        · have hnext : items ⟨answer, .data bytes false :: frames, ending⟩ =
              .data bytes false :: items ⟨answer, frames, ending⟩ := by
            simp only [items, itemsOf, Bool.false_eq_true, if_false, if_neg hempty]
          rw [hnext]
          exact htold.cons hempty

/-- What is told is the bytes of the first frames, and then at most what ends the body. -/
theorem Told.split {i : Inbox} {items : List BodyItem} (h : i.Told items) : ∃ parts ends,
    items = parts.map (.data · false) ++ ends ∧ parts <+: i.payloads ∧
      (∀ item ∈ ends, item.isTerminal = true) ∧ (i.outcome?.isSome = true → ends ≠ []) := by
  have hone : ∀ {item found : BodyItem}, item.isTerminal = true → found ∈ [item] →
      found.isTerminal = true := by
    intro item found hend hmem
    rwa [List.mem_singleton.mp hmem]
  cases h with
  | begun hnone =>
    refine ⟨i.payloads, [], (List.append_nil _).symm, List.prefix_refl _, nofun, fun hsome => ?_⟩
    rw [hnone] at hsome
    cases hsome
  | last hcomplete hparts => exact ⟨_, _, rfl, ⟨_, hparts.symm⟩, fun _ => hone rfl, fun _ => nofun⟩
  | ended hsome => exact ⟨_, _, rfl, List.prefix_refl _, fun _ => hone rfl, fun _ => nofun⟩

/-- There is an item for each frame at most, and one for the ending. -/
theorem length_items (i : Inbox) : i.items.length ≤ i.frames.length + 1 := by
  obtain ⟨answer, frames, ending⟩ := i
  simp only [items]
  induction frames with
  | nil => cases ending <;> simp [itemsOf]
  | cons f frames ih =>
    cases f with
    | trailers =>
      simp only [itemsOf, List.length_cons]
      omega
    | data bytes isLast =>
      simp only [itemsOf]
      split
      · simp only [List.length_cons, List.length_nil]
        omega
      · split <;>
        · simp only [List.length_cons]
          omega

/-- Joined together, what the frames have is the whole body. -/
theorem flatten_payloads (i : Inbox) : i.payloads.flatten = i.content := by
  obtain ⟨answer, frames, ending⟩ := i
  simp only [payloads, content]
  induction frames with
  | nil => rfl
  | cons f frames ih =>
    rw [List.flatMap_cons, ← ih, List.filterMap_cons]
    by_cases hempty : f.bytes.isEmpty = true
    · have hnone : f.payload? = none := if_pos hempty
      rw [hnone, List.isEmpty_iff.mp hempty, List.nil_append]
    · have hsome : f.payload? = some f.bytes := if_neg hempty
      rw [hsome, List.flatten_cons]

/-- What arrives adds frames at the end, whatever was read meanwhile. -/
theorem receive_frames (i : Inbox) (arrival : Arrival) : ∃ more, ∀ frames : List Frame,
    ({ i with frames := frames } : Inbox).receive arrival =
      { i.receive arrival with frames := frames ++ more } := by
  cases arrival with
  | frame f =>
    by_cases hopen : i.isReceiving = true
    · refine ⟨[f], fun frames => ?_⟩
      have hsame : ({ i with frames := frames } : Inbox).isReceiving = true := hopen
      simp only [receive, if_pos hopen, if_pos hsame]
    · refine ⟨[], fun frames => ?_⟩
      have hsame : ¬({ i with frames := frames } : Inbox).isReceiving = true := hopen
      simp only [receive, if_neg hopen, if_neg hsame, List.append_nil]
  | head | ending | malformed | hangUp | lost =>
    refine ⟨[], fun frames => ?_⟩
    have hsame : ({ i with frames := frames } : Inbox).isReceiving = i.isReceiving := rfl
    simp only [receive, lose, hsame, List.append_nil]
    (repeat' split) <;> rfl

/-- Once the end is known nothing that arrives changes the items. -/
theorem items_receive {i : Inbox} {item : BodyItem} (hitem : item ∈ i.items)
    (hend : item.isTerminal = true) (arrival : Arrival) :
    (i.receive arrival).items = i.items := by
  obtain ⟨more, hmore⟩ := i.receive_frames arrival
  have hreceived : (i.receive arrival).frames = i.frames ++ more :=
    congrArg Inbox.frames (hmore i.frames)
  cases hending : i.ending with
  | none =>
    rw [items, hending] at hitem
    rw [items, items, hreceived, hending]
    exact itemsOf_of_terminal hitem hend _ _
  | some ending =>
    have hclosed : i.isReceiving = false := by
      unfold isReceiving
      split
      · rw [hending]
        rfl
      · rfl
    cases arrival with
    | head | malformed =>
      dsimp only [receive]
      split <;> rfl
    | frame | ending => simp only [receive, hclosed, Bool.false_eq_true, if_false]
    | hangUp | lost =>
      simp only [receive, lose, hclosed, Bool.false_eq_true, if_false]
      split <;> rfl

end Inbox

end HttpClient
