import HttpClient.Header.Value

/-!
# Header fields

The fields of a message head: names may repeat, and the values of one name keep their order.
What an operation does is said of `values`, the values under one name.
-/

namespace HttpClient

/-- The header fields of a message. -/
structure Fields where
  entries : List (String × HeaderValue) := []
  deriving DecidableEq, Repr

namespace Fields

/-- The values under a name, in order. -/
def values (f : Fields) (name : String) : List HeaderValue :=
  f.entries.filterMap fun e => if e.1 = name then some e.2 else none

/-- The first value under a name. -/
def first? (f : Fields) (name : String) : Option HeaderValue := (f.values name).head?

/-- True when a name has a value. -/
def contains (f : Fields) (name : String) : Bool := f.entries.any (·.1 = name)

/-- Every name once, in the order of their first values. -/
def names (f : Fields) : List String := (f.entries.map Prod.fst).eraseDups

/-- Adds a value after those the name has. -/
def append (f : Fields) (name : String) (value : HeaderValue) : Fields :=
  ⟨f.entries ++ [(name, value)]⟩

/-- Removes all values of a name. -/
def erase (f : Fields) (name : String) : Fields := ⟨f.entries.filter (·.1 ≠ name)⟩

/-- Removes all values of several names. -/
def eraseAll (f : Fields) (names : List String) : Fields :=
  ⟨f.entries.filter fun e => e.1 ∉ names⟩

/-- Makes a value the only one of its name; a name that is there keeps its place. -/
def insert (f : Fields) (name : String) (value : HeaderValue) : Fields :=
  let before := f.entries.takeWhile (·.1 ≠ name)
  match f.entries.dropWhile (·.1 ≠ name) with
  | [] => ⟨f.entries ++ [(name, value)]⟩
  | _ :: after => ⟨before ++ (name, value) :: after.filter (·.1 ≠ name)⟩

/-- The fields of one name as they are taken out: only the first value comes with the name. -/
def taken (f : Fields) (name : String) : List (Option String × HeaderValue) :=
  match f.values name with
  | [] => []
  | v :: vs => (some name, v) :: vs.map fun v => (none, v)

/-- Puts in what was taken out elsewhere: a value that comes with a name replaces the values of the
name, and a value that comes without one is added to those of the name that came last. A value
before which no name came has no place. -/
def putIn (last : Option String) (items : List (Option String × HeaderValue)) (f : Fields) :
    Option Fields :=
  match items with
  | [] => some f
  | (some name, v) :: items => putIn (some name) items (f.insert name v)
  | (none, v) :: items =>
    match last with
    | some name => putIn last items (f.append name v)
    | none => none

/-- A field from a name and a value; of two faults that of the name counts. -/
def field (name value : Bytes) : Except HeadError (String × HeaderValue) := do
  let name ← headerName name
  let value ← HeaderValue.ofBytes value
  return (name, value)

/-- The fields with these names and values, in order. -/
def ofList (pairs : List (Bytes × Bytes)) : Except HeadError Fields := do
  let entries ← pairs.mapM fun p => field p.1 p.2
  return ⟨entries⟩

/-- Inserts a value only where the name has none. -/
def insertIfAbsent (f : Fields) (name : String) (value : HeaderValue) : Fields :=
  if f.contains name then f else f.insert name value

@[simp] theorem values_append (f : Fields) (name other : String) (value : HeaderValue) :
    (f.append name value).values other =
      if name = other then f.values other ++ [value] else f.values other := by
  by_cases h : name = other <;> simp [append, values, List.filterMap_append, h]

/-- Fields that are chosen by their names keep all values of those names. -/
private theorem values_filter (entries : List (String × HeaderValue)) (keep : String → Bool)
    (name : String) : (⟨entries.filter fun e => keep e.1⟩ : Fields).values name =
      if keep name then (⟨entries⟩ : Fields).values name else [] := by
  unfold values
  rw [List.filterMap_filter]
  split
  · next h =>
    refine congrArg (List.filterMap · entries) (funext fun e => ?_)
    by_cases he : e.1 = name
    · simp [he, h]
    · simp [he]
  · next h =>
    refine List.filterMap_eq_nil_iff.mpr fun e _ => ?_
    by_cases he : e.1 = name
    · simp [he, h]
    · simp [he]

@[simp] theorem values_eraseAll (f : Fields) (names : List String) (name : String) :
    (f.eraseAll names).values name = if name ∈ names then [] else f.values name := by
  rw [eraseAll, values_filter f.entries (fun name => decide (name ∉ names)) name]
  by_cases h : name ∈ names <;> simp [h]

/-- A name is among the fields where it has a value. -/
theorem contains_iff (f : Fields) (name : String) :
    f.contains name = true ↔ f.values name ≠ [] := by
  simp only [contains, values, List.any_eq_true, decide_eq_true_eq, ne_eq,
    List.filterMap_eq_nil_iff]
  constructor
  · rintro ⟨e, he, hname⟩ hnone
    have hvalue := hnone e he
    simp [hname] at hvalue
  · intro hsome
    refine Classical.byContradiction fun hnone => hsome fun e he => ?_
    have hother : e.1 ≠ name := fun hname => hnone ⟨e, he, hname⟩
    simp [hother]

/-- The first field of the name is replaced, and further ones go. -/
private theorem insert_cons (e : String × HeaderValue) (entries : List (String × HeaderValue))
    (name : String) (value : HeaderValue) : (⟨e :: entries⟩ : Fields).insert name value =
      if e.1 = name then ⟨(name, value) :: entries.filter (·.1 ≠ name)⟩
      else ⟨e :: ((⟨entries⟩ : Fields).insert name value).entries⟩ := by
  by_cases he : e.1 = name
  · simp [insert, he]
  · rw [if_neg he]
    unfold insert
    simp only [List.takeWhile_cons, List.dropWhile_cons, ne_eq, he, not_false_eq_true,
      decide_true, if_true]
    cases entries.dropWhile (·.1 ≠ name) <;> rfl

@[simp] theorem values_insert (f : Fields) (name other : String) (value : HeaderValue) :
    (f.insert name value).values other = if name = other then [value] else f.values other := by
  obtain ⟨entries⟩ := f
  induction entries with
  | nil => by_cases h : name = other <;> simp [insert, values, h]
  | cons e entries ih =>
    have hcons : ∀ (e : String × HeaderValue) (entries : List (String × HeaderValue)),
        (⟨e :: entries⟩ : Fields).values other =
          if e.1 = other then e.2 :: (⟨entries⟩ : Fields).values other
          else (⟨entries⟩ : Fields).values other := by
      intro e entries
      by_cases h : e.1 = other <;> simp [values, h]
    have hothers := values_filter entries (fun n => decide (n ≠ name)) other
    rw [insert_cons, hcons]
    by_cases he : e.1 = name
    · rw [if_pos he, hcons, hothers, he]
      by_cases h : name = other
      · simp [h]
      · simp [h, Ne.symm h]
    · rw [if_neg he, hcons, ih]
      by_cases h : name = other
      · simp [h, h ▸ he]
      · simp [h]

@[simp] theorem values_insertIfAbsent (f : Fields) (name other : String) (value : HeaderValue) :
    (f.insertIfAbsent name value).values other =
      if name = other ∧ f.values other = [] then [value] else f.values other := by
  unfold insertIfAbsent
  by_cases hname : name = other
  · subst hname
    by_cases hnone : f.values name = []
    · have habsent : f.contains name ≠ true := fun h => (contains_iff f name).mp h hnone
      rw [if_neg habsent, values_insert, if_pos rfl, if_pos ⟨rfl, hnone⟩]
    · rw [if_pos ((contains_iff f name).mpr hnone), if_neg fun h => hnone h.2]
  · split <;> simp [hname]

theorem mem_names (f : Fields) (name : String) : name ∈ f.names ↔ f.contains name = true := by
  simp only [names, List.mem_eraseDups, List.mem_map, contains, List.any_eq_true,
    decide_eq_true_eq]

/-- Values without a name are added to the name that came last. -/
theorem putIn_values (name : String) (vs : List HeaderValue)
    (items : List (Option String × HeaderValue)) (f : Fields) :
    putIn (some name) (vs.map (fun v => (none, v)) ++ items) f =
      putIn (some name) items (vs.foldl (·.append name ·) f) := by
  induction vs generalizing f with
  | nil => rfl
  | cons v vs ih => exact ih (f.append name v)

theorem values_foldl_append (name other : String) (vs : List HeaderValue) (f : Fields) :
    (vs.foldl (·.append name ·) f).values other =
      if name = other then f.values other ++ vs else f.values other := by
  induction vs generalizing f with
  | nil => simp
  | cons v vs ih =>
    rw [List.foldl_cons, ih, values_append]
    by_cases h : name = other <;> simp [h]

/-- What is taken out name by name always has a place, and takes the place of what was there under
the same names. -/
theorem exists_putIn (src : Fields) (order : List String) (last : Option String) (dst : Fields) :
    ∃ out, putIn last (order.flatMap src.taken) dst = some out ∧ ∀ name, out.values name =
      if name ∈ order ∧ src.values name ≠ [] then src.values name else dst.values name := by
  induction order generalizing last dst with
  | nil => exact ⟨dst, rfl, fun name => by simp⟩
  | cons first order ih =>
    rw [List.flatMap_cons]
    cases hvalues : src.values first with
    | nil =>
      obtain ⟨out, hout, hall⟩ := ih last dst
      refine ⟨out, by rw [taken, hvalues]; exact hout, fun name => ?_⟩
      rw [hall]
      by_cases hname : name = first
      · simp [hname, hvalues]
      · simp [hname]
    | cons v vs =>
      obtain ⟨out, hout, hall⟩ := ih (some first) (vs.foldl (·.append first ·) (dst.insert first v))
      refine ⟨out, ?_, fun name => ?_⟩
      · rw [taken, hvalues, List.cons_append, putIn, putIn_values]
        exact hout
      · rw [hall, values_foldl_append, values_insert]
        by_cases hname : name = first
        · subst hname
          simp [hvalues]
        · simp [hname, Ne.symm hname]

/-- Where the names of the fields come, and no others, they replace what was there under these names
and nothing else. -/
theorem values_putIn {src : Fields} {order : List String}
    (horder : ∀ name, name ∈ order ↔ src.contains name = true) (dst : Fields) :
    ∃ out, putIn none (order.flatMap src.taken) dst = some out ∧ ∀ name,
      out.values name = if src.contains name then src.values name else dst.values name := by
  obtain ⟨out, hout, hall⟩ := exists_putIn src order none dst
  refine ⟨out, hout, fun name => ?_⟩
  have hname : name ∈ order ∧ src.values name ≠ [] ↔ src.contains name = true := by
    rw [horder, ← contains_iff, and_self]
  simp only [hall, hname]

/-- Replaces the values of every name in `src` by the values it has there. -/
def replaceAll (dst src : Fields) : Fields :=
  (putIn none (src.names.flatMap src.taken) dst).get <| by
    obtain ⟨out, hout, -⟩ := values_putIn (mem_names src) dst
    rw [hout]
    rfl

@[simp] theorem values_replaceAll (dst src : Fields) (name : String) :
    (dst.replaceAll src).values name =
      if src.contains name then src.values name else dst.values name := by
  obtain ⟨out, hout, hall⟩ := values_putIn (mem_names src) dst
  simp only [replaceAll, hout, Option.get_some, hall]

end Fields

end HttpClient
