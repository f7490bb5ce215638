import HttpClient.Proofs.Auth.Challenges.Grammar
import Mathlib.Data.List.DropRight

/-!
# Parameters are read as they were written

A value is read up to its end and a parameter up to the end of its value. A list of parameters is
read up to its last one: what tells that no more follow is that no parameter stands behind the next
comma.
-/

namespace HttpClient

namespace Challenge

/-! ### Classes of characters -/

section Classes

variable {q : Char → Bool} {c : Char} {xs ys : List Char}

/-- True of a text that does not begin with a character of a class. -/
def Avoids (q : Char → Bool) (cs : List Char) : Prop := ∀ c ∈ cs.head?, q c = false

@[simp] theorem avoids_nil : Avoids q [] := nofun

@[simp] theorem avoids_cons : Avoids q (c :: xs) ↔ q c = false := by simp [Avoids]

theorem avoids_append (hxs : ∀ c ∈ xs, q c = false) (hys : Avoids q ys) : Avoids q (xs ++ ys) := by
  cases xs with
  | nil => exact hys
  | cons c xs => exact avoids_cons.mpr (hxs c List.mem_cons_self)

theorem avoids_append_of_ne_nil (hne : xs ≠ []) (hxs : ∀ c ∈ xs, q c = false) :
    Avoids q (xs ++ ys) := by
  cases xs with
  | nil => exact absurd rfl hne
  | cons c xs => exact avoids_cons.mpr (hxs c List.mem_cons_self)

theorem Avoids.takeWhile_append (h : Avoids q ys) (hxs : ∀ c ∈ xs, q c = true) :
    (xs ++ ys).takeWhile q = xs := by
  rw [List.takeWhile_append_of_pos hxs]
  cases ys with
  | nil => exact List.append_nil xs
  | cons c ys =>
    rw [List.takeWhile_cons_of_neg (Bool.eq_false_iff.mp (avoids_cons.mp h)), List.append_nil]

theorem Avoids.dropWhile_eq (h : Avoids q ys) : ys.dropWhile q = ys := by
  cases ys with
  | nil => rfl
  | cons c ys => exact List.dropWhile_cons_of_neg (Bool.eq_false_iff.mp (avoids_cons.mp h))

theorem Avoids.dropWhile_append (h : Avoids q ys) (hxs : ∀ c ∈ xs, q c = true) :
    (xs ++ ys).dropWhile q = ys := by
  rw [List.dropWhile_append_of_pos hxs, h.dropWhile_eq]

/-- True of a class that contains no separator. -/
def IsApart (q : Char → Bool) : Prop := q ' ' = false ∧ q '\t' = false ∧ q ',' = false

theorem IsApart.eq_false (hq : IsApart q) (h : isSeparator c = true) : q c = false := by
  obtain ⟨hspace, htab, hcomma⟩ := hq
  obtain rfl | rfl | rfl := isSeparator_iff.mp h <;> assumption

theorem IsApart.isSeparator (hq : IsApart q) (h : q c = true) : isSeparator c = false := by
  cases hc : Challenge.isSeparator c with
  | false => rfl
  | true =>
    rw [hq.eq_false hc] at h
    cases h

theorem isSeparator_of_isBlank (h : Ascii.isBlank c = true) : isSeparator c = true := by
  rw [isSeparator, h, Bool.true_or]

theorem isBlank_eq_false (h : isSeparator c = false) : Ascii.isBlank c = false :=
  (Bool.or_eq_false_iff.mp h).1

theorem ne_comma (h : isSeparator c = false) : c ≠ ',' := by
  rintro rfl
  cases h

theorem isApart_isTokenChar : IsApart Ascii.isTokenChar := by unfold IsApart; decide

theorem isApart_isToken68Char : IsApart Ascii.isToken68Char := by unfold IsApart; decide

theorem isApart_equals : IsApart (· == '=') := by unfold IsApart; decide

theorem beq_of_isTokenChar {d : Char} (h : Ascii.isTokenChar c = true)
    (hd : Ascii.isTokenChar d = false) : (c == d) = false := by
  rw [beq_eq_false_iff_ne]
  rintro rfl
  rw [h] at hd
  cases hd

theorem IsBlanks.isSeparator (h : IsBlanks xs) : ∀ c ∈ xs, isSeparator c = true :=
  fun c hc => isSeparator_of_isBlank (h c hc)

theorem IsBlanks.eq_false (h : IsBlanks xs) (hq : IsApart q) : ∀ c ∈ xs, q c = false :=
  fun c hc => hq.eq_false (h.isSeparator c hc)

/-- A word stays in front of what a class without token characters skips. -/
theorem IsToken.avoids (h : IsToken xs) (hq : ∀ c, Ascii.isTokenChar c = true → q c = false) :
    Avoids q (xs ++ ys) := avoids_append_of_ne_nil h.ne_nil fun c hc => hq c (h.chars c hc)

theorem isSeparator_of_isTokenChar (h : Ascii.isTokenChar c = true) : isSeparator c = false :=
  isApart_isTokenChar.isSeparator h

theorem isBlank_of_isTokenChar (h : Ascii.isTokenChar c = true) : Ascii.isBlank c = false :=
  isBlank_eq_false (isSeparator_of_isTokenChar h)

end Classes

variable {text rest name blanks before behind : List Char} {p : String × String}
  {ps : List (String × String)}

/-! ### Values and parameters -/

theorem quoted_append {content : List Char} (h : Quotes text content) (rest : List Char) :
    quoted (text ++ '"' :: rest) = (content, rest) := by
  induction h with
  | nil =>
    rw [List.nil_append, quoted.eq_def]
    simp only [if_true]
  | plain hvisible hquote hslash _ ih =>
    rw [List.cons_append, quoted.eq_def]
    simp only [if_neg hquote, if_neg hslash, ih]
  | escaped hvisible _ ih =>
    rw [List.cons_append, List.cons_append, quoted.eq_def]
    simp only [Char.reduceEq, if_false, if_true, ih]

/-- A value is read up to its end, and a token needs another character behind it for that. -/
theorem value_append {v : List Char} (h : SpellsValue text v)
    (hrest : Avoids Ascii.isTokenChar rest) : value (text ++ rest) = (v, rest) := by
  cases h with
  | token h =>
    rw [value]
    · rw [hrest.takeWhile_append h.chars, hrest.dropWhile_append h.chars]
    · intro tail htail
      have hquote : Avoids (· == '"') (text ++ rest) :=
        h.avoids fun c hc => beq_of_isTokenChar hc (by decide)
      rw [htail] at hquote
      exact absurd (avoids_cons.mp hquote) (by decide)
  | quoted h =>
    rw [List.cons_append, List.append_assoc, List.singleton_append, value]
    exact quoted_append h rest

/-- A text that begins like a value, with a token character or a quote. -/
def BeginsValue (text : List Char) : Prop :=
  ∃ c more, text = c :: more ∧ (Ascii.isTokenChar c = true ∨ c = '"')

theorem SpellsValue.begins {v : List Char} (h : SpellsValue text v) : BeginsValue text := by
  cases h with
  | token h =>
    obtain ⟨c, more, rfl⟩ := List.exists_cons_of_ne_nil h.ne_nil
    exact ⟨c, more, rfl, Or.inl (h.chars c List.mem_cons_self)⟩
  | quoted h => exact ⟨'"', _, rfl, Or.inr rfl⟩

theorem BeginsValue.avoids {q : Char → Bool} (h : BeginsValue text)
    (hq : ∀ c, Ascii.isTokenChar c = true → q c = false) (hquote : q '"' = false) :
    Avoids q (text ++ rest) := by
  obtain ⟨c, more, rfl, hc | rfl⟩ := h
  · exact avoids_cons.mpr (hq c hc)
  · exact avoids_cons.mpr hquote

/-- A name with an equals sign behind it makes a parameter, whatever the value is. -/
theorem readParam?_equals (hname : IsToken name) (hbefore : IsBlanks before) (rest : List Char) :
    readParam? (name ++ (before ++ '=' :: rest)) =
      some ((String.ofList name, String.ofList (value (rest.dropWhile Ascii.isBlank)).1),
        (value (rest.dropWhile Ascii.isBlank)).2) := by
  have hstart : Avoids Ascii.isBlank (name ++ (before ++ '=' :: rest)) :=
    hname.avoids fun c => isBlank_of_isTokenChar
  have hend : Avoids Ascii.isTokenChar (before ++ '=' :: rest) :=
    avoids_append (hbefore.eq_false isApart_isTokenChar) (avoids_cons.mpr (by decide))
  have hequals : Avoids Ascii.isBlank ('=' :: rest) := avoids_cons.mpr (by decide)
  have hne : name.isEmpty = false := List.isEmpty_eq_false_iff.mpr hname.ne_nil
  simp only [readParam?, hstart.dropWhile_eq, hend.takeWhile_append hname.chars,
    hend.dropWhile_append hname.chars, hequals.dropWhile_append hbefore, hne, Bool.false_eq_true,
    if_false]

/-- Without an equals sign behind a word there is no parameter. -/
theorem readParam?_eq_none (hname : ∀ c ∈ name, Ascii.isTokenChar c = true)
    (hrest : Avoids Ascii.isTokenChar rest) (hstart : Avoids Ascii.isBlank (name ++ rest))
    (hequals : name = [] ∨ Avoids (· == '=') (rest.dropWhile Ascii.isBlank)) :
    readParam? (name ++ rest) = none := by
  simp only [readParam?, hstart.dropWhile_eq, hrest.takeWhile_append hname,
    hrest.dropWhile_append hname]
  split
  · next tail htail =>
    obtain rfl | hequals := hequals
    · rfl
    · rw [htail] at hequals
      exact absurd (avoids_cons.mp hequals) (by decide)
  · rfl

theorem readParam?_nil : readParam? [] = none := rfl

/-- A parameter is read up to its end. -/
theorem readParam?_append (h : SpellsParam text p) (hrest : Avoids Ascii.isTokenChar rest) :
    readParam? (text ++ rest) = some (p, rest) := by
  cases h with
  | @named name before behind text value hname hbefore hbehind hvalue =>
    have hstart : Avoids Ascii.isBlank (text ++ rest) :=
      hvalue.begins.avoids (fun c => isBlank_of_isTokenChar) (by decide)
    simp only [List.append_assoc, List.cons_append]
    rw [readParam?_equals hname hbefore, hstart.dropWhile_append hbehind,
      value_append hvalue hrest]

/-- A parameter begins with its name. -/
theorem SpellsParam.avoids {q : Char → Bool} (h : SpellsParam text p)
    (hq : ∀ c, Ascii.isTokenChar c = true → q c = false) : Avoids q (text ++ rest) := by
  cases h with
  | named hname hbefore hbehind hvalue =>
    rw [List.append_assoc]
    exact hname.avoids hq

theorem SpellsParams.avoids {q : Char → Bool} (h : SpellsParams text ps)
    (hq : ∀ c, Ascii.isTokenChar c = true → q c = false) : Avoids q (text ++ rest) := by
  cases h with
  | last h => exact h.avoids hq
  | cons h hgap hrest =>
    rw [List.append_assoc]
    exact h.avoids hq

/-! ### What may follow a challenge -/

/-- What may follow a challenge: blanks, and then the end or a comma with no parameter behind it. -/
structure Ends (rest : List Char) : Prop where
  comma : (rest.dropWhile Ascii.isBlank).head?.all (· == ',') = true
  noParam : readParam? (rest.dropWhile isSeparator) = none

/-- Behind the blanks is the end or a comma. -/
theorem Ends.next (h : Ends rest) : rest.dropWhile Ascii.isBlank = [] ∨
    ∃ more, rest.dropWhile Ascii.isBlank = ',' :: more := by
  have hcomma := h.comma
  cases htail : rest.dropWhile Ascii.isBlank with
  | nil => exact Or.inl rfl
  | cons c more =>
    rw [htail, List.head?_cons, Option.all_some, beq_iff_eq] at hcomma
    exact Or.inr ⟨more, by rw [hcomma]⟩

theorem Ends.split (h : Ends rest) : ∃ blanks, IsBlanks blanks ∧
    (rest = blanks ∨ ∃ more, rest = blanks ++ ',' :: more) := by
  have hsplit : rest.takeWhile Ascii.isBlank ++ rest.dropWhile Ascii.isBlank = rest :=
    List.takeWhile_append_dropWhile
  refine ⟨rest.takeWhile Ascii.isBlank, fun c hc => List.mem_takeWhile_imp hc, ?_⟩
  obtain hnil | ⟨more, hmore⟩ := h.next
  · rw [hnil, List.append_nil] at hsplit
    exact Or.inl hsplit.symm
  · rw [hmore] at hsplit
    exact Or.inr ⟨more, hsplit.symm⟩

/-- Nothing else begins there. -/
theorem Ends.avoids {q : Char → Bool} (h : Ends rest) (hq : IsApart q) : Avoids q rest := by
  obtain ⟨blanks, hblanks, rfl | ⟨more, rfl⟩⟩ := h.split
  · rw [← List.append_nil rest]
    exact avoids_append (hblanks.eq_false hq) avoids_nil
  · exact avoids_append (hblanks.eq_false hq) (avoids_cons.mpr hq.2.2)

theorem ends_of_blanks (h : IsBlanks blanks) : Ends blanks where
  comma := by rw [List.dropWhile_eq_nil_iff.mpr h]; rfl
  noParam := by rw [List.dropWhile_eq_nil_iff.mpr h.isSeparator, readParam?_nil]

theorem ends_of_comma (h : IsBlanks blanks)
    (hrest : readParam? (rest.dropWhile isSeparator) = none) : Ends (blanks ++ ',' :: rest) where
  comma := by
    have hcomma : Avoids Ascii.isBlank (',' :: rest) := avoids_cons.mpr (by decide)
    rw [hcomma.dropWhile_append h]
    rfl
  noParam := by
    rw [List.dropWhile_append_of_pos h.isSeparator, List.dropWhile_cons_of_pos (by decide)]
    exact hrest

/-! ### Lists of parameters -/

theorem readParams_none (h : readParam? rest = none) :
    readParams rest = ([], rest.dropWhile Ascii.isBlank) := by
  rw [readParams]
  split
  · rfl
  · next hsome =>
    rw [h] at hsome
    cases hsome

theorem readParams_last (h : readParam? text = some (p, rest))
    (hcomma : Avoids (· == ',') (rest.dropWhile Ascii.isBlank)) :
    readParams text = ([p], rest.dropWhile Ascii.isBlank) := by
  rw [readParams]
  split
  · next hnone =>
    rw [h] at hnone
    cases hnone
  · next hsome =>
    obtain ⟨rfl, rfl⟩ := Prod.mk.inj (Option.some.inj (h.symm.trans hsome))
    split
    · next hmore =>
      rw [hmore] at hcomma
      exact absurd (avoids_cons.mp hcomma) (by decide)
    · rfl

theorem readParams_cons {more : List Char} (h : readParam? text = some (p, rest))
    (hcomma : rest.dropWhile Ascii.isBlank = ',' :: more) :
    readParams text = (p :: (readParams (rest.dropWhile isSeparator)).1,
      (readParams (rest.dropWhile isSeparator)).2) := by
  rw [readParams]
  split
  · next hnone =>
    rw [h] at hnone
    cases hnone
  · next hsome =>
    obtain ⟨rfl, rfl⟩ := Prod.mk.inj (Option.some.inj (h.symm.trans hsome))
    split
    · rfl
    · next hnot => exact absurd hcomma (hnot _)

theorem dropWhile_isSeparator_dropWhile_isBlank (cs : List Char) :
    (cs.dropWhile Ascii.isBlank).dropWhile isSeparator = cs.dropWhile isSeparator := by
  conv => rhs; rw [← @List.takeWhile_append_dropWhile _ Ascii.isBlank cs]
  rw [List.dropWhile_append_of_pos]
  exact fun c hc => isSeparator_of_isBlank (List.mem_takeWhile_imp hc)

/-- Blanks alone are in front of the comma of a gap. -/
theorem IsGap.comma_first {gap : List Char} (h : IsGap gap) (rest : List Char) :
    ∃ more, (gap ++ rest).dropWhile Ascii.isBlank = ',' :: more := by
  obtain ⟨hseparators, hcomma⟩ := h
  induction gap with
  | nil => cases hcomma
  | cons c gap ih =>
    obtain ⟨hc, hgap⟩ := List.forall_mem_cons.mp hseparators
    by_cases hblank : Ascii.isBlank c = true
    · have hmem : ',' ∈ gap := by
        obtain hmem | hmem := List.mem_cons.mp hcomma
        · rw [← hmem] at hblank
          exact absurd hblank (by decide)
        · exact hmem
      obtain ⟨more, hmore⟩ := ih hgap hmem
      exact ⟨more, by rw [List.cons_append, List.dropWhile_cons_of_pos hblank, hmore]⟩
    · have hc : c = ',' := by
        obtain rfl | rfl | hc := isSeparator_iff.mp hc
        · exact absurd rfl hblank
        · exact absurd rfl hblank
        · exact hc
      exact ⟨gap ++ rest, by rw [List.cons_append, List.dropWhile_cons_of_neg hblank, hc]⟩

/-- Parameters are read up to the last one. What is left starts with what follows them, less
separators. -/
theorem readParams_append (h : SpellsParams text ps) (hrest : Ends rest) :
    (readParams (text ++ rest)).1 = ps ∧
      (readParams (text ++ rest)).2.dropWhile isSeparator = rest.dropWhile isSeparator := by
  induction h with
  | @last text p h =>
    have hread := readParam?_append h (hrest.avoids isApart_isTokenChar)
    obtain hnil | ⟨tail, hcomma⟩ := hrest.next
    · rw [readParams_last hread (hnil ▸ avoids_nil)]
      exact ⟨rfl, dropWhile_isSeparator_dropWhile_isBlank rest⟩
    · rw [readParams_cons hread hcomma, readParams_none hrest.noParam]
      exact ⟨rfl, by rw [dropWhile_isSeparator_dropWhile_isBlank, List.dropWhile_idempotent]⟩
  | @cons text gap more p ps h hgap hmore ih =>
    obtain ⟨tail, htail⟩ := hgap.comma_first (more ++ rest)
    have havoids : Avoids Ascii.isTokenChar (gap ++ (more ++ rest)) :=
      avoids_append_of_ne_nil (List.ne_nil_of_mem hgap.comma)
        fun c hc => isApart_isTokenChar.eq_false (hgap.separators c hc)
    have hread := readParam?_append h havoids
    have hnext : (gap ++ (more ++ rest)).dropWhile isSeparator = more ++ rest := by
      have hstart : Avoids isSeparator (more ++ rest) :=
        hmore.avoids fun c => isSeparator_of_isTokenChar
      exact hstart.dropWhile_append hgap.separators
    rw [List.append_assoc, List.append_assoc, readParams_cons hread htail, hnext]
    exact ⟨congrArg _ ih.1, ih.2⟩

end Challenge

end HttpClient
