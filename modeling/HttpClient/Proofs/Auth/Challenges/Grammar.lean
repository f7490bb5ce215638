import HttpClient.Auth.Challenge
import Mathlib.Data.List.Forall2

/-!
# The grammar of challenges

How a server may write its challenges. A challenge can be written in many ways: with more blanks or
fewer, with a value in quotes or without, with any character of a quoted value escaped. The elements
of a list are separated by commas, empty elements count for nothing, and an element that cannot be a
challenge is passed over. Each relation says which texts spell what, and a challenge can be spelled
exactly when it is well formed.
-/

namespace HttpClient

namespace Ascii

/-- A text that may stand in a header value. -/
def IsVisible (cs : List Char) : Prop := ∀ c ∈ cs, isVisible c = true

instance (cs : List Char) : Decidable (IsVisible cs) :=
  decidable_of_iff (cs.all isVisible = true) List.all_eq_true

@[simp] theorem isVisible_append {xs ys : List Char} :
    IsVisible (xs ++ ys) ↔ IsVisible xs ∧ IsVisible ys := List.forall_mem_append

@[simp] theorem isVisible_cons {c : Char} {cs : List Char} :
    IsVisible (c :: cs) ↔ isVisible c = true ∧ IsVisible cs := List.forall_mem_cons

theorem isBlank_iff {c : Char} : isBlank c = true ↔ c = ' ' ∨ c = '\t' := by
  simp [isBlank]

theorem isVisible_of_alphanum {c : Char} (h : c.isAlphanum = true) : isVisible c = true := by
  change ((decide (65 ≤ c.val ∧ c.val ≤ 90) ||
    (decide (97 ≤ c.val) && decide (c.val ≤ 122))) ||
      (decide (48 ≤ c.val) && decide (c.val ≤ 57))) = true at h
  simp only [Bool.or_eq_true, Bool.and_eq_true, decide_eq_true_eq, UInt32.le_iff_toNat_le,
    UInt32.reduceToNat, Char.toNat_val] at h
  simp only [isVisible, Bool.or_eq_true, Bool.and_eq_true, decide_eq_true_eq]
  exact Or.inl (by omega)

theorem isVisible_of_isTokenChar {c : Char} (h : isTokenChar c = true) : isVisible c = true := by
  rw [isTokenChar, Bool.or_eq_true] at h
  obtain h | h := h
  · exact isVisible_of_alphanum h
  · exact List.all_eq_true.mp (by decide : "!#$%&\x27*+-.^_\x60|~".toList.all isVisible = true) c
      (List.contains_iff_mem.mp h)

theorem isVisible_of_isToken68Char {c : Char} (h : isToken68Char c = true) :
    isVisible c = true := by
  rw [isToken68Char, Bool.or_eq_true] at h
  obtain h | h := h
  · exact isVisible_of_alphanum h
  · exact List.all_eq_true.mp (by decide : "-._~+/".toList.all isVisible = true) c
      (List.contains_iff_mem.mp h)

theorem isVisible_of_isBlank {c : Char} (h : isBlank c = true) : isVisible c = true := by
  obtain rfl | rfl := isBlank_iff.mp h <;> decide

end Ascii

namespace Challenge

/-- A word: one token character or more. -/
structure IsToken (cs : List Char) : Prop where
  ne_nil : cs ≠ []
  chars : ∀ c ∈ cs, Ascii.isTokenChar c = true

instance (cs : List Char) : Decidable (IsToken cs) :=
  decidable_of_iff (cs ≠ [] ∧ cs.all Ascii.isTokenChar = true)
    ⟨fun h => ⟨h.1, List.all_eq_true.mp h.2⟩, fun h => ⟨h.ne_nil, List.all_eq_true.mpr h.chars⟩⟩

/-- An opaque token: a word of its own class of characters, filled up with equals signs. -/
inductive IsToken68 : List Char → Prop
  | padded {word padding : List Char} (hne : word ≠ [])
      (hword : ∀ c ∈ word, Ascii.isToken68Char c = true) (hpadding : ∀ c ∈ padding, c = '=') :
      IsToken68 (word ++ padding)

/-- Blanks, as many as one likes. -/
def IsBlanks (cs : List Char) : Prop := ∀ c ∈ cs, Ascii.isBlank c = true

instance (cs : List Char) : Decidable (IsBlanks cs) :=
  decidable_of_iff (cs.all Ascii.isBlank = true) List.all_eq_true

/-- What separates the parameters of a challenge: a comma, with blanks and further commas. -/
structure IsGap (cs : List Char) : Prop where
  separators : ∀ c ∈ cs, isSeparator c = true
  comma : ',' ∈ cs

instance (cs : List Char) : Decidable (IsGap cs) :=
  decidable_of_iff (cs.all isSeparator = true ∧ ',' ∈ cs)
    ⟨fun h => ⟨List.all_eq_true.mp h.1, h.2⟩, fun h => ⟨List.all_eq_true.mpr h.separators, h.comma⟩⟩

/-- What is between quotes, and the content that it stands for. Quotes and backslashes are escaped,
and every other character may be. -/
inductive Quotes : List Char → List Char → Prop
  | nil : Quotes [] []
  | plain {c : Char} {text content : List Char} (hvisible : Ascii.isVisible c = true)
      (hquote : c ≠ '"') (hslash : c ≠ '\\') (h : Quotes text content) :
      Quotes (c :: text) (c :: content)
  | escaped {c : Char} {text content : List Char} (hvisible : Ascii.isVisible c = true)
      (h : Quotes text content) : Quotes ('\\' :: c :: text) (c :: content)

/-- A value as a token or in quotes. -/
inductive SpellsValue : List Char → List Char → Prop
  | token {value : List Char} (h : IsToken value) : SpellsValue value value
  | quoted {text value : List Char} (h : Quotes text value) :
      SpellsValue ('"' :: (text ++ ['"'])) value

/-- A name and a value with an equals sign between them. -/
inductive SpellsParam : List Char → String × String → Prop
  | named {name before behind text value : List Char} (hname : IsToken name)
      (hbefore : IsBlanks before) (hbehind : IsBlanks behind) (hvalue : SpellsValue text value) :
      SpellsParam (name ++ (before ++ '=' :: (behind ++ text)))
        (String.ofList name, String.ofList value)

/-- One parameter or more, with gaps between them. -/
inductive SpellsParams : List Char → List (String × String) → Prop
  | last {text : List Char} {p : String × String} (h : SpellsParam text p) : SpellsParams text [p]
  | cons {text gap rest : List Char} {p : String × String} {ps : List (String × String)}
      (h : SpellsParam text p) (hgap : IsGap gap) (hrest : SpellsParams rest ps) :
      SpellsParams (text ++ (gap ++ rest)) (p :: ps)

/-- What stands behind a scheme: nothing, or blanks and then an opaque token or parameters. -/
inductive SpellsRest (scheme : String) : List Char → Challenge → Prop
  | bare : SpellsRest scheme [] { scheme := scheme }
  | token {blanks token : List Char} (hne : blanks ≠ []) (hblanks : IsBlanks blanks)
      (htoken : IsToken68 token) :
      SpellsRest scheme (blanks ++ token) { scheme := scheme, token := some (String.ofList token) }
  | params {blanks text : List Char} {ps : List (String × String)} (hne : blanks ≠ [])
      (hblanks : IsBlanks blanks) (hparams : SpellsParams text ps) :
      SpellsRest scheme (blanks ++ text) { scheme := scheme, params := ps }

/-- A challenge: its scheme, and what stands behind it. -/
inductive Spells : List Char → Challenge → Prop
  | scheme {scheme text : List Char} {c : Challenge} (hscheme : IsToken scheme)
      (hrest : SpellsRest (String.ofList scheme) text c) : Spells (scheme ++ text) c

/-- An element of a list: nothing, something that cannot be a challenge, or a challenge. -/
inductive SpellsElement : List Char → List Challenge → Prop
  | empty : SpellsElement [] []
  | other {c : Char} {text : List Char} (htoken : Ascii.isTokenChar c = false)
      (hblank : Ascii.isBlank c = false) (hvisible : Ascii.IsVisible (c :: text))
      (hcomma : ',' ∉ c :: text) : SpellsElement (c :: text) []
  | challenge {text : List Char} {c : Challenge} (h : Spells text c) : SpellsElement text [c]

/-- The elements of a list, with commas between them and blanks around each. -/
inductive SpellsList : List Char → List Challenge → Prop
  | last {before text behind : List Char} {cs : List Challenge} (hbefore : IsBlanks before)
      (h : SpellsElement text cs) (hbehind : IsBlanks behind) :
      SpellsList (before ++ (text ++ behind)) cs
  | cons {before text behind rest : List Char} {cs ds : List Challenge}
      (hbefore : IsBlanks before) (h : SpellsElement text cs) (hbehind : IsBlanks behind)
      (hrest : SpellsList rest ds) :
      SpellsList (before ++ (text ++ (behind ++ ',' :: rest))) (cs ++ ds)

/-- A header value whose bytes are the text of a list of challenges. -/
def SpelledBy (value : HeaderValue) (cs : List Challenge) : Prop :=
  ∃ text, SpellsList text cs ∧ value.bytes = text.map Ascii.byte

/-- A challenge that can be written: names are words, values can be seen, and there is no opaque
token where there are parameters. -/
structure IsWellFormed (c : Challenge) : Prop where
  scheme : IsToken c.scheme.toList
  token : ∀ t ∈ c.token, IsToken68 t.toList ∧ c.params = []
  names : ∀ p ∈ c.params, IsToken p.1.toList
  values : ∀ p ∈ c.params, Ascii.IsVisible p.2.toList

variable {text content value token blanks gap : List Char} {c : Challenge} {cs : List Challenge}
  {p : String × String} {ps : List (String × String)} {scheme : String}

/-! ### Spelled texts can stand in a header value -/

theorem IsToken.isVisible (h : IsToken value) : Ascii.IsVisible value :=
  fun c hc => Ascii.isVisible_of_isTokenChar (h.chars c hc)

theorem IsToken68.isVisible (h : IsToken68 token) : Ascii.IsVisible token := by
  cases h with
  | padded hne hword hpadding =>
    rw [Ascii.isVisible_append]
    refine ⟨fun c hc => Ascii.isVisible_of_isToken68Char (hword c hc), fun c hc => ?_⟩
    rw [hpadding c hc]
    decide

theorem IsBlanks.isVisible (h : IsBlanks blanks) : Ascii.IsVisible blanks :=
  fun c hc => Ascii.isVisible_of_isBlank (h c hc)

theorem isSeparator_iff {c : Char} : isSeparator c = true ↔ c = ' ' ∨ c = '\t' ∨ c = ',' := by
  simp [isSeparator, Ascii.isBlank, or_assoc]

theorem IsGap.isVisible (h : IsGap gap) : Ascii.IsVisible gap := by
  intro c hc
  obtain rfl | rfl | rfl := isSeparator_iff.mp (h.separators c hc) <;> decide

theorem Quotes.isVisible (h : Quotes text content) :
    Ascii.IsVisible text ∧ Ascii.IsVisible content := by
  induction h with
  | nil => exact ⟨List.forall_mem_nil _, List.forall_mem_nil _⟩
  | plain hvisible _ _ _ ih =>
    simp only [Ascii.isVisible_cons]
    exact ⟨⟨hvisible, ih.1⟩, hvisible, ih.2⟩
  | escaped hvisible _ ih =>
    simp only [Ascii.isVisible_cons]
    exact ⟨⟨by decide, hvisible, ih.1⟩, hvisible, ih.2⟩

theorem SpellsValue.isVisible (h : SpellsValue text value) :
    Ascii.IsVisible text ∧ Ascii.IsVisible value := by
  cases h with
  | token h => exact ⟨h.isVisible, h.isVisible⟩
  | quoted h =>
    simp only [Ascii.isVisible_cons, Ascii.isVisible_append]
    exact ⟨⟨by decide, h.isVisible.1, by decide, List.forall_mem_nil _⟩, h.isVisible.2⟩

theorem SpellsParam.isVisible (h : SpellsParam text p) : Ascii.IsVisible text := by
  cases h with
  | named hname hbefore hbehind hvalue =>
    simp only [Ascii.isVisible_cons, Ascii.isVisible_append]
    exact ⟨hname.isVisible, hbefore.isVisible, by decide, hbehind.isVisible, hvalue.isVisible.1⟩

theorem SpellsParams.isVisible (h : SpellsParams text ps) : Ascii.IsVisible text := by
  induction h with
  | last h => exact h.isVisible
  | cons h hgap _ ih =>
    simp only [Ascii.isVisible_append]
    exact ⟨h.isVisible, hgap.isVisible, ih⟩

theorem Spells.isVisible (h : Spells text c) : Ascii.IsVisible text := by
  cases h with
  | scheme hscheme hrest =>
    rw [Ascii.isVisible_append]
    refine ⟨hscheme.isVisible, ?_⟩
    cases hrest with
    | bare => exact List.forall_mem_nil _
    | token hne hblanks htoken =>
      exact Ascii.isVisible_append.mpr ⟨hblanks.isVisible, htoken.isVisible⟩
    | params hne hblanks hparams =>
      exact Ascii.isVisible_append.mpr ⟨hblanks.isVisible, hparams.isVisible⟩

theorem SpellsElement.isVisible (h : SpellsElement text cs) : Ascii.IsVisible text := by
  cases h with
  | empty => exact List.forall_mem_nil _
  | other htoken hblank hvisible hcomma => exact hvisible
  | challenge h => exact h.isVisible

theorem SpellsList.isVisible (h : SpellsList text cs) : Ascii.IsVisible text := by
  induction h with
  | last hbefore h hbehind =>
    simp only [Ascii.isVisible_append]
    exact ⟨hbefore.isVisible, h.isVisible, hbehind.isVisible⟩
  | cons hbefore h hbehind _ ih =>
    simp only [Ascii.isVisible_append, Ascii.isVisible_cons]
    exact ⟨hbefore.isVisible, h.isVisible, hbehind.isVisible, by decide, ih⟩

/-- The text of a header value is read back from its bytes. -/
theorem SpelledBy.chars? {value : HeaderValue} (h : SpelledBy value cs) :
    ∃ text, SpellsList text cs ∧ value.chars? = some text := by
  obtain ⟨text, hlist, hbytes⟩ := h
  refine ⟨text, hlist, ?_⟩
  rw [HeaderValue.chars?, hbytes, Ascii.ofVisible?_map_byte]
  exact List.all_eq_true.mpr hlist.isVisible

/-! ### What can be spelled -/

theorem exists_quotes (h : Ascii.IsVisible content) : ∃ text, Quotes text content := by
  induction content with
  | nil => exact ⟨[], .nil⟩
  | cons c content ih =>
    obtain ⟨hvisible, hrest⟩ := Ascii.isVisible_cons.mp h
    obtain ⟨text, htext⟩ := ih hrest
    exact ⟨'\\' :: c :: text, .escaped hvisible htext⟩

theorem exists_spellsParam (hname : IsToken p.1.toList) (hvalue : Ascii.IsVisible p.2.toList) :
    ∃ text, SpellsParam text p := by
  obtain ⟨text, htext⟩ := exists_quotes hvalue
  have hparam := SpellsParam.named hname (List.forall_mem_nil _) (List.forall_mem_nil _)
    (.quoted htext)
  rw [String.ofList_toList, String.ofList_toList] at hparam
  exact ⟨_, hparam⟩

theorem exists_spellsParams (hne : ps ≠ []) (hnames : ∀ p ∈ ps, IsToken p.1.toList)
    (hvalues : ∀ p ∈ ps, Ascii.IsVisible p.2.toList) : ∃ text, SpellsParams text ps := by
  induction ps with
  | nil => exact absurd rfl hne
  | cons p ps ih =>
    rw [List.forall_mem_cons] at hnames hvalues
    obtain ⟨first, hfirst⟩ := exists_spellsParam hnames.1 hvalues.1
    by_cases hlast : ps = []
    · subst hlast
      exact ⟨first, .last hfirst⟩
    · obtain ⟨rest, hrest⟩ := ih hlast hnames.2 hvalues.2
      have hgap : IsGap [','] := by decide
      exact ⟨_, .cons hfirst hgap hrest⟩

theorem SpellsParams.names_values (h : SpellsParams text ps) : ps ≠ [] ∧
    (∀ p ∈ ps, IsToken p.1.toList) ∧ ∀ p ∈ ps, Ascii.IsVisible p.2.toList := by
  have hparam {text : List Char} {p : String × String} (h : SpellsParam text p) :
      IsToken p.1.toList ∧ Ascii.IsVisible p.2.toList := by
    cases h with
    | named hname hbefore hbehind hvalue =>
      rw [String.toList_ofList, String.toList_ofList]
      exact ⟨hname, hvalue.isVisible.2⟩
  induction h with
  | last h =>
    simp only [List.forall_mem_singleton]
    exact ⟨List.cons_ne_nil _ _, hparam h⟩
  | cons h hgap hrest ih =>
    simp only [List.forall_mem_cons]
    exact ⟨List.cons_ne_nil _ _, ⟨(hparam h).1, ih.2.1⟩, (hparam h).2, ih.2.2⟩

/-- The challenges that can be spelled are the well-formed ones. -/
theorem exists_spells_iff : (∃ text, Spells text c) ↔ c.IsWellFormed := by
  constructor
  · rintro ⟨_, @⟨scheme, text, c, hscheme, hrest⟩⟩
    rw [← @String.toList_ofList scheme] at hscheme
    cases hrest with
    | bare => exact ⟨hscheme, nofun, nofun, nofun⟩
    | token hne hblanks htoken =>
      refine ⟨hscheme, ?_, nofun, nofun⟩
      rintro t ht
      obtain rfl := Option.some.inj ht
      rw [String.toList_ofList]
      exact ⟨htoken, rfl⟩
    | params hne hblanks hparams =>
      exact ⟨hscheme, nofun, hparams.names_values.2.1, hparams.names_values.2.2⟩
  · obtain ⟨scheme, token, params⟩ := c
    rintro ⟨hscheme, htoken, hnames, hvalues⟩
    have hspells {text : List Char} {c : Challenge} (hrest : SpellsRest scheme text c) :
        ∃ text, Spells text c := by
      rw [← @String.ofList_toList scheme] at hrest
      exact ⟨_, .scheme hscheme hrest⟩
    have hblank : IsBlanks [' '] := by decide
    cases token with
    | some t =>
      obtain ⟨ht, rfl⟩ := htoken t rfl
      have hrest : SpellsRest scheme ([' '] ++ t.toList) _ :=
        .token (List.cons_ne_nil _ _) hblank ht
      rw [String.ofList_toList] at hrest
      exact hspells hrest
    | none =>
      by_cases hne : params = []
      · subst hne
        exact hspells .bare
      · obtain ⟨text, htext⟩ := exists_spellsParams hne hnames hvalues
        exact hspells (.params (List.cons_ne_nil _ _) hblank htext)

/-- Every list of well-formed challenges can be sent in one header value. -/
theorem exists_spelledBy (h : ∀ c ∈ cs, c.IsWellFormed) : ∃ value, SpelledBy value cs := by
  have hlist : ∃ text, SpellsList text cs := by
    induction cs with
    | nil => exact ⟨_, .last (List.forall_mem_nil _) .empty (List.forall_mem_nil _)⟩
    | cons c cs ih =>
      rw [List.forall_mem_cons] at h
      obtain ⟨text, htext⟩ := exists_spells_iff.mpr h.1
      obtain ⟨rest, hrest⟩ := ih h.2
      exact ⟨_, .cons (List.forall_mem_nil _) (.challenge htext) (List.forall_mem_nil _) hrest⟩
  obtain ⟨text, htext⟩ := hlist
  exact ⟨{ bytes := text.map Ascii.byte }, text, htext, rfl⟩

/-- Each value of a header spells the challenges of one group. -/
def SpelledByAll (values : List HeaderValue) (groups : List (List Challenge)) : Prop :=
  List.Forall₂ SpelledBy values groups

/-- Well-formed challenges can be sent in one header, distributed over its values in any way. -/
theorem exists_spelledByAll {groups : List (List Challenge)}
    (h : ∀ c ∈ groups.flatten, c.IsWellFormed) : ∃ values, SpelledByAll values groups := by
  induction groups with
  | nil => exact ⟨[], .nil⟩
  | cons cs groups ih =>
    rw [List.flatten_cons, List.forall_mem_append] at h
    obtain ⟨value, hvalue⟩ := exists_spelledBy h.1
    obtain ⟨values, hvalues⟩ := ih h.2
    exact ⟨value :: values, .cons hvalue hvalues⟩

end Challenge

end HttpClient
