import HttpClient.Auth.Credentials
import HttpClient.Proofs.Auth.Challenges.Parsing

/-!
# Rendered credentials are read back

Credentials are written like a challenge. Whatever the values of quoted parameters are, reading the
text gives one challenge with the scheme and the parameters that were written: no quote, backslash
or comma in a value ends it early, since quotes and backslashes are escaped and nothing else means
anything between quotes.
-/

namespace HttpClient

namespace Challenge

variable {cs rest : List Char}

/-- What was escaped is read as it was. -/
theorem quoted_escape (cs rest : List Char) :
    quoted (Credentials.escape cs ++ '"' :: rest) = (cs, rest) := by
  induction cs with
  | nil =>
    rw [Credentials.escape, List.flatMap_nil, List.nil_append, quoted.eq_def]
    simp only [if_true]
  | cons c cs ih =>
    rw [Credentials.escape, List.flatMap_cons, ← Credentials.escape, List.append_assoc]
    by_cases hspecial : c = '"' ∨ c = '\\'
    · rw [if_pos hspecial, List.cons_append, List.cons_append, List.nil_append, quoted.eq_def]
      simp only [Char.reduceEq, if_false, if_true, ih]
    · rw [if_neg hspecial, List.singleton_append, quoted.eq_def]
      obtain ⟨hquote, hslash⟩ := not_or.mp hspecial
      simp only [if_neg hquote, if_neg hslash, ih]

/-- Between quotes a text without quotes and backslashes needs no escapes. -/
theorem quoted_verbatim (h : ∀ c ∈ cs, c ≠ '"' ∧ c ≠ '\\') (rest : List Char) :
    quoted (cs ++ '"' :: rest) = (cs, rest) := by
  have hescape : Credentials.escape cs = cs := by
    rw [Credentials.escape]
    induction cs with
    | nil => rfl
    | cons c cs ih =>
      obtain ⟨hc, hcs⟩ := List.forall_mem_cons.mp h
      rw [List.flatMap_cons, if_neg (not_or.mpr hc), ih hcs, List.singleton_append]
  rw [← hescape, quoted_escape, hescape]

end Challenge

namespace Credentials

open Challenge

variable {p : Param} {ps : List Param} {rest : List Char} {scheme : String}

/-- A parameter that is read as it was written. Only a quoted value may be anything. -/
inductive Param.IsReadable : Param → Prop
  | plain {name value : String} (hname : IsToken name.toList) (hvalue : IsToken value.toList) :
      IsReadable (.plain name value)
  | quoted {name value : String} (hname : IsToken name.toList) : IsReadable (.quoted name value)
  | enclosed {name value : String} (hname : IsToken name.toList)
      (hvalue : ∀ c ∈ value.toList, c ≠ '"' ∧ c ≠ '\\') : IsReadable (.enclosed name value)

/-- A name and a value as they are read. -/
def Param.field (p : Param) : String × String := (p.name, p.value)

theorem Param.IsReadable.name (h : p.IsReadable) : IsToken p.name.toList := by
  cases h <;> assumption

/-- A parameter is written as its name, an equals sign and a text from which its value is read. -/
theorem Param.IsReadable.written (h : p.IsReadable) :
    ∃ text, renderParam p = p.name.toList ++ '=' :: text ∧ BeginsValue text ∧
      ∀ rest, Avoids Ascii.isTokenChar rest →
        Challenge.value (text ++ rest) = (p.value.toList, rest) := by
  cases h with
  | @plain name value hname hvalue =>
    have hspells : SpellsValue value.toList value.toList := .token hvalue
    exact ⟨value.toList, rfl, hspells.begins, fun rest hrest => value_append hspells hrest⟩
  | @quoted name value hname =>
    refine ⟨'"' :: (escape value.toList ++ ['"']), ?_, ⟨_, _, rfl, Or.inr rfl⟩, fun rest _ => ?_⟩
    · rw [renderParam, List.append_assoc]
      rfl
    · rw [List.cons_append, List.append_assoc, List.singleton_append, Challenge.value]
      exact quoted_escape _ _
  | @enclosed name value hname hvalue =>
    refine ⟨'"' :: (value.toList ++ ['"']), ?_, ⟨_, _, rfl, Or.inr rfl⟩, fun rest _ => ?_⟩
    · rw [renderParam, List.append_assoc]
      rfl
    · rw [List.cons_append, List.append_assoc, List.singleton_append, Challenge.value]
      exact quoted_verbatim hvalue _

/-- A parameter is read up to its end. -/
theorem readParam?_renderParam (h : p.IsReadable) (hrest : Avoids Ascii.isTokenChar rest) :
    readParam? (renderParam p ++ rest) = some (p.field, rest) := by
  obtain ⟨text, hwritten, hbegins, hvalue⟩ := h.written
  have hstart : Avoids Ascii.isBlank (text ++ rest) :=
    hbegins.avoids (fun c => isBlank_of_isTokenChar) (by decide)
  have hread := readParam?_equals h.name (List.forall_mem_nil _) (text ++ rest)
  rw [hstart.dropWhile_eq, hvalue rest hrest, String.ofList_toList, String.ofList_toList,
    List.nil_append] at hread
  rw [hwritten, List.append_assoc, List.cons_append]
  exact hread

/-- Parameters begin with a name. -/
theorem avoids_renderParams {q : Char → Bool} (hne : ps ≠ []) (h : ∀ p ∈ ps, p.IsReadable)
    (hq : ∀ c, Ascii.isTokenChar c = true → q c = false) : Avoids q (renderParams ps) := by
  have hfirst {p : Param} {rest : List Char} (hp : p.IsReadable) :
      Avoids q (renderParam p ++ rest) := by
    obtain ⟨text, hwritten, -, -⟩ := hp.written
    rw [hwritten, List.append_assoc]
    exact hp.name.avoids hq
  fun_cases renderParams ps with
  | case1 => exact absurd rfl hne
  | case2 p => exact List.append_nil (renderParam p) ▸ hfirst (h p List.mem_cons_self)
  | case3 p ps hlast => exact hfirst (h p List.mem_cons_self)

/-- Parameters are all read, up to the end of the text. -/
theorem readParams_renderParams (hne : ps ≠ []) (h : ∀ p ∈ ps, p.IsReadable) :
    readParams (renderParams ps) = (ps.map Param.field, []) := by
  fun_induction renderParams ps with
  | case1 => exact absurd rfl hne
  | case2 p =>
    have hread := readParam?_renderParam (h p List.mem_cons_self) avoids_nil
    rw [List.append_nil] at hread
    exact readParams_last hread avoids_nil
  | case3 p ps hlast ih =>
    obtain ⟨hp, hps⟩ := List.forall_mem_cons.mp h
    have hmore : ps ≠ [] := fun hnil => hlast hnil
    have hcomma : Avoids Ascii.isTokenChar (',' :: ' ' :: renderParams ps) :=
      avoids_cons.mpr (by decide)
    have hnext : (',' :: ' ' :: renderParams ps).dropWhile isSeparator = renderParams ps := by
      rw [List.dropWhile_cons_of_pos (by decide), List.dropWhile_cons_of_pos (by decide)]
      exact (avoids_renderParams hmore hps fun c => isSeparator_of_isTokenChar).dropWhile_eq
    rw [readParams_cons (readParam?_renderParam hp hcomma) (List.dropWhile_cons_of_neg (by decide)),
      hnext, ih hmore hps, List.map_cons]

/-- Parameters are not taken for an opaque token. -/
theorem takesToken68_renderParams (hne : ps ≠ []) (h : ∀ p ∈ ps, p.IsReadable) :
    takesToken68 (renderParams ps) = false := by
  have hfirst {p : Param} (hp : p.IsReadable) (rest : List Char) :
      takesToken68 (renderParam p ++ rest) = false := by
    obtain ⟨text, hwritten, hbegins, -⟩ := hp.written
    rw [hwritten, List.append_assoc, List.cons_append]
    exact takesToken68_equals hp.name (List.forall_mem_nil _) (List.forall_mem_nil _) hbegins rest
  fun_cases renderParams ps with
  | case1 => exact absurd rfl hne
  | case2 p => exact List.append_nil (renderParam p) ▸ hfirst (h p List.mem_cons_self) []
  | case3 p ps hlast => exact hfirst (h p List.mem_cons_self) _

/-- The text of credentials is read as one challenge, and all of it is read. -/
theorem readAll_render (hscheme : IsToken scheme.toList) (hne : ps ≠ [])
    (h : ∀ p ∈ ps, p.IsReadable) :
    readAll (render scheme ps).toList =
      [{ scheme := scheme, params := ps.map Param.field }] := by
  have hbehind : Avoids Ascii.isTokenChar (' ' :: renderParams ps) := avoids_cons.mpr (by decide)
  have hstart : Avoids isSeparator (scheme.toList ++ ' ' :: renderParams ps) :=
    hscheme.avoids fun c => isSeparator_of_isTokenChar
  have hblank : (' ' :: renderParams ps).dropWhile Ascii.isBlank = renderParams ps := by
    rw [List.dropWhile_cons_of_pos (by decide)]
    exact (avoids_renderParams hne h fun c => isBlank_of_isTokenChar).dropWhile_eq
  rw [render, String.toList_ofList, readAll_scheme hstart.dropWhile_eq hscheme hbehind,
    readRest_eq, hblank, takesToken68_renderParams hne h, if_neg Bool.false_ne_true,
    readParams_renderParams hne h, readAll_nil rfl, String.ofList_toList]

/-- What is true of visible characters and of the values is true of the whole text. -/
theorem forall_mem_render {P : Char → Prop} (hvisible : ∀ c, Ascii.isVisible c = true → P c)
    (hscheme : IsToken scheme.toList) (hnames : ∀ p ∈ ps, IsToken p.name.toList)
    (hvalues : ∀ p ∈ ps, ∀ c ∈ p.value.toList, P c) : ∀ c ∈ (render scheme ps).toList, P c := by
  have hword {word : String} (h : IsToken word.toList) : ∀ c ∈ word.toList, P c :=
    fun c hc => hvisible c (h.isVisible c hc)
  have hescape {cs : List Char} (h : ∀ c ∈ cs, P c) : ∀ c ∈ escape cs, P c := by
    intro c hc
    obtain ⟨d, hd, hmem⟩ := List.mem_flatMap.mp hc
    split at hmem
    · obtain rfl | rfl := List.mem_pair.mp hmem
      · exact hvisible _ (by decide)
      · exact h c hd
    · rw [List.mem_singleton.mp hmem]
      exact h d hd
  have hparam {p : Param} (hname : IsToken p.name.toList) (hvalue : ∀ c ∈ p.value.toList, P c) :
      ∀ c ∈ renderParam p, P c := by
    have hequals : P '=' := hvisible _ (by decide)
    have hquote : P '"' := hvisible _ (by decide)
    cases p with
    | plain name value =>
      simp only [renderParam, List.forall_mem_append, List.forall_mem_cons]
      exact ⟨hword hname, hequals, hvalue⟩
    | quoted name value =>
      simp only [renderParam, List.forall_mem_append, List.forall_mem_cons]
      exact ⟨⟨hword hname, hequals, hquote, hescape hvalue⟩, hquote, List.forall_mem_nil _⟩
    | enclosed name value =>
      simp only [renderParam, List.forall_mem_append, List.forall_mem_cons]
      exact ⟨⟨hword hname, hequals, hquote, hvalue⟩, hquote, List.forall_mem_nil _⟩
  have hparams : ∀ c ∈ renderParams ps, P c := by
    fun_induction renderParams ps with
    | case1 => exact List.forall_mem_nil _
    | case2 p =>
      rw [List.forall_mem_singleton] at hnames hvalues
      exact hparam hnames hvalues
    | case3 p ps hlast ih =>
      rw [List.forall_mem_cons] at hnames hvalues
      simp only [List.forall_mem_append, List.forall_mem_cons]
      exact ⟨hparam hnames.1 hvalues.1, hvisible _ (by decide), hvisible _ (by decide),
        ih hnames.2 hvalues.2⟩
  rw [render, String.toList_ofList]
  simp only [List.forall_mem_append, List.forall_mem_cons]
  exact ⟨hword hscheme, hvisible _ (by decide), hparams⟩

end Credentials

end HttpClient
