import HttpClient.Proofs.Auth.Challenges.Parameters

/-!
# Challenges are read as they were written

Whatever way a list of challenges is spelled, reading gives the list back. A comma may stand before
another parameter or before another challenge, and an opaque token starts like a parameter. What
decides is that a challenge never begins like a parameter, since no equals sign comes right behind
its scheme, and that no comma or end comes right behind what the start of a parameter has in common
with an opaque token.
-/

namespace HttpClient

namespace Challenge

variable {text rest name scheme before behind : List Char} {c : Challenge} {cs : List Challenge}
  {p : String × String} {ps : List (String × String)}

/-! ### The guess at an opaque token -/

/-- True when what comes next is taken for an opaque token. -/
def takesToken68 (cs : List Char) : Bool :=
  !(token68 cs).1.isEmpty && ((token68 cs).2.dropWhile Ascii.isBlank).head?.all (· == ',')

theorem readRest_eq (scheme : String) (cs : List Char) :
    readRest scheme cs =
      if takesToken68 (cs.dropWhile Ascii.isBlank) then
        ({ scheme := scheme
           token := some (String.ofList (token68 (cs.dropWhile Ascii.isBlank)).1) },
          (token68 (cs.dropWhile Ascii.isBlank)).2.dropWhile Ascii.isBlank)
      else
        ({ scheme := scheme, params := (readParams (cs.dropWhile Ascii.isBlank)).1 },
          (readParams (cs.dropWhile Ascii.isBlank)).2) := rfl

/-- What an opaque token, and blanks behind it, would leave. -/
def behindToken68 (cs : List Char) : List Char :=
  ((cs.dropWhile Ascii.isToken68Char).dropWhile (· == '=')).dropWhile Ascii.isBlank

theorem takesToken68_eq (cs : List Char) :
    takesToken68 cs =
      (!(cs.takeWhile Ascii.isToken68Char).isEmpty && (behindToken68 cs).head?.all (· == ',')) := by
  unfold takesToken68 token68
  dsimp only
  split
  · next hempty => rw [hempty]; rfl
  · next hsome =>
    cases hword : cs.takeWhile Ascii.isToken68Char with
    | nil => exact absurd (List.isEmpty_iff.mpr hword) hsome
    | cons c word => rfl

/-- An opaque token is taken whole. -/
theorem token68_append (h : IsToken68 text) (hrest : Ends rest) :
    token68 (text ++ rest) = (text, rest) := by
  cases h with
  | @padded word padding hne hword hpadding =>
    have hequals : Avoids (· == '=') rest := hrest.avoids isApart_equals
    have hbehind : Avoids Ascii.isToken68Char (padding ++ rest) :=
      avoids_append (fun c hc => by rw [hpadding c hc]; decide) (hrest.avoids isApart_isToken68Char)
    have hpad : ∀ c ∈ padding, (c == '=') = true := fun c hc => beq_iff_eq.mpr (hpadding c hc)
    have hempty : ¬ word.isEmpty = true := by rwa [List.isEmpty_iff]
    simp only [token68, List.append_assoc, hbehind.takeWhile_append hword,
      hbehind.dropWhile_append hword, hequals.takeWhile_append hpad,
      hequals.dropWhile_append hpad, if_neg hempty]

/-- An opaque token begins with a character of its class. -/
theorem IsToken68.avoids {q : Char → Bool} (h : IsToken68 text)
    (hq : ∀ c, Ascii.isToken68Char c = true → q c = false) : Avoids q (text ++ rest) := by
  cases h with
  | padded hne hword hpadding =>
    rw [List.append_assoc]
    exact avoids_append_of_ne_nil hne fun c hc => hq c (hword c hc)

theorem takesToken68_append (h : IsToken68 text) (hrest : Ends rest) :
    takesToken68 (text ++ rest) = true := by
  rw [takesToken68, token68_append h hrest]
  cases h with
  | padded hne hword hpadding => simp [hne, hrest.comma]

/-- No opaque token begins where a challenge ends. -/
theorem takesToken68_of_ends (h : Ends rest) :
    takesToken68 (rest.dropWhile Ascii.isBlank) = false := by
  obtain hnil | ⟨more, hmore⟩ := h.next
  · rw [hnil]
    rfl
  · rw [hmore]
    rfl

/-- An opaque token could begin like a parameter, even with the equals sign, but no comma or end
comes right behind it. -/
theorem behindToken68_equals (hname : IsToken name) (hbefore : IsBlanks before)
    (hbehind : IsBlanks behind) (hvalue : BeginsValue text) (rest : List Char) :
    ∃ c tail, behindToken68 (name ++ (before ++ '=' :: (behind ++ (text ++ rest)))) = c :: tail ∧
      c ≠ ',' := by
  rw [behindToken68, List.dropWhile_append]
  cases hleft : name.dropWhile Ascii.isToken68Char with
  | cons c left =>
    -- The name has a character that no opaque token has.
    have hc : Ascii.isTokenChar c = true :=
      hname.chars c ((List.dropWhile_suffix _).subset (hleft ▸ List.mem_cons_self))
    have hequals :
        Avoids (· == '=') (c :: (left ++ (before ++ '=' :: (behind ++ (text ++ rest))))) :=
      avoids_cons.mpr (beq_of_isTokenChar hc (by decide))
    refine ⟨c, left ++ (before ++ '=' :: (behind ++ (text ++ rest))), ?_,
      ne_comma (isSeparator_of_isTokenChar hc)⟩
    rw [if_neg (by simp), List.cons_append, hequals.dropWhile_eq,
      List.dropWhile_cons_of_neg (Bool.eq_false_iff.mp (isBlank_of_isTokenChar hc))]
  | nil =>
    have hstart : Avoids Ascii.isToken68Char (before ++ '=' :: (behind ++ (text ++ rest))) :=
      avoids_append (hbefore.eq_false isApart_isToken68Char) (avoids_cons.mpr (by decide))
    rw [if_pos List.isEmpty_nil, hstart.dropWhile_eq]
    by_cases hempty : before = []
    · -- Name and equals sign could belong to it, and the value comes next.
      have hend : Avoids (· == '=') (behind ++ (text ++ rest)) :=
        avoids_append (hbehind.eq_false isApart_equals) (hvalue.avoids
          (fun c hc => beq_of_isTokenChar hc (by decide)) (by decide))
      have hblank : Avoids Ascii.isBlank (text ++ rest) :=
        hvalue.avoids (fun c => isBlank_of_isTokenChar) (by decide)
      have hcomma : Avoids isSeparator (text ++ rest) :=
        hvalue.avoids (fun c => isSeparator_of_isTokenChar) (by decide)
      rw [hempty, List.nil_append, List.dropWhile_cons_of_pos (by decide), hend.dropWhile_eq,
        hblank.dropWhile_append hbehind]
      obtain ⟨d, more, rfl, -⟩ := hvalue
      exact ⟨d, more ++ rest, rfl, ne_comma (avoids_cons.mp hcomma)⟩
    · -- The name could be one, and the equals sign comes next.
      have hend : Avoids (· == '=') (before ++ '=' :: (behind ++ (text ++ rest))) :=
        avoids_append_of_ne_nil hempty (hbefore.eq_false isApart_equals)
      have hblank : Avoids Ascii.isBlank ('=' :: (behind ++ (text ++ rest))) :=
        avoids_cons.mpr (by decide)
      rw [hend.dropWhile_eq, hblank.dropWhile_append hbefore]
      exact ⟨'=', behind ++ (text ++ rest), rfl, by decide⟩

/-- A name with an equals sign and a value behind it is not taken for an opaque token. -/
theorem takesToken68_equals (hname : IsToken name) (hbefore : IsBlanks before)
    (hbehind : IsBlanks behind) (hvalue : BeginsValue text) (rest : List Char) :
    takesToken68 (name ++ (before ++ '=' :: (behind ++ (text ++ rest)))) = false := by
  obtain ⟨c, tail, hnext, hc⟩ := behindToken68_equals hname hbefore hbehind hvalue rest
  rw [takesToken68_eq, hnext, List.head?_cons, Option.all_some, beq_eq_false_iff_ne.mpr hc,
    Bool.and_false]

theorem takesToken68_param (h : SpellsParam text p) (rest : List Char) :
    takesToken68 (text ++ rest) = false := by
  cases h with
  | named hname hbefore hbehind hvalue =>
    simp only [List.append_assoc, List.cons_append]
    exact takesToken68_equals hname hbefore hbehind hvalue.begins rest

theorem takesToken68_params (h : SpellsParams text ps) (rest : List Char) :
    takesToken68 (text ++ rest) = false := by
  cases h with
  | last h => exact takesToken68_param h rest
  | cons h hgap hrest =>
    rw [List.append_assoc]
    exact takesToken68_param h _

/-! ### One challenge -/

/-- What stands behind a scheme is read up to its end. -/
theorem readRest_append {scheme : String} (h : SpellsRest scheme text c) (hrest : Ends rest) :
    (readRest scheme (text ++ rest)).1 = c ∧
      (readRest scheme (text ++ rest)).2.dropWhile isSeparator = rest.dropWhile isSeparator := by
  rw [readRest_eq]
  cases h with
  | bare =>
    have hread : readParam? (rest.dropWhile Ascii.isBlank) = none := by
      obtain hnil | ⟨more, hmore⟩ := hrest.next
      · rw [hnil, readParam?_nil]
      · rw [hmore]
        exact readParam?_eq_none (List.forall_mem_nil _) (avoids_cons.mpr (by decide))
          (avoids_cons.mpr (by decide)) (Or.inl rfl)
    rw [List.nil_append, if_neg (Bool.eq_false_iff.mp (takesToken68_of_ends hrest)),
      readParams_none hread]
    refine ⟨rfl, ?_⟩
    rw [dropWhile_isSeparator_dropWhile_isBlank, dropWhile_isSeparator_dropWhile_isBlank]
  | @token blanks token hne hblanks htoken =>
    have hstart : Avoids Ascii.isBlank (token ++ rest) :=
      htoken.avoids fun c hc => isBlank_eq_false (isApart_isToken68Char.isSeparator hc)
    rw [List.append_assoc, hstart.dropWhile_append hblanks,
      if_pos (takesToken68_append htoken hrest), token68_append htoken hrest]
    exact ⟨rfl, dropWhile_isSeparator_dropWhile_isBlank rest⟩
  | @params blanks params ps hne hblanks hparams =>
    have hstart : Avoids Ascii.isBlank (params ++ rest) :=
      hparams.avoids fun c => isBlank_of_isTokenChar
    obtain ⟨hread, hleft⟩ := readParams_append hparams hrest
    rw [List.append_assoc, hstart.dropWhile_append hblanks,
      if_neg (Bool.eq_false_iff.mp (takesToken68_params hparams rest)), hread]
    exact ⟨rfl, hleft⟩

/-- Behind a scheme no more token characters come, and blanks are not followed by an equals sign. -/
theorem SpellsRest.avoids {scheme : String} (h : SpellsRest scheme text c) (hrest : Ends rest) :
    Avoids Ascii.isTokenChar (text ++ rest) ∧
      Avoids (· == '=') ((text ++ rest).dropWhile Ascii.isBlank) := by
  cases h with
  | bare =>
    refine ⟨hrest.avoids isApart_isTokenChar, ?_⟩
    obtain hnil | ⟨more, hmore⟩ := hrest.next
    · rw [List.nil_append, hnil]
      exact avoids_nil
    · rw [List.nil_append, hmore]
      exact avoids_cons.mpr (by decide)
  | @token blanks token hne hblanks htoken =>
    rw [List.append_assoc]
    refine ⟨avoids_append_of_ne_nil hne (hblanks.eq_false isApart_isTokenChar), ?_⟩
    rw [List.dropWhile_append_of_pos hblanks]
    have hstart : Avoids Ascii.isBlank (token ++ rest) :=
      htoken.avoids fun c hc => isBlank_eq_false (isApart_isToken68Char.isSeparator hc)
    rw [hstart.dropWhile_eq]
    refine htoken.avoids fun c hc => ?_
    rw [beq_eq_false_iff_ne]
    rintro rfl
    cases hc
  | @params blanks params ps hne hblanks hparams =>
    have hstart : Avoids Ascii.isBlank (params ++ rest) :=
      hparams.avoids fun c => isBlank_of_isTokenChar
    rw [List.append_assoc]
    refine ⟨avoids_append_of_ne_nil hne (hblanks.eq_false isApart_isTokenChar), ?_⟩
    rw [hstart.dropWhile_append hblanks]
    exact hparams.avoids fun c hc => beq_of_isTokenChar hc (by decide)

/-- A challenge does not begin like a parameter. -/
theorem readParam?_spells (h : Spells text c) (hrest : Ends rest) :
    readParam? (text ++ rest) = none := by
  cases h with
  | scheme hscheme hspells =>
    obtain ⟨htoken, hequals⟩ := hspells.avoids hrest
    rw [List.append_assoc]
    exact readParam?_eq_none hscheme.chars htoken
      (hscheme.avoids fun c => isBlank_of_isTokenChar) (Or.inr hequals)

theorem Spells.avoids {q : Char → Bool} (h : Spells text c)
    (hq : ∀ c, Ascii.isTokenChar c = true → q c = false) : Avoids q (text ++ rest) := by
  cases h with
  | scheme hscheme hspells =>
    rw [List.append_assoc]
    exact hscheme.avoids hq

/-! ### All challenges of a text -/

theorem readAll_nil (h : text.dropWhile isSeparator = []) : readAll text = [] := by
  rw [readAll]
  split
  · rfl
  · next hcons =>
    rw [h] at hcons
    cases hcons

theorem readAll_other {d : Char} (h : text.dropWhile isSeparator = d :: rest)
    (hd : Ascii.isTokenChar d = false) : readAll text = readAll (skipElement rest) := by
  rw [readAll]
  split
  · next hnil =>
    rw [h] at hnil
    cases hnil
  · next hcons =>
    obtain ⟨rfl, rfl⟩ := List.cons.inj (h.symm.trans hcons)
    rw [if_neg (Bool.eq_false_iff.mp hd)]

theorem readAll_scheme (h : text.dropWhile isSeparator = scheme ++ rest) (hscheme : IsToken scheme)
    (hrest : Avoids Ascii.isTokenChar rest) :
    readAll text = (readRest (String.ofList scheme) rest).1 ::
      readAll (readRest (String.ofList scheme) rest).2 := by
  have htake := hrest.takeWhile_append hscheme.chars
  have hdrop := hrest.dropWhile_append hscheme.chars
  rw [readAll]
  split
  · next hnil =>
    rw [h] at hnil
    exact absurd (List.append_eq_nil_iff.mp hnil).1 hscheme.ne_nil
  · next d tail hcons =>
    have hsplit : scheme ++ rest = d :: tail := h.symm.trans hcons
    have hd : Ascii.isTokenChar d = true := by
      obtain ⟨first, more, rfl⟩ := List.exists_cons_of_ne_nil hscheme.ne_nil
      rw [List.cons_append] at hsplit
      rw [← (List.cons.inj hsplit).1]
      exact hscheme.chars first List.mem_cons_self
    rw [hsplit] at htake hdrop
    rw [List.dropWhile_cons_of_pos hd] at hdrop
    rw [if_pos hd, htake, hdrop]

/-- What separates elements does not matter in front of a text. -/
theorem readAll_congr (h : text.dropWhile isSeparator = rest.dropWhile isSeparator) :
    readAll text = readAll rest := by
  rw [readAll, readAll]
  split
  · next hnil =>
    rw [← h, hnil]
  · next hcons =>
    rw [← h, hcons]

/-- A challenge is read, and what follows it. -/
theorem readAll_spells (h : Spells text c) (hrest : Ends rest) :
    readAll (text ++ rest) = c :: readAll rest := by
  cases h with
  | @scheme scheme text c hscheme hspells =>
    obtain ⟨hread, hleft⟩ := readRest_append hspells hrest
    have hstart : Avoids isSeparator (scheme ++ (text ++ rest)) :=
      hscheme.avoids fun c => isSeparator_of_isTokenChar
    rw [List.append_assoc, readAll_scheme hstart.dropWhile_eq hscheme (hspells.avoids hrest).1,
      hread, readAll_congr hleft]

/-- An element that is no challenge is passed over. -/
theorem readAll_skipElement (hcomma : ',' ∉ text) (hrest : Ends rest) :
    readAll (skipElement (text ++ rest)) = readAll rest := by
  have hpass {cs : List Char} (h : ',' ∉ cs) : ∀ c ∈ cs, (c != ',') = true := by
    intro c hc
    rw [bne_iff_ne]
    rintro rfl
    exact h hc
  have hblank {cs : List Char} (h : IsBlanks cs) : ',' ∉ cs := fun hmem =>
    absurd (h ',' hmem) (by decide)
  obtain ⟨blanks, hblanks, rfl | ⟨more, rfl⟩⟩ := hrest.split
  · rw [skipElement, List.dropWhile_append_of_pos (hpass hcomma),
      List.dropWhile_eq_nil_iff.mpr (hpass (hblank hblanks)),
      readAll_nil (List.dropWhile_eq_nil_iff.mpr hblanks.isSeparator)]
    exact readAll_nil rfl
  · rw [skipElement, List.dropWhile_append_of_pos (hpass hcomma),
      List.dropWhile_append_of_pos (hpass (hblank hblanks)), List.dropWhile_cons_of_neg (by decide)]
    refine readAll_congr ?_
    rw [List.dropWhile_append_of_pos hblanks.isSeparator, List.dropWhile_cons_of_pos (by decide)]
    rfl

/-- An element of a list is read, and what follows it. It does not begin like a parameter. -/
theorem readAll_element (h : SpellsElement text cs) (hrest : Ends rest) :
    readAll (text ++ rest) = cs ++ readAll rest ∧
      readParam? ((text ++ rest).dropWhile isSeparator) = none := by
  cases h with
  | empty => exact ⟨rfl, hrest.noParam⟩
  | @other d text htoken hblank hvisible hcomma =>
    obtain ⟨hd, htext⟩ := not_or.mp (List.mem_cons.not.mp hcomma)
    have hseparator : isSeparator d = false := by
      simp only [isSeparator, hblank, Bool.false_or, beq_eq_false_iff_ne]
      exact fun heq => hd heq.symm
    have hstart : Avoids isSeparator (d :: (text ++ rest)) := avoids_cons.mpr hseparator
    rw [List.cons_append, readAll_other hstart.dropWhile_eq htoken, readAll_skipElement htext hrest,
      hstart.dropWhile_eq]
    exact ⟨rfl, readParam?_eq_none (List.forall_mem_nil _) (avoids_cons.mpr htoken)
      (avoids_cons.mpr hblank) (Or.inl rfl)⟩
  | challenge h =>
    have hstart : Avoids isSeparator (text ++ rest) :=
      h.avoids fun c => isSeparator_of_isTokenChar
    rw [hstart.dropWhile_eq]
    exact ⟨readAll_spells h hrest, readParam?_spells h hrest⟩

/-- All elements of a list are read, and the list does not begin like a parameter. -/
theorem readAll_list (h : SpellsList text cs) :
    readAll text = cs ∧ readParam? (text.dropWhile isSeparator) = none := by
  have hpass {before : List Char} (hbefore : IsBlanks before) (cs : List Char) :
      (before ++ cs).dropWhile isSeparator = cs.dropWhile isSeparator :=
    List.dropWhile_append_of_pos hbefore.isSeparator
  induction h with
  | last hbefore h hbehind =>
    obtain ⟨hread, hstart⟩ := readAll_element h (ends_of_blanks hbehind)
    rw [readAll_nil (List.dropWhile_eq_nil_iff.mpr hbehind.isSeparator), List.append_nil] at hread
    rw [readAll_congr (hpass hbefore _), hpass hbefore]
    exact ⟨hread, hstart⟩
  | @cons before text behind rest cs ds hbefore h hbehind hrest ih =>
    obtain ⟨hread, hstart⟩ := readAll_element h (ends_of_comma hbehind ih.2)
    have hnext : (behind ++ ',' :: rest).dropWhile isSeparator = rest.dropWhile isSeparator := by
      rw [hpass hbehind, List.dropWhile_cons_of_pos (by decide)]
    rw [readAll_congr hnext, ih.1] at hread
    rw [readAll_congr (hpass hbefore _), hpass hbefore]
    exact ⟨hread, hstart⟩

theorem ofValues_of_spelledByAll {values : List HeaderValue} {groups : List (List Challenge)}
    (h : SpelledByAll values groups) : ofValues values = groups.flatten := by
  induction h with
  | nil => rfl
  | @cons value cs values groups hvalue hvalues ih =>
    obtain ⟨text, hlist, hchars⟩ := hvalue.chars?
    rw [ofValues, List.filterMap_cons_some hchars, List.flatMap_cons, (readAll_list hlist).1,
      List.flatten_cons, ← ih, ofValues]

/-- Well-formed challenges can be sent in one header, distributed over its values in any way, and
whatever way the values spell them, they are read back in order and unchanged. -/
theorem ofValues_spelled {groups : List (List Challenge)}
    (hgroups : ∀ c ∈ groups.flatten, c.IsWellFormed) :
    (∃ values, SpelledByAll values groups) ∧
      ∀ values, SpelledByAll values groups → ofValues values = groups.flatten :=
  ⟨exists_spelledByAll hgroups, fun _ hvalues => ofValues_of_spelledByAll hvalues⟩

/-- A header with two values. The first has an empty element and one that is no challenge. -/
def mixedHeader : List HeaderValue :=
  [.ofAscii "NTLM TlRM==,, ;;, Basic realm = \"\\\"b\\\"\" ,charset=UTF-8", .ofAscii "Negotiate"]

/-- The header is read as three challenges. -/
theorem ofValues_mixedHeader :
    ofValues mixedHeader = [{ scheme := "NTLM", token := some "TlRM==" },
      { scheme := "Basic", params := [("realm", "\"b\""), ("charset", "UTF-8")] },
      { scheme := "Negotiate" }] := by
  have hnone : IsBlanks [] := by decide
  have hblank : IsBlanks [' '] := by decide
  have hopaque : IsToken68 ("TlRM".toList ++ ['=', '=']) :=
    .padded (by decide) (List.all_eq_true.mp (by decide)) (by simp)
  have hntlm := Spells.scheme (by decide : IsToken "NTLM".toList)
    (.token (List.cons_ne_nil _ _) hblank hopaque)
  have hquoted : Quotes ['\\', '"', 'b', '\\', '"'] ['"', 'b', '"'] :=
    .escaped (by decide) (.plain (by decide) (by decide) (by decide) (.escaped (by decide) .nil))
  have hrealm := SpellsParam.named (by decide : IsToken "realm".toList) hblank hblank
    (.quoted hquoted)
  have hcharset := SpellsParam.named (by decide : IsToken "charset".toList) hnone hnone
    (.token (by decide : IsToken "UTF-8".toList))
  have hbasic := Spells.scheme (by decide : IsToken "Basic".toList)
    (.params (List.cons_ne_nil _ _) hblank
      (.cons hrealm (by decide : IsGap [' ', ',']) (.last hcharset)))
  have hnegotiate := Spells.scheme (by decide : IsToken "Negotiate".toList) .bare
  have hother : SpellsElement [';', ';'] [] :=
    .other (by decide) (by decide) (by decide) (by decide)
  have hfirst := SpellsList.cons hnone (.challenge hntlm) hnone (.cons hnone .empty hnone
    (.cons hblank hother hnone (.last hblank (.challenge hbasic) hnone)))
  have hsecond := SpellsList.last hnone (.challenge hnegotiate) hnone
  have hvalues : SpelledByAll mixedHeader [_, _] :=
    .cons ⟨_, hfirst, by decide +kernel⟩ (.cons ⟨_, hsecond, by decide +kernel⟩ .nil)
  have hgroups : ∀ c ∈ [[_, _], [_]].flatten, IsWellFormed c :=
    List.forall_mem_cons.mpr ⟨exists_spells_iff.mp ⟨_, hntlm⟩, List.forall_mem_cons.mpr
      ⟨exists_spells_iff.mp ⟨_, hbasic⟩, List.forall_mem_singleton.mpr
        (exists_spells_iff.mp ⟨_, hnegotiate⟩)⟩⟩
  exact ((ofValues_spelled hgroups).2 mixedHeader hvalues).trans (by decide +kernel)

end Challenge

end HttpClient
