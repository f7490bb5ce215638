import HttpClient.Proofs.Auth.Challenges.Parsing

/-!
# Reading any text for challenges

Reading takes any text in turns, whatever stands in it. A turn reads a challenge or passes over
what cannot be one. A guess within a turn may fail, and reading then goes back to where the guess
began; but that is behind the scheme of the challenge, so that the turn still takes at least one
character. Whatever is read has the form of a challenge and stands in the text, and each challenge
and each parameter takes a character of its own.
-/

namespace HttpClient

namespace Challenge

variable {text cs rest : List Char} {p : String × String} {c : Challenge} {scheme : String}

/-! ### Readers stop within the text -/

theorem suffix_quoted (cs : List Char) : (quoted cs).2 <:+ cs := by
  fun_induction quoted cs with
  | case1 => exact List.suffix_rfl
  | case2 rest => exact List.suffix_cons _ _
  | case3 h => exact List.nil_suffix
  | case4 h escaped rest ih => exact ih.trans ((List.suffix_cons _ _).trans (List.suffix_cons _ _))
  | case5 c rest hquote hslash ih => exact ih.trans (List.suffix_cons _ _)

theorem suffix_value (cs : List Char) : (value cs).2 <:+ cs := by
  unfold value
  split
  · exact (suffix_quoted _).trans (List.suffix_cons _ _)
  · exact List.dropWhile_suffix _

theorem suffix_token68 (cs : List Char) : (token68 cs).2 <:+ cs := by
  unfold token68
  dsimp only
  split
  · exact List.suffix_rfl
  · exact (List.dropWhile_suffix _).trans (List.dropWhile_suffix _)

theorem suffix_skipElement (cs : List Char) : skipElement cs <:+ cs :=
  (List.drop_suffix _ _).trans (List.dropWhile_suffix _)

/-! ### What is read stands in the text -/

/-- A parameter stands in a text: a word and an equals sign, and behind it a value in quotes or a
run of token characters. -/
inductive StandsIn (text : List Char) : String × String → Prop
  | token {name before behind value rest : List Char} (hname : IsToken name)
      (hbefore : IsBlanks before) (hbehind : IsBlanks behind)
      (hvalue : ∀ c ∈ value, Ascii.isTokenChar c = true) (hrest : Avoids Ascii.isTokenChar rest)
      (hplace : name ++ (before ++ '=' :: (behind ++ (value ++ rest))) <:+ text) :
      StandsIn text (String.ofList name, String.ofList value)
  | quoted {name before behind rest : List Char} (hname : IsToken name) (hbefore : IsBlanks before)
      (hbehind : IsBlanks behind)
      (hplace : name ++ (before ++ '=' :: (behind ++ '"' :: rest)) <:+ text) :
      StandsIn text (String.ofList name, String.ofList (quoted rest).1)

theorem StandsIn.mono (h : StandsIn cs p) (hsuffix : cs <:+ text) : StandsIn text p := by
  cases h with
  | token hname hbefore hbehind hvalue hrest hplace =>
    exact .token hname hbefore hbehind hvalue hrest (hplace.trans hsuffix)
  | quoted hname hbefore hbehind hplace =>
    exact .quoted hname hbefore hbehind (hplace.trans hsuffix)

theorem avoids_dropWhile (q : Char → Bool) (cs : List Char) : Avoids q (cs.dropWhile q) := by
  intro c hc
  have hnot := List.head?_dropWhile_not q cs
  rwa [Option.mem_def.mp hc] at hnot

theorem forall_mem_takeWhile (q : Char → Bool) (cs : List Char) :
    ∀ c ∈ cs.takeWhile q, q c = true :=
  fun _ => List.mem_takeWhile_imp

/-- Where a parameter is read, a word stands in front of an equals sign. -/
theorem readParam?_some (h : readParam? cs = some (p, rest)) :
    ∃ name before behind after, IsToken name ∧ IsBlanks before ∧ IsBlanks behind ∧
      name ++ (before ++ '=' :: (behind ++ after)) <:+ cs ∧
      p = (String.ofList name, String.ofList (value after).1) ∧ rest = (value after).2 := by
  simp only [readParam?] at h
  split at h
  · next tail htail =>
    split at h
    · cases h
    · next hname =>
      obtain ⟨rfl, rfl⟩ := Prod.mk.inj (Option.some.inj h)
      refine ⟨(cs.dropWhile Ascii.isBlank).takeWhile Ascii.isTokenChar,
        ((cs.dropWhile Ascii.isBlank).dropWhile Ascii.isTokenChar).takeWhile Ascii.isBlank,
        tail.takeWhile Ascii.isBlank, tail.dropWhile Ascii.isBlank,
        ⟨fun hnil => hname (List.isEmpty_iff.mpr hnil), forall_mem_takeWhile _ _⟩,
        forall_mem_takeWhile _ _, forall_mem_takeWhile _ _, ?_, rfl, rfl⟩
      rw [List.takeWhile_append_dropWhile, ← htail, List.takeWhile_append_dropWhile,
        List.takeWhile_append_dropWhile]
      exact List.dropWhile_suffix _
  · cases h

theorem suffix_readParam? (h : readParam? cs = some (p, rest)) : rest <:+ cs := by
  obtain ⟨name, before, behind, after, -, -, -, hplace, -, rfl⟩ := readParam?_some h
  have hafter : after <:+ name ++ (before ++ '=' :: (behind ++ after)) :=
    (((List.suffix_append _ _).trans (List.suffix_cons _ _)).trans
      (List.suffix_append _ _)).trans (List.suffix_append _ _)
  exact ((suffix_value after).trans hafter).trans hplace

theorem standsIn_of_readParam? (h : readParam? cs = some (p, rest)) : StandsIn cs p := by
  obtain ⟨name, before, behind, after, hname, hbefore, hbehind, hplace, rfl, -⟩ :=
    readParam?_some h
  unfold value
  split
  · exact .quoted hname hbefore hbehind hplace
  · refine .token hname hbefore hbehind (forall_mem_takeWhile _ _)
      (avoids_dropWhile Ascii.isTokenChar after) ?_
    rw [List.takeWhile_append_dropWhile]
    exact hplace

/-- Parameters stop within the text, stand in it and take a character each. -/
theorem readParams_spec (cs : List Char) :
    (readParams cs).2 <:+ cs ∧ (∀ p ∈ (readParams cs).1, StandsIn cs p) ∧
      (readParams cs).1.length + (readParams cs).2.length ≤ cs.length := by
  fun_induction readParams cs with
  | case1 cs h =>
    exact ⟨List.dropWhile_suffix _, List.forall_mem_nil _,
      by simpa using length_dropWhile_le _ cs⟩
  | case2 cs p rest h tail hcomma more ih =>
    obtain ⟨hsuffix, hstand, hlength⟩ := ih
    have hrest : rest.dropWhile isSeparator <:+ cs :=
      (List.dropWhile_suffix _).trans (suffix_readParam? h)
    refine ⟨hsuffix.trans hrest, List.forall_mem_cons.mpr
      ⟨standsIn_of_readParam? h, fun p hp => (hstand p hp).mono hrest⟩, ?_⟩
    have hshorter := length_readParam?_lt h
    have hdropped := length_dropWhile_le isSeparator rest
    simp only [more, List.length_cons]
    omega
  | case3 cs p rest h hcomma =>
    refine ⟨(List.dropWhile_suffix _).trans (suffix_readParam? h),
      List.forall_mem_singleton.mpr (standsIn_of_readParam? h), ?_⟩
    have hshorter := length_readParam?_lt h
    have hdropped := length_dropWhile_le Ascii.isBlank rest
    simp only [List.length_singleton]
    omega

/-- A challenge that is read from a text: its scheme is a word, it has an opaque token or parameters
but not both, and its parameters stand in the text. -/
structure IsReadFrom (c : Challenge) (text : List Char) : Prop where
  scheme : IsToken c.scheme.toList
  token : ∀ t ∈ c.token, IsToken68 t.toList ∧ c.params = []
  params : ∀ p ∈ c.params, StandsIn text p

theorem IsReadFrom.mono (h : c.IsReadFrom cs) (hsuffix : cs <:+ text) : c.IsReadFrom text where
  scheme := h.scheme
  token := h.token
  params := fun p hp => (h.params p hp).mono hsuffix

theorem isToken68_of_takesToken68 (h : takesToken68 cs = true) : IsToken68 (token68 cs).1 := by
  simp only [takesToken68, Bool.and_eq_true, Bool.not_eq_true', List.isEmpty_eq_false_iff] at h
  have hne := h.1
  unfold token68 at hne ⊢
  dsimp only at hne ⊢
  split at hne
  · exact absurd rfl hne
  · next hword =>
    rw [if_neg hword]
    exact .padded (fun hnil => hword (List.isEmpty_iff.mpr hnil)) (forall_mem_takeWhile _ _)
      fun c hc => beq_iff_eq.mp (forall_mem_takeWhile _ _ c hc)

/-- What stands behind a scheme is read within the text. -/
theorem readRest_spec (hscheme : IsToken scheme.toList) (cs : List Char) :
    (readRest scheme cs).2 <:+ cs ∧ (readRest scheme cs).1.IsReadFrom cs ∧
      (readRest scheme cs).1.params.length + (readRest scheme cs).2.length ≤ cs.length := by
  have hblanks : cs.dropWhile Ascii.isBlank <:+ cs := List.dropWhile_suffix _
  rw [readRest_eq]
  split
  · next htoken =>
    have hsuffix : (token68 (cs.dropWhile Ascii.isBlank)).2.dropWhile Ascii.isBlank <:+ cs :=
      ((List.dropWhile_suffix _).trans (suffix_token68 _)).trans hblanks
    refine ⟨hsuffix, ⟨hscheme, ?_, List.forall_mem_nil _⟩, by simpa using hsuffix.length_le⟩
    intro t ht
    obtain rfl := Option.some.inj ht
    rw [String.toList_ofList]
    exact ⟨isToken68_of_takesToken68 htoken, rfl⟩
  · obtain ⟨hsuffix, hstand, hlength⟩ := readParams_spec (cs.dropWhile Ascii.isBlank)
    refine ⟨hsuffix.trans hblanks, ⟨hscheme, nofun, fun p hp => (hstand p hp).mono hblanks⟩, ?_⟩
    exact Nat.le_trans hlength hblanks.length_le

/-! ### Turns -/

/-- One turn: the challenge that is read, unless what comes next is no challenge and is passed over,
and what is left. There is no turn where only separators are left. -/
def turn? (cs : List Char) : Option (Option Challenge × List Char) :=
  match cs.dropWhile isSeparator with
  | [] => none
  | c :: tail =>
    if Ascii.isTokenChar c then
      let next := readRest (String.ofList ((c :: tail).takeWhile Ascii.isTokenChar))
        (tail.dropWhile Ascii.isTokenChar)
      some (some next.1, next.2)
    else some (none, skipElement tail)

/-- Turn after turn is made until there is none. -/
theorem readAll_turn (cs : List Char) :
    readAll cs =
      match turn? cs with
      | none => []
      | some (found, rest) => found.toList ++ readAll rest := by
  rw [readAll, turn?]
  split
  · next hnil => rw [hnil]
  · next c tail hcons =>
    rw [hcons]
    by_cases hc : Ascii.isTokenChar c = true
    · simp only [if_pos hc, Option.toList_some, List.singleton_append]
    · simp only [if_neg hc, Option.toList_none, List.nil_append]

/-- A turn stops within the text, has read what stands there, and has taken a character for each
challenge and each parameter and one in any case. -/
theorem turn?_spec {found : Option Challenge} (h : turn? cs = some (found, rest)) :
    rest <:+ cs ∧ (∀ c ∈ found, c.IsReadFrom cs) ∧
      (found.toList.flatMap params).length + 1 + rest.length ≤ cs.length := by
  have hstart : cs.dropWhile isSeparator <:+ cs := List.dropWhile_suffix _
  unfold turn? at h
  split at h
  · cases h
  · next c tail hcons =>
    have htail : tail <:+ cs := (List.suffix_cons c tail).trans (hcons ▸ hstart)
    have hlonger : tail.length + 1 ≤ cs.length := by
      have hlength := hstart.length_le
      rwa [hcons, List.length_cons] at hlength
    split at h
    · next hc =>
      obtain ⟨rfl, rfl⟩ := Prod.mk.inj (Option.some.inj h)
      have hscheme : IsToken
          (String.ofList ((c :: tail).takeWhile Ascii.isTokenChar)).toList := by
        rw [String.toList_ofList]
        refine ⟨?_, forall_mem_takeWhile _ _⟩
        rw [List.takeWhile_cons_of_pos hc]
        exact List.cons_ne_nil _ _
      have hbehind : tail.dropWhile Ascii.isTokenChar <:+ tail := List.dropWhile_suffix _
      obtain ⟨hsuffix, hread, hlength⟩ := readRest_spec hscheme (tail.dropWhile Ascii.isTokenChar)
      have hshorter := hbehind.length_le
      refine ⟨(hsuffix.trans hbehind).trans htail, ?_, ?_⟩
      · rintro _ ⟨⟩
        exact hread.mono (hbehind.trans htail)
      · simp only [Option.toList_some, List.flatMap_cons, List.flatMap_nil, List.append_nil]
        omega
    · obtain ⟨rfl, rfl⟩ := Prod.mk.inj (Option.some.inj h)
      have hsuffix := suffix_skipElement tail
      have hshorter := hsuffix.length_le
      refine ⟨hsuffix.trans htail, nofun, ?_⟩
      simp only [Option.toList_none, List.flatMap_nil, List.length_nil]
      omega

/-! ### The course of reading -/

/-- The course of reading a text from a position: where its turns stop, and what they read. -/
inductive Course (text : List Char) : Nat → List Nat → List Challenge → Prop
  | done {start : Nat} (h : turn? (text.drop start) = none) : Course text start [] []
  | turn {start stop : Nat} {stops : List Nat} {found : Option Challenge} {cs : List Challenge}
      (h : turn? (text.drop start) = some (found, text.drop stop))
      (hrest : Course text stop stops cs) :
      Course text start (stop :: stops) (found.toList ++ cs)

/-- From every position within a text its reading has a course, and each turn stops further on but
within the text. -/
theorem exists_course (text : List Char) (start : Nat) (hstart : start ≤ text.length) :
    ∃ stops, Course text start stops (readAll (text.drop start)) ∧
      (start :: stops).Pairwise (· < ·) ∧ ∀ stop ∈ stops, stop ≤ text.length := by
  -- Induction on the characters that are left.
  induction hleft : text.length - start using Nat.strongRecOn generalizing start with
  | ind left ih =>
    rw [readAll_turn]
    cases hturn : turn? (text.drop start) with
    | none => exact ⟨[], .done hturn, List.pairwise_singleton _ _, List.forall_mem_nil _⟩
    | some next =>
      obtain ⟨found, rest⟩ := next
      obtain ⟨hsuffix, -, hlength⟩ := turn?_spec hturn
      obtain ⟨stop, hstop, hend, rfl⟩ :
          ∃ stop, start < stop ∧ stop ≤ text.length ∧ rest = text.drop stop := by
        rw [List.length_drop] at hlength
        refine ⟨text.length - rest.length, by omega, by omega, ?_⟩
        exact List.suffix_iff_eq_drop.mp (hsuffix.trans (List.drop_suffix _ _))
      obtain ⟨stops, hcourse, horder, hwithin⟩ :=
        ih (text.length - stop) (by omega) stop hend rfl
      refine ⟨stop :: stops, .turn hturn hcourse, ?_, List.forall_mem_cons.mpr ⟨hend, hwithin⟩⟩
      refine List.pairwise_cons.mpr ⟨?_, horder⟩
      refine List.forall_mem_cons.mpr ⟨hstop, fun later hlater => ?_⟩
      exact Nat.lt_trans hstop ((List.pairwise_cons.mp horder).1 later hlater)

/-- All that a course reads stands in the text. -/
theorem Course.isReadFrom {start : Nat} {stops : List Nat} {cs : List Challenge}
    (h : Course text start stops cs) : ∀ c ∈ cs, c.IsReadFrom text := by
  induction h with
  | done => exact List.forall_mem_nil _
  | turn h hrest ih =>
    rw [List.forall_mem_append]
    refine ⟨fun c hc => ?_, ih⟩
    exact ((turn?_spec h).2.1 c (Option.mem_toList.mp hc)).mono (List.drop_suffix _ _)

/-- What a course reads takes as many characters as there are challenges and parameters. -/
theorem Course.length_le {start : Nat} {stops : List Nat} {cs : List Challenge}
    (h : Course text start stops cs) :
    cs.length + (cs.flatMap params).length ≤ (text.drop start).length := by
  induction h with
  | done => exact Nat.zero_le _
  | @turn start stop stops found cs h hrest ih =>
    have hlength := (turn?_spec h).2.2
    have hfound : found.toList.length ≤ 1 := by cases found <;> simp
    rw [List.flatMap_append, List.length_append, List.length_append]
    omega

/-- Reading is safe on any text, whatever its characters are. It takes turns, each of which stops
further on than the one before and within the text; whatever it reads has the form of a challenge;
and there are no more challenges and parameters together than characters. -/
theorem readAll_safe (text : List Char) :
    (∃ stops, Course text 0 stops (readAll text) ∧ (0 :: stops).Pairwise (· < ·) ∧
      ∀ stop ∈ stops, stop ≤ text.length) ∧
    (∀ c ∈ readAll text, c.IsReadFrom text) ∧
    (readAll text).length + ((readAll text).flatMap params).length ≤ text.length := by
  obtain ⟨stops, hcourse, horder, hwithin⟩ := exists_course text 0 (Nat.zero_le _)
  rw [List.drop_zero] at hcourse
  exact ⟨⟨stops, hcourse, horder, hwithin⟩, hcourse.isReadFrom, hcourse.length_le⟩

end Challenge

end HttpClient
