import HttpClient.Response
import Mathlib.Data.List.TakeWhile

/-!
# The options of a connection

What a `Connection` field lists is found between its commas, without the blanks around it and in any
letter case. Here it is said what that means, apart from the way in which the field is read.
-/

namespace HttpClient

namespace Ascii

/-- The pieces between separators are those of the standard library. -/
theorem splitAt_eq_splitOn (sep : Char) (cs : List Char) : splitAt sep cs = cs.splitOn sep := by
  induction cs with
  | nil => rw [List.splitOn_nil, splitAt]
  | cons c rest ih =>
    rw [splitAt, ih, List.splitOn_cons_eq_if_modifyHead]
    cases hpieces : rest.splitOn sep with
    | nil => exact absurd hpieces (List.splitOn_ne_nil sep rest)
    | cons piece pieces => simp only [beq_iff_eq, List.modifyHead_cons]

/-- What is taken off a text at both ends is of the class. -/
theorem eq_trimBy (p : Char → Bool) (cs : List Char) :
    ∃ before after, cs = before ++ trimBy p cs ++ after ∧ ∀ c ∈ before ++ after, p c = true := by
  let rest := cs.dropWhile p
  refine ⟨cs.takeWhile p, (rest.reverse.takeWhile p).reverse, ?_, fun c hc => ?_⟩
  · have hrest : trimBy p cs ++ (rest.reverse.takeWhile p).reverse = rest := by
      rw [trimBy, ← List.reverse_append, List.takeWhile_append_dropWhile, List.reverse_reverse]
    rw [List.append_assoc, hrest, List.takeWhile_append_dropWhile]
  · rcases List.mem_append.mp hc with hbefore | hafter
    · exact List.mem_takeWhile_imp hbefore
    · exact List.mem_takeWhile_imp (List.mem_reverse.mp hafter)

/-- Nothing more is taken off than what is of the class. -/
theorem trimBy_append {p : Char → Bool} {before word after : List Char}
    (hends : ∀ c ∈ before ++ after, p c = true) (hword : ∀ c ∈ word, p c = false) :
    trimBy p (before ++ word ++ after) = word := by
  have hbefore : ∀ c ∈ before, p c = true := fun c hc => hends c (List.mem_append_left _ hc)
  have hafter : ∀ c ∈ after.reverse, p c = true :=
    fun c hc => hends c (List.mem_append_right _ (List.mem_reverse.mp hc))
  have hkeep : ∀ cs tail, cs ≠ [] → (∀ c ∈ cs, p c = false) →
      (cs ++ tail).dropWhile p = cs ++ tail := by
    rintro (_ | ⟨c, cs⟩) tail hne hnone
    · exact absurd rfl hne
    · exact List.dropWhile_cons_of_neg (by rw [hnone c List.mem_cons_self]; nofun)
  rw [trimBy, List.append_assoc, List.dropWhile_append_of_pos hbefore]
  by_cases hempty : word = []
  · have hnone : after.dropWhile p = [] :=
      List.dropWhile_eq_nil_iff.mpr fun c hc => hafter c (List.mem_reverse.mpr hc)
    rw [hempty, List.nil_append, hnone]
    rfl
  · have hlast := hkeep word.reverse [] (mt List.reverse_eq_nil_iff.mp hempty)
      fun c hc => hword c (List.mem_reverse.mp hc)
    rw [List.append_nil] at hlast
    rw [hkeep word after hempty hword, List.reverse_append, List.dropWhile_append_of_pos hafter,
      hlast, List.reverse_reverse]

end Ascii

/-- True for a head whose `Connection` fields list an option. -/
def Head.Lists (h : Head) (option : String) : Prop :=
  ∃ value ∈ h.headers.values "connection", ∃ text, value.chars? = some text ∧
    ∃ before word after, before ++ word ++ after ∈ text.splitOn ',' ∧
      (∀ c ∈ before ++ after, c = ' ' ∨ c = '\t') ∧ word.map Char.toLower = option.toList

/-- The option of a name in lower case without blanks is looked for where it is listed. -/
theorem Head.hasOption_iff (h : Head) {option : String}
    (hoption : option.toList.all fun c => !Ascii.isBlank c && c.toLower == c) :
    h.hasOption option = true ↔ h.Lists option := by
  have hplain : ∀ c ∈ option.toList, Ascii.isBlank c = false ∧ c.toLower = c := by
    simpa only [List.all_eq_true, Bool.and_eq_true, Bool.not_eq_true', beq_iff_eq] using hoption
  have hlower : option.toList.map Char.toLower = option.toList :=
    (List.map_congr_left fun c hc => (hplain c hc).2).trans (List.map_id' _)
  have hsame : ∀ word, Ascii.sameLetters (String.ofList word) option = true ↔
      word.map Char.toLower = option.toList := by
    intro word
    rw [Ascii.sameLetters, beq_iff_eq, Ascii.lower, Ascii.lower, String.ofList_inj,
      String.toList_ofList, hlower]
  have hblank : ∀ c, Ascii.isBlank c = true ↔ c = ' ' ∨ c = '\t' := by
    intro c
    simp only [Ascii.isBlank, Bool.or_eq_true, decide_eq_true_eq]
  simp only [hasOption, List.any_eq_true, List.mem_filterMap, Ascii.splitAt_eq_splitOn, hsame]
  constructor
  · rintro ⟨text, ⟨value, hvalue, htext⟩, piece, hpiece, hword⟩
    obtain ⟨before, after, hsplit, hends⟩ := Ascii.eq_trimBy Ascii.isBlank piece
    rw [hsplit] at hpiece
    exact ⟨value, hvalue, text, htext, before, _, after, hpiece,
      fun c hc => (hblank c).mp (hends c hc), hword⟩
  · rintro ⟨value, hvalue, text, htext, before, word, after, hpiece, hends, hword⟩
    refine ⟨text, ⟨value, hvalue, htext⟩, _, hpiece, ?_⟩
    rw [Ascii.trimBy_append (fun c hc => (hblank c).mpr (hends c hc)), hword]
    -- A blank in the word would be one of the option, for blanks have no case.
    intro c hc
    rw [← Bool.not_eq_true]
    intro hisBlank
    have hlowered : c.toLower = c := by
      rcases (hblank c).mp hisBlank with rfl | rfl <;> rfl
    have hmem : c.toLower ∈ option.toList := hword ▸ List.mem_map_of_mem hc
    rw [hlowered] at hmem
    cases hisBlank.symm.trans (hplain c hmem).1

end HttpClient
