import HttpClient.Header.Fields

/-!
# Challenges

What a server asks for: a scheme followed by an opaque token or by named parameters. A header
may hold several challenges and may be repeated. Reading never fails; it passes over what is
no challenge, each step leaving less text than before.
-/

namespace HttpClient

/-- One challenge offered by a server. -/
structure Challenge where
  scheme : String
  /-- The opaque token after the scheme. -/
  token : Option String := none
  params : List (String × String) := []
  deriving DecidableEq, Repr

namespace Challenge

/-- True for the scheme of this name in any letter case. -/
def is (c : Challenge) (scheme : String) : Bool := Ascii.sameLetters c.scheme scheme

/-- The value of the first parameter of this name in any letter case. -/
def param? (c : Challenge) (name : String) : Option String :=
  (c.params.find? fun p => Ascii.sameLetters p.1 name).map Prod.snd

/-- The first challenge of a scheme. -/
def find? (challenges : List Challenge) (scheme : String) : Option Challenge :=
  List.find? (·.is scheme) challenges

/-- True for blanks and the commas between list elements. -/
def isSeparator (c : Char) : Bool := Ascii.isBlank c || c == ','

/-- The content of a quoted string after its opening quote, and what follows the closing one. -/
def quoted : List Char → List Char × List Char
  | [] => ([], [])
  | c :: rest =>
    if c = '"' then ([], rest)
    else if c = '\\' then
      match rest with
      | [] => ([], [])
      | escaped :: rest => (escaped :: (quoted rest).1, (quoted rest).2)
    else (c :: (quoted rest).1, (quoted rest).2)

/-- The opaque token at the start of a text, and the rest. -/
def token68 (cs : List Char) : List Char × List Char :=
  let word := cs.takeWhile Ascii.isToken68Char
  if word.isEmpty then ([], cs)
  else
    let rest := cs.dropWhile Ascii.isToken68Char
    (word ++ rest.takeWhile (· == '='), rest.dropWhile (· == '='))

/-- A value, quoted or a token, and the rest. -/
def value (cs : List Char) : List Char × List Char :=
  match cs with
  | '"' :: rest => quoted rest
  | _ => (cs.takeWhile Ascii.isTokenChar, cs.dropWhile Ascii.isTokenChar)

/-- A parameter after blanks, and the rest. -/
def readParam? (cs : List Char) : Option ((String × String) × List Char) :=
  let cs := cs.dropWhile Ascii.isBlank
  let name := cs.takeWhile Ascii.isTokenChar
  match (cs.dropWhile Ascii.isTokenChar).dropWhile Ascii.isBlank with
  | '=' :: rest =>
    if name.isEmpty then none
    else
      let v := value (rest.dropWhile Ascii.isBlank)
      some ((String.ofList name, String.ofList v.1), v.2)
  | _ => none

theorem length_dropWhile_le (p : Char → Bool) (cs : List Char) :
    (cs.dropWhile p).length ≤ cs.length := (List.dropWhile_suffix p).length_le

theorem length_quoted_le (cs : List Char) : (quoted cs).2.length ≤ cs.length := by
  fun_induction quoted cs <;> simp only [List.length_cons, List.length_nil] <;> omega

theorem length_value_le (cs : List Char) : (value cs).2.length ≤ cs.length := by
  unfold value
  split
  · next rest => have := length_quoted_le rest; simp only [List.length_cons]; omega
  · exact length_dropWhile_le _ _

theorem length_token68_le (cs : List Char) : (token68 cs).2.length ≤ cs.length := by
  unfold token68
  dsimp only
  split
  · exact Nat.le_refl _
  · exact Nat.le_trans (length_dropWhile_le _ _) (length_dropWhile_le _ _)

/-- A parameter takes at least one character. -/
theorem length_readParam?_lt {cs : List Char} {p : String × String} {rest : List Char}
    (h : readParam? cs = some (p, rest)) : rest.length < cs.length := by
  unfold readParam? at h
  dsimp only at h
  split at h
  · next tail heq =>
    split at h
    · cases h
    · simp only [Option.some.injEq, Prod.mk.injEq] at h
      obtain ⟨-, rfl⟩ := h
      have h1 := length_value_le (tail.dropWhile Ascii.isBlank)
      have h2 := length_dropWhile_le Ascii.isBlank tail
      have h3 := congrArg List.length heq
      have h4 := length_dropWhile_le Ascii.isBlank
        ((cs.dropWhile Ascii.isBlank).dropWhile Ascii.isTokenChar)
      have h5 := length_dropWhile_le Ascii.isTokenChar (cs.dropWhile Ascii.isBlank)
      have h6 := length_dropWhile_le Ascii.isBlank cs
      simp only [List.length_cons] at h3
      omega
  · cases h

/-- The parameters separated by commas, and what follows them. -/
def readParams (cs : List Char) : List (String × String) × List Char :=
  match _h : readParam? cs with
  | none => ([], cs.dropWhile Ascii.isBlank)
  | some (p, rest) =>
    match rest.dropWhile Ascii.isBlank with
    | ',' :: _ =>
      let more := readParams (rest.dropWhile isSeparator)
      (p :: more.1, more.2)
    | rest => ([p], rest)
  termination_by cs.length
  decreasing_by
    exact Nat.lt_of_le_of_lt (length_dropWhile_le _ _) (length_readParam?_lt _h)

theorem length_readParams_le (cs : List Char) : (readParams cs).2.length ≤ cs.length := by
  fun_induction readParams cs with
  | case1 cs h => exact length_dropWhile_le _ _
  | case2 cs p rest h tail heq more ih =>
    have h1 := length_readParam?_lt h
    have h2 := length_dropWhile_le isSeparator rest
    simp only [more] at ih ⊢
    omega
  | case3 cs p rest h heq =>
    have h1 := length_readParam?_lt h
    have h2 := length_dropWhile_le Ascii.isBlank rest
    dsimp only
    omega

/-- The text behind the next comma. -/
def skipElement (cs : List Char) : List Char := (cs.dropWhile (· != ',')).drop 1

/-- The challenge after a scheme, and what follows it. -/
def readRest (scheme : String) (cs : List Char) : Challenge × List Char :=
  let cs := cs.dropWhile Ascii.isBlank
  let (token, rest) := token68 cs
  let rest := rest.dropWhile Ascii.isBlank
  if !token.isEmpty && (rest.head?.all (· == ',')) then
    ({ scheme := scheme, token := some (String.ofList token) }, rest)
  else
    let (params, rest) := readParams cs
    ({ scheme := scheme, params := params }, rest)

theorem length_readRest_le (scheme : String) (cs : List Char) :
    (readRest scheme cs).2.length ≤ cs.length := by
  unfold readRest
  dsimp only
  have h1 := length_dropWhile_le Ascii.isBlank cs
  split
  · have h2 := length_token68_le (cs.dropWhile Ascii.isBlank)
    have h3 := length_dropWhile_le Ascii.isBlank (token68 (cs.dropWhile Ascii.isBlank)).2
    dsimp only
    omega
  · have h2 := length_readParams_le (cs.dropWhile Ascii.isBlank)
    dsimp only
    omega

/-- All challenges in a text. -/
def readAll (cs : List Char) : List Challenge :=
  match _h : cs.dropWhile isSeparator with
  | [] => []
  | c :: tail =>
    if Ascii.isTokenChar c then
      let scheme := (c :: tail).takeWhile Ascii.isTokenChar
      let next := readRest (String.ofList scheme) (tail.dropWhile Ascii.isTokenChar)
      next.1 :: readAll next.2
    else readAll (skipElement tail)
  termination_by cs.length
  decreasing_by
    · have h1 := length_readRest_le
        (String.ofList ((c :: tail).takeWhile Ascii.isTokenChar)) (tail.dropWhile Ascii.isTokenChar)
      have h2 := length_dropWhile_le Ascii.isTokenChar tail
      have h3 := length_dropWhile_le isSeparator cs
      have h4 := congrArg List.length _h
      simp only [List.length_cons] at h4
      omega
    · have h2 := length_dropWhile_le (· != ',') tail
      have h3 := length_dropWhile_le isSeparator cs
      have h4 := congrArg List.length _h
      simp only [List.length_cons] at h4
      simp only [skipElement, List.length_drop]
      omega

/-- All challenges in the values of a header; values that are no visible text are passed over. -/
def ofValues (values : List HeaderValue) : List Challenge :=
  (values.filterMap HeaderValue.chars?).flatMap readAll

end Challenge

end HttpClient
