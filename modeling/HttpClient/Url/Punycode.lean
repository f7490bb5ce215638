import HttpClient.Bytes

/-!
# Punycode

Text outside ASCII in host labels: the ASCII characters first, then the others in ascending
order, each as a distance in digits of a variable radix whose thresholds adapt.
-/

namespace HttpClient.Punycode

/-- The character of a digit below 36. -/
def digit (n : Nat) : Char := if n < 26 then Char.ofNat (97 + n) else Char.ofNat (22 + n)

/-- The value of a digit of either case. -/
def value? (c : Char) : Option Nat :=
  if 'a' ≤ c ∧ c ≤ 'z' then some (c.toNat - 97)
  else if 'A' ≤ c ∧ c ≤ 'Z' then some (c.toNat - 65)
  else if c.isDigit then some (c.toNat - 22)
  else none

/-- The threshold of the digit at weight `k`. -/
def threshold (k bias : Nat) : Nat :=
  if k ≤ bias then 1 else if bias + 26 ≤ k then 26 else k - bias

theorem threshold_pos (k bias : Nat) : 0 < threshold k bias := by
  unfold threshold
  split
  · omega
  · split <;> omega

/-- The quotient below 456 and the weight that repeated division by 35 reaches. -/
def settle (delta k : Nat) : Nat × Nat :=
  if 455 < delta then settle (delta / 35) (k + 36) else (delta, k)
  termination_by delta
  decreasing_by exact Nat.div_lt_self (by omega) (by decide)

/-- The bias after a distance. -/
def adapt (delta points : Nat) (first : Bool) : Nat :=
  let scaled := if first then delta / 700 else delta / 2
  let (rest, k) := settle (scaled + scaled / points) 0
  k + 36 * rest / (rest + 38)

/-- The digits of a distance. -/
def digits (bias k q : Nat) : List Char :=
  let t := threshold k bias
  if q < t then [digit q]
  else digit (t + (q - t) % (36 - t)) :: digits bias (k + 36) ((q - t) / (36 - t))
  termination_by q
  decreasing_by
    have ht := threshold_pos k bias
    have hd := Nat.div_le_self (q - threshold k bias) (36 - threshold k bias)
    omega

/-- What the encoder carries along. -/
structure Encoder where
  out : List Char
  delta : Nat
  bias : Nat
  handled : Nat

/-- Passes over one character while code point `m` is being inserted. -/
def Encoder.pass (basic m : Nat) (e : Encoder) (c : Char) : Encoder :=
  if c.toNat < m then { e with delta := e.delta + 1 }
  else if c.toNat = m then
    { out := e.out ++ digits e.bias 36 e.delta
      delta := 0
      bias := adapt e.delta (e.handled + 1) (e.handled == basic)
      handled := e.handled + 1 }
  else e

/-- Inserts the remaining code points, smallest first; `next` is the smallest still possible. -/
def Encoder.run (cs : List Char) (basic : Nat) : List Nat → Nat → Encoder → Encoder
  | [], _, e => e
  | m :: ms, next, e =>
    let e := { e with delta := e.delta + (m - next) * (e.handled + 1) }
    let e := cs.foldl (pass basic m) e
    run cs basic ms (m + 1) { e with delta := e.delta + 1 }

/-- The encoding of a label. -/
def encode (cs : List Char) : List Char :=
  let basic := cs.filter (·.toNat < 128)
  let others := ((cs.filter (128 ≤ ·.toNat)).map Char.toNat).mergeSort.eraseDups
  let start := if basic.isEmpty then [] else basic ++ ['-']
  (Encoder.run cs basic.length others 128 ⟨start, 0, 72, basic.length⟩).out

/-- Distances and weights are below this number. -/
def limit : Nat := 0x100000000

/-- One distance and what follows its digits. -/
def distance? (bias : Nat) : (k weight sum : Nat) → List Char → Option (Nat × List Char)
  | _, _, _, [] => none
  | k, weight, sum, c :: rest => do
    let d ← value? c
    let t := threshold k bias
    let sum := sum + d * weight
    if limit ≤ sum then none
    else if d < t then some (sum, rest)
    else if limit ≤ weight * (36 - t) then none
    else distance? bias (k + 36) (weight * (36 - t)) sum rest

/-- Inserts the characters that the remaining digits describe, at most `fuel` of them. -/
def insertAll? : (fuel : Nat) → (bias point place : Nat) → List Char → List Char →
    Option (List Char)
  | _, _, _, _, [], out => some out
  | 0, _, _, _, _ :: _, _ => none
  | fuel + 1, bias, point, place, cs, out => do
    let (delta, rest) ← distance? bias 36 1 0 cs
    let size := out.length + 1
    let total := place + delta
    let point := point + total / size
    let pos := total % size
    if h : point.isValidChar then
      let out := out.take pos ++ [Char.ofNatAux point h] ++ out.drop pos
      insertAll? fuel (adapt delta size (place == 0)) point (pos + 1) rest out
    else none

/-- The label that an encoding stands for; no hyphen is written where nothing precedes it. -/
def decode? (cs : List Char) : Option (List Char) :=
  let tail := cs.reverse.takeWhile (· != '-')
  let basic := cs.take (cs.length - tail.length - 1)
  if basic.isEmpty && cs.head? == some '-' then none
  else if basic.all (·.toNat < 128) then insertAll? cs.length 72 128 0 tail.reverse basic
  else none

end HttpClient.Punycode
