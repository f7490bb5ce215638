import HttpClient.Text.Hex

/-!
# IPv4 addresses in hosts

A host whose last label is a number is an address of one to four numbers, decimal, octal
after a zero, or hexadecimal after `0x`; the last number fills the remaining bytes.
-/

namespace HttpClient.Ipv4

/-- The value of digits in a radix. -/
def ofDigits (radix : Nat) (cs : List Char) : Nat :=
  cs.foldl (fun n c => radix * n + (Hex.value? c).getD 0) 0

/-- The digits and the radix of a label that may be a number. -/
def splitRadix (cs : List Char) : Nat × List Char :=
  match cs with
  | '0' :: 'x' :: rest => (16, rest)
  | '0' :: 'X' :: rest => (16, rest)
  | '0' :: d :: rest => (8, d :: rest)
  | cs => (10, cs)

/-- The number written by a label. -/
def number? (cs : List Char) : Option Nat :=
  if cs.isEmpty then none
  else
    let (radix, digits) := splitRadix cs
    if digits.all (fun c => (Hex.value? c).any (· < radix)) then some (ofDigits radix digits)
    else none

/-- Labels without the empty one that a final dot leaves. -/
def dropFinalEmpty (labels : List (List Char)) : List (List Char) :=
  if labels.getLast? == some [] && 1 < labels.length then labels.dropLast else labels

/-- True when the last label is a number, so that the host must be an address. -/
def endsInNumber (labels : List (List Char)) : Bool :=
  match (dropFinalEmpty labels).getLast? with
  | none => false
  | some last => (!last.isEmpty && last.all Char.isDigit) || (number? last).isSome

/-- The address of at most four numbers, of which all but the last fit a byte. -/
def ofNumbers? (numbers : List Nat) : Option Nat :=
  match numbers.reverse with
  | [] => none
  | last :: heads =>
    if heads.length ≤ 3 ∧ last < Nat.pow 256 (4 - heads.length) ∧ heads.all (· < 256) then
      some (heads.reverse.foldl (fun n b => 256 * n + b) 0 * Nat.pow 256 (4 - heads.length) + last)
    else none

/-- The address written by the labels of a host. -/
def parse? (labels : List (List Char)) : Option Nat := do
  let numbers ← (dropFinalEmpty labels).mapM number?
  ofNumbers? numbers

/-- Four decimal numbers. -/
def render (n : Nat) : String :=
  let byte := fun (i : Nat) => toString (n / Nat.pow 256 i % 256)
  byte 3 ++ "." ++ byte 2 ++ "." ++ byte 1 ++ "." ++ byte 0

end HttpClient.Ipv4
