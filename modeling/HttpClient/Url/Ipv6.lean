import HttpClient.Text.Ascii
import HttpClient.Text.Hex
import HttpClient.Url.Ipv4

/-!
# IPv6 addresses in hosts

Eight pieces of up to four hexadecimal digits. Two colons in a row stand for at least one
zero piece, and the last two pieces may be written as four decimal numbers. Printing uses
the two colons for the first longest run of at least two zero pieces.
-/

namespace HttpClient.Ipv6

/-- One piece of one to four digits. -/
def piece? (cs : List Char) : Option Nat :=
  if cs.isEmpty || 4 < cs.length || !cs.all (fun c => (Hex.value? c).isSome) then none
  else some (Ipv4.ofDigits 16 cs)

/-- One of the four decimal numbers, without superfluous zeros. -/
def octet? (cs : List Char) : Option Nat :=
  if cs.isEmpty || 3 < cs.length || !cs.all Char.isDigit || (1 < cs.length && cs.head? == some '0')
  then none
  else
    let n := Ipv4.ofDigits 10 cs
    if n < 256 then some n else none

/-- The two pieces of an address in decimal numbers. -/
def embedded? (cs : List Char) : Option (List Nat) := do
  match ← (Ascii.splitAt '.' cs).mapM octet? with
  | [a, b, c, d] => return [256 * a + b, 256 * c + d]
  | _ => none

/-- The pieces between single colons; only the last group may be decimal. -/
def group? : List (List Char) → Option (List Nat)
  | [] => some []
  | [last] => if last.contains '.' then embedded? last else (piece? last).map ([·])
  | first :: rest => do
    let n ← piece? first
    let ns ← group? rest
    return n :: ns

/-- The text before and after the first two colons in a row. -/
def splitGap : List Char → Option (List Char × List Char)
  | ':' :: ':' :: rest => some ([], rest)
  | c :: rest => (splitGap rest).map fun halves => (c :: halves.1, halves.2)
  | [] => none

/-- The pieces of one side of a gap, which may be empty. -/
def side? (cs : List Char) : Option (List Nat) :=
  if cs.isEmpty then some [] else group? (Ascii.splitAt ':' cs)

/-- The eight pieces of an address. -/
def parse? (cs : List Char) : Option (List Nat) :=
  match splitGap cs with
  | none => do
    let pieces ← group? (Ascii.splitAt ':' cs)
    if pieces.length = 8 then some pieces else none
  | some (before, after) => do
    if before.contains '.' then none
    let left ← side? before
    let right ← side? after
    if left.length + right.length ≤ 7 then
      some (left ++ List.replicate (8 - left.length - right.length) 0 ++ right)
    else none

/-- The length of the run of zeros that starts here. -/
def zeros (pieces : List Nat) : Nat := (pieces.takeWhile (· == 0)).length

/-- Start and length of the first longest run of zeros. -/
def longestRun (pieces : List Nat) : Nat × Nat :=
  (List.range pieces.length).foldl (fun best i =>
    let n := zeros (pieces.drop i)
    if best.2 < n then (i, n) else best) (0, 0)

/-- Pieces in lower-case digits with colons between them. -/
def joinPieces (pieces : List Nat) : String :=
  String.intercalate ":" (pieces.map fun n => Hex.ofNat 1 n)

/-- The shortest form of an address, without brackets. -/
def render (pieces : List Nat) : String :=
  let (start, len) := longestRun pieces
  if len < 2 then joinPieces pieces
  else joinPieces (pieces.take start) ++ "::" ++ joinPieces (pieces.drop (start + len))

end HttpClient.Ipv6
