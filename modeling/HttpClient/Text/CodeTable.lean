import HttpClient.Text.Hex

/-!
# Tables of code points

A table says of runs of code points what class they belong to, which number they have or what
text stands for them. It is written as text: `41-5A>61` takes the letters from `A` to those
from `a`, `100-12E/2>101` every second code point likewise, `2000-200A=20` all to one text, and
`8A>20,308` one to two characters. Rows ascend and do not overlap, so that a look-up can halve
the table.
-/

namespace HttpClient

/-- What holds of the code points from `first` to `last` that are `step` apart. -/
structure CodeRow where
  first : Nat
  last : Nat
  step : Nat := 1
  targets : List Nat := []
  /-- True when the first target moves along with the code point. -/
  moves : Bool := false
  deriving DecidableEq, Repr

/-- True for the code points that the row speaks of. -/
def CodeRow.covers (row : CodeRow) (n : Nat) : Bool :=
  row.first ≤ n && n ≤ row.last && (n - row.first) % row.step == 0

/-- The targets of one code point of the row. -/
def CodeRow.image (row : CodeRow) (n : Nat) : List Nat :=
  match row.targets with
  | [] => []
  | target :: rest => (if row.moves then target + (n - row.first) else target) :: rest

/-- Rows in ascending order. -/
structure CodeTable where
  rows : Array CodeRow
  deriving Repr

namespace CodeTable

/-- The place of a number in its row. -/
inductive Place
  | start
  | stop
  | step
  | moving
  | fixed
  | further
  deriving DecidableEq, Repr

/-- The place of the number after a mark; anything else ends the row. -/
def Place.after? : Char → Option Place
  | '-' => some .stop
  | '/' => some .step
  | '>' => some .moving
  | '=' => some .fixed
  | ',' => some .further
  | _ => none

/-- The row with a number in its place. -/
def put (row : CodeRow) (n : Nat) : Place → CodeRow
  | .start => { first := n, last := n }
  | .stop => { row with last := n }
  | .step => { row with step := n }
  | .moving => { row with targets := [n], moves := true }
  | .fixed => { row with targets := [n] }
  | .further => { row with targets := row.targets ++ [n] }

/-- What has been read of a table: finished rows, and the row and the number being read with the
place of that number, which is absent between rows. -/
structure Reader where
  rows : Array CodeRow := #[]
  row : CodeRow := { first := 0, last := 0 }
  number : Nat := 0
  place : Option Place := none

/-- Reads one more character. -/
def Reader.push (r : Reader) (c : Char) : Reader :=
  match Hex.value? c, r.place with
  | some digit, place =>
    { r with number := 16 * r.number + digit, place := some (place.getD .start) }
  | none, none => r
  | none, some place =>
    let row := put r.row r.number place
    match Place.after? c with
    | some next => { r with row := row, number := 0, place := some next }
    | none => { rows := r.rows.push row }

/-- The table written by a text. -/
def ofText (text : String) : CodeTable := ⟨((text.foldl Reader.push {}).push ' ').rows⟩

/-- How many rows start at or before a code point, looking between `low` and `high` only. -/
def rank (rows : Array CodeRow) (n low high : Nat) : Nat :=
  if low < high then
    let middle := (low + high) / 2
    if (rows[middle]?).any (·.first ≤ n) then rank rows n (middle + 1) high
    else rank rows n low middle
  else low
  termination_by high - low

/-- The row of a code point. -/
def find? (table : CodeTable) (n : Nat) : Option CodeRow :=
  (table.rows[rank table.rows n 0 table.rows.size - 1]?).filter (·.covers n)

/-- True for the characters of the table. -/
def contains (table : CodeTable) (c : Char) : Bool := (table.find? c.toNat).isSome

/-- The text that stands for a character. -/
def image? (table : CodeTable) (c : Char) : Option (List Char) :=
  (table.find? c.toNat).map fun row => (row.image c.toNat).map Char.ofNat

/-- The number of a character. -/
def number? (table : CodeTable) (c : Char) : Option Nat :=
  (table.find? c.toNat).bind (·.targets.head?)

end CodeTable

end HttpClient
