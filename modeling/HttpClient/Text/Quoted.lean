import HttpClient.Text.Category

/-!
# Quoted text

Text between double quotes, as it is shown to people: quotes and backslashes are escaped, and
so are characters that would not be seen or that would change the one before them.
-/

namespace HttpClient.Quoted

/-- True for characters that are written by their number. -/
def isHiddenChar (c : Char) : Bool :=
  c.toNat < 0x20 || (0x7F ≤ c.toNat && (Category.isUnseen c || Category.isExtender c))

/-- A character inside quotes. -/
def escape (c : Char) : List Char :=
  if c = '"' then ['\\', '"']
  else if c = '\\' then ['\\', '\\']
  else if c = '\n' then ['\\', 'n']
  else if c = '\t' then ['\\', 't']
  else if c = '\x0d' then ['\\', 'r']
  else if c = '\x00' then ['\\', '0']
  else if isHiddenChar c then "\\u\x7b".toList ++ (Hex.ofNat 1 c.toNat).toList ++ ['\x7d']
  else [c]

/-- The text between quotes. -/
def quote (s : String) : String := String.ofList ('"' :: s.toList.flatMap escape ++ ['"'])

/-- A named value with named fields. -/
def record (name : String) (fields : List (String × String)) : String :=
  name ++ " \x7b " ++ String.intercalate ", " (fields.map fun f => f.1 ++ ": " ++ f.2) ++ " \x7d"

/-- A named value with one part, or none. -/
def wrapped (name part : String) : String := name ++ "(" ++ part ++ ")"

/-- An optional value. -/
def optional (shown : Option String) : String :=
  match shown with
  | none => "None"
  | some text => wrapped "Some" text

end HttpClient.Quoted
