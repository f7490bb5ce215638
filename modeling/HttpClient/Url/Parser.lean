import HttpClient.Url.Basic

/-!
# Reading URLs

`Url.parse` reads an absolute URL and `Url.join` resolves a reference against a base. Both
drop blanks and control characters around the text, and tabs and line breaks inside it, and
then work through scheme, authority, path, query and fragment.
-/

namespace HttpClient.Url

/-- True for the characters that separate path segments. -/
def isSlash (special : Bool) (c : Char) : Bool := c == '/' || (special && c == '\\')

/-- True for the characters that end an authority. -/
def endsAuthority (special : Bool) (c : Char) : Bool := isSlash special c || c == '?' || c == '#'

/-- Text without the characters that are ignored around and inside a URL. -/
def clean (text : String) : List Char :=
  (Ascii.trimBy (·.toNat ≤ 0x20) text.toList).filter
    fun c => c != '\t' && c != '\n' && c != '\x0d'

/-- The scheme in lower case and what follows its colon. -/
def splitScheme? (cs : List Char) : Option (String × List Char) :=
  match cs with
  | [] => none
  | c :: _ =>
    let name := cs.takeWhile fun c => c.isAlphanum || c == '+' || c == '-' || c == '.'
    match cs.drop name.length with
    | ':' :: rest => if c.isAlpha then some (String.ofList (name.map Char.toLower), rest) else none
    | _ => none

/-- A text before and after its last `@`. -/
def splitUserinfo (cs : List Char) : Option (List Char) × List Char :=
  let host := (cs.reverse.takeWhile (· != '@')).reverse
  if host.length = cs.length then (none, cs)
  else (some (cs.take (cs.length - host.length - 1)), host)

/-- The host of an authority, up to a colon outside brackets, and the rest. -/
def splitHost : (inBrackets : Bool) → List Char → List Char × List Char
  | _, [] => ([], [])
  | inBrackets, c :: rest =>
    if c == ':' && !inBrackets then ([], c :: rest)
    else
      let inside := c == '[' || (c != ']' && inBrackets)
      let (host, rest) := splitHost inside rest
      (c :: host, rest)

/-- The port after a colon, absent when empty or the default of the scheme. -/
def port? (scheme : String) (cs : List Char) : Except UrlError (Option Nat) :=
  if !cs.all Char.isDigit then .error .invalidPort
  else if cs.isEmpty then .ok none
  else
    let n := Ipv4.ofDigits 10 cs
    if 65535 < n then .error .invalidPort
    else .ok (if defaultPort? scheme == some n then none else some n)

/-- A user name or password in its escaped form. -/
def userinfoText (cs : List Char) : String := String.ofList (Percent.encode Percent.userinfoSet cs)

/-- The URL with the parts of an authority filled in, and what follows its port: a port also
ends at a backslash. A host may be empty only where nothing else stands in the authority. -/
def withAuthority (url : Url) (authority rest : List Char) : Except UrlError (Url × List Char) := do
  let special := isSpecialScheme url.scheme
  let (userinfo, hostPort) := splitUserinfo authority
  if userinfo == some [] && hostPort.isEmpty && !rest.isEmpty then throw .emptyHost
  let user := (userinfo.getD []).takeWhile (· != ':')
  let password := (userinfo.getD []).drop (user.length + 1)
  let (hostChars, portChars) := splitHost false hostPort
  let isBare := portChars.isEmpty && user.isEmpty && password.isEmpty
  if hostChars.isEmpty && (special || !isBare) then throw .emptyHost
  let host ← if special then Host.ofSpecial hostChars else Host.ofOther hostChars
  let digits := (portChars.drop 1).takeWhile (· != '\\')
  let port ← port? url.scheme digits
  let url := { url with
    username := userinfoText user
    password := if password.isEmpty then none else some (userinfoText password)
    host := some host
    port := port }
  return (url, portChars.drop (digits.length + 1) ++ rest)

/-- A path segment that names the directory above. -/
def isDoubleDot (segment : String) : Bool :=
  ["..", ".%2e", "%2e.", "%2e%2e"].contains (Ascii.lower segment)

/-- A path segment that names the same directory. -/
def isSingleDot (segment : String) : Bool := [".", "%2e"].contains (Ascii.lower segment)

/-- A letter and a colon or bar, the first segment of some file paths. -/
def isDriveLetter (segment : String) : Bool :=
  match segment.toList with
  | [c, d] => c.isAlpha && (d == ':' || d == '|')
  | _ => false

/-- True for a segment that is a drive letter, or is one up to a backslash. -/
def startsWithDrive (segment : String) : Bool :=
  isDriveLetter (String.ofList (segment.toList.takeWhile (· != '\\')))

/-- The segments above the last one, with the last in front; nothing leads above a drive. -/
def parent : List String → List String
  | [] => []
  | name :: above => if startsWithDrive name then name :: above else above

/-- A path, its last segment in front, with one more segment; `last` when no slash follows. -/
def addSegment (file last : Bool) (names : List String) (segment : String) : List String :=
  if isDoubleDot segment then (if last then [""] else []) ++ parent names
  else if isSingleDot segment then (if last then "" :: names else names)
  else if file && names.isEmpty && isDriveLetter segment then
    [String.ofList (segment.toList.take 1 ++ [':'])]
  else segment :: names

/-- A path, its last segment in front, with the segments of a text added. -/
def addSegments (file : Bool) (names : List String) : List String → List String
  | [] => names
  | [segment] => addSegment file true names segment
  | segment :: rest => addSegments file (addSegment file false names segment) rest

/-- The pieces of a path between slashes, escaped. -/
def splitSegments (special : Bool) (cs : List Char) : List String :=
  let cs := cs.map fun c => if isSlash special c then '/' else c
  (Ascii.splitAt '/' cs).map fun piece => String.ofList (Percent.encode Percent.pathSet piece)

/-- File paths have no empty segments in front. -/
def dropLeadingEmpty (names : List String) : List String :=
  match names.dropWhile (· == "") with
  | [] => [""]
  | names => names

/-- The URL with a path read below some segments. A file path that starts at a drive has no
host. -/
def withPath (url : Url) (below : List String) (cs : List Char) : Url :=
  let file := url.scheme == "file"
  let pieces := splitSegments (isSpecialScheme url.scheme) cs
  let names := (addSegments file below.reverse pieces).reverse
  if file then
    { url with
      host := if names.head?.any isDriveLetter then some (.domain "") else url.host
      path := .segments (dropLeadingEmpty names) }
  else { url with path := .segments names }

/-- The URL with query and fragment read from the end of a text. -/
def withQueryAndFragment (url : Url) (cs : List Char) : Url :=
  let before := cs.takeWhile (· != '#')
  let fragment :=
    match cs.drop before.length with
    | [] => none
    | _ :: rest => some (String.ofList (Percent.encode Percent.fragmentSet rest))
  let set := if isSpecialScheme url.scheme then Percent.specialQuerySet else Percent.querySet
  let query :=
    match before with
    | [] => none
    | _ :: rest => some (String.ofList (Percent.encode set rest))
  { url with query := query, fragment := fragment }

/-- A text up to its query or fragment, and the rest. -/
def splitPath (cs : List Char) : List Char × List Char :=
  let path := cs.takeWhile fun c => c != '?' && c != '#'
  (path, cs.drop path.length)

/-- The URL with path, query and fragment read after an authority. -/
def withPathStart (url : Url) (cs : List Char) : Url :=
  let special := isSpecialScheme url.scheme
  let (path, rest) := splitPath cs
  let url :=
    match path with
    | [] => { url with path := .segments (if special then [""] else []) }
    | c :: path' => url.withPath [] (if isSlash special c then path' else path)
  url.withQueryAndFragment rest

/-- The URL read after the two slashes of an authority. -/
def afterSlashes (scheme : String) (cs : List Char) : Except UrlError Url := do
  let authority := cs.takeWhile fun c => !endsAuthority (isSpecialScheme scheme) c
  let bare : Url := { scheme := scheme, path := .segments [] }
  let (url, rest) ← bare.withAuthority authority (cs.drop authority.length)
  return url.withPathStart rest

/-- The host of a file URL, none for the local one. -/
def fileHost (cs : List Char) : Except UrlError Host :=
  if cs.isEmpty then .ok (.domain "")
  else do
    let host ← Host.ofSpecial cs
    return if host == .domain "localhost" then .domain "" else host

/-- The URL with path, query and fragment; a slash in front of the path begins a segment. -/
def withRootedPath (url : Url) (cs : List Char) : Url :=
  let (path, rest) := splitPath cs
  (url.withPath [] path).withQueryAndFragment rest

/-- A file URL read after its scheme. -/
def ofFile (cs : List Char) : Except UrlError Url := do
  let bare : Url := { scheme := "file", host := some (.domain ""), path := .segments [] }
  match cs with
  | a :: b :: rest =>
    if isSlash true a && isSlash true b then
      let authority := rest.takeWhile fun c => !endsAuthority true c
      if isDriveLetter (String.ofList authority) then return bare.withRootedPath rest
      else
        let host ← fileHost authority
        let rest := rest.drop authority.length
        if host == .domain "" then return bare.withRootedPath rest
        else return withPathStart { bare with host := some host } rest
    else return bare.withPathStart cs
  | _ => return bare.withPathStart cs

/-- A URL of a scheme without the two slashes of an authority. -/
def ofOtherScheme (scheme : String) (cs : List Char) : Except UrlError Url :=
  match cs with
  | '/' :: '/' :: rest => afterSlashes scheme rest
  | '/' :: _ => .ok (withPathStart { scheme := scheme, path := .segments [] } cs)
  | _ =>
    let (path, rest) := splitPath cs
    let text := String.ofList (Percent.encode Percent.controlSet path)
    .ok (withQueryAndFragment { scheme := scheme, path := .opaqueText text } rest)

/-- A reference without a scheme, resolved against a base with a path of segments. -/
def ofRelative (base : Url) (names : List String) (cs : List Char) : Except UrlError Url :=
  let special := isSpecialScheme base.scheme
  match cs with
  | [] => .ok { base with fragment := none }
  | '?' :: _ => .ok (base.withQueryAndFragment cs)
  | '#' :: _ => .ok { base.withQueryAndFragment cs with query := base.query }
  | '/' :: '/' :: rest => afterSlashes base.scheme rest
  | c :: rest =>
    if isSlash special c then
      if rest.head?.any (isSlash special) then
        afterSlashes base.scheme (rest.dropWhile (isSlash special))
      else
        let (path, tail) := splitPath rest
        .ok ((base.withPath [] path).withQueryAndFragment tail)
    else
      let (path, tail) := splitPath cs
      .ok ((base.withPath names.dropLast path).withQueryAndFragment tail)

/-- A URL read after its scheme, against a base if there is one. -/
def ofScheme (base : Option Url) (scheme : String) (cs : List Char) : Except UrlError Url :=
  if scheme == "file" then ofFile cs
  else if isSpecialScheme scheme then
    let slashes := (cs.takeWhile (isSlash true)).length
    match base with
    | some base =>
      match base.path with
      | .segments names =>
        if slashes < 2 && base.scheme == scheme then ofRelative base names cs
        else afterSlashes scheme (cs.drop slashes)
      | .opaqueText _ => afterSlashes scheme (cs.drop slashes)
    | none => afterSlashes scheme (cs.drop slashes)
  else ofOtherScheme scheme cs

/-- The URL that a reference means, against a base if there is one. -/
def resolve (base : Option Url) (text : String) : Except UrlError Url :=
  let cs := clean text
  match splitScheme? cs with
  | some (scheme, rest) => ofScheme base scheme rest
  | none =>
    match base with
    | none => .error .relativeWithoutBase
    | some base =>
      match base.path, cs with
      | .segments names, _ => ofRelative base names cs
      | .opaqueText _, '#' :: _ => .ok { base.withQueryAndFragment cs with query := base.query }
      | .opaqueText _, _ => .error .relativeWithOpaqueBase

/-- Reads an absolute URL. -/
def parse (text : String) : Except UrlError Url := resolve none text

/-- Resolves a reference against this URL. -/
def join (base : Url) (reference : String) : Except UrlError Url := resolve (some base) reference

end HttpClient.Url
