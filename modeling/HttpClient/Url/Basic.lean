import HttpClient.Url.Host

/-!
# URLs

A URL by its parts, and its text. Special schemes have a default port, which is never kept
as a part, so two spellings of one address are one value.
-/

namespace HttpClient

/-- The path of a URL: one opaque text, or segments after slashes. -/
inductive UrlPath
  | opaqueText (text : String)
  | segments (names : List String)
  deriving DecidableEq, Repr

/-- A parsed URL. -/
structure Url where
  scheme : String
  username : String := ""
  password : Option String := none
  host : Option Host := none
  port : Option Nat := none
  path : UrlPath
  query : Option String := none
  fragment : Option String := none
  deriving DecidableEq, Repr

namespace Url

/-- Schemes whose URLs always have a host and whose paths also split at backslashes. -/
def isSpecialScheme (scheme : String) : Bool :=
  ["http", "https", "ws", "wss", "ftp", "file"].contains scheme

/-- The port of a scheme when a URL names none. -/
def defaultPort? (scheme : String) : Option Nat :=
  match scheme with
  | "http" | "ws" => some 80
  | "https" | "wss" => some 443
  | "ftp" => some 21
  | _ => none

/-- The text of the path. -/
def pathText (url : Url) : String :=
  match url.path with
  | .opaqueText text => text
  | .segments names => String.join (names.map ("/" ++ ·))

/-- The text of the host, absent also where it is empty. -/
def hostText? (url : Url) : Option String :=
  match url.host with
  | none | some (.domain "") => none
  | some host => some host.render

/-- The port given or that of the scheme. -/
def effectivePort? (url : Url) : Option Nat := url.port.or (defaultPort? url.scheme)

/-- User name and password as they stand before the host. -/
def credentialsText (url : Url) : String :=
  match url.username, url.password with
  | "", none => ""
  | user, none => user ++ "@"
  | user, some password => user ++ ":" ++ password ++ "@"

/-- What stands between the scheme and the path. -/
def authorityText (url : Url) : String :=
  match url.host with
  | none =>
    match url.path with
    | .segments ("" :: _ :: _) => "/."
    | _ => ""
  | some host =>
    "//" ++ url.credentialsText ++ host.render ++ (url.port.map fun n => ":" ++ toString n).getD ""

/-- The text of a URL. -/
def render (url : Url) : String :=
  url.scheme ++ ":" ++ url.authorityText ++ url.pathText
    ++ (url.query.map ("?" ++ ·)).getD "" ++ (url.fragment.map ("#" ++ ·)).getD ""

/-- Path and query, as they stand on a request line. -/
def originForm (url : Url) : String := url.pathText ++ (url.query.map ("?" ++ ·)).getD ""

/-- True for the two schemes that requests are sent to. -/
def isHttp (url : Url) : Bool := url.scheme == "http" || url.scheme == "https"

/-- The URL with another query, escaped where needed. -/
def withQuery (url : Url) (query : String) : Url :=
  let set := if isSpecialScheme url.scheme then Percent.specialQuerySet else Percent.querySet
  let cs := query.toList.filter fun c => c != '\t' && c != '\n' && c != '\x0d'
  { url with query := some (String.ofList (Percent.encode set cs)) }

end Url

end HttpClient
