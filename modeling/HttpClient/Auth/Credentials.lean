import HttpClient.Header.Fields
import HttpClient.Text.Base64

/-!
# Credentials headers

The texts that credentials headers are made of: user name and password, a token, or named
parameters after a scheme. All such values are sensitive.
-/

namespace HttpClient.Credentials

/-- User name and password; the colon is there also without a password. -/
def basic (user : String) (password : Option String) : HeaderValue :=
  let pair := Utf8.encode user ++ Ascii.bytes ":" ++ Utf8.encode (password.getD "")
  (HeaderValue.ofAscii ("Basic " ++ Base64.encode pair)).hidden

/-- A scheme and a token. -/
def token (scheme : String) (bytes : Bytes) : HeaderValue :=
  { bytes := Utf8.encode (scheme ++ " " ++ Base64.encode bytes), sensitive := true }

/-- A parameter as it is written after a scheme. -/
inductive Param
  | plain (name value : String)
  | quoted (name value : String)
  /-- In quotes as it is, which suits values without quotes and backslashes. -/
  | enclosed (name value : String)
  deriving DecidableEq, Repr

namespace Param

/-- The name of a parameter. -/
def name : Param → String
  | plain name _ | quoted name _ | enclosed name _ => name

/-- The value of a parameter. -/
def value : Param → String
  | plain _ value | quoted _ value | enclosed _ value => value

end Param

/-- The text of a quoted string without its quotes: quotes and backslashes are escaped. -/
def escape (cs : List Char) : List Char :=
  cs.flatMap fun c => if c = '"' ∨ c = '\\' then ['\\', c] else [c]

/-- The text of a parameter. -/
def renderParam : Param → List Char
  | .plain name value => name.toList ++ '=' :: value.toList
  | .quoted name value => name.toList ++ '=' :: '"' :: escape value.toList ++ ['"']
  | .enclosed name value => name.toList ++ '=' :: '"' :: value.toList ++ ['"']

/-- The texts of parameters with commas between them. -/
def renderParams : List Param → List Char
  | [] => []
  | [p] => renderParam p
  | p :: ps => renderParam p ++ ',' :: ' ' :: renderParams ps

/-- A scheme followed by parameters. -/
def render (scheme : String) (params : List Param) : String :=
  String.ofList (scheme.toList ++ ' ' :: renderParams params)

end HttpClient.Credentials
