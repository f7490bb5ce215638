import HttpClient.Auth.Credentials
import HttpClient.Settings
import HttpClient.Url.Parser

/-!
# Requests

A request and the calls that build one. The first call that cannot be done makes the request
an error, which later calls leave alone. Following and limiting redirects are settled when
the request is built: an explicit policy wins over both.
-/

namespace HttpClient

/-- The number of a cancellation token. -/
abbrev TokenId := Nat

/-- A request that can be sent. -/
structure Request where
  method : Method
  url : Url
  headers : Fields := {}
  body : Option Bytes := none
  realm : Option Realm := none
  timeout : Option Nat := none
  redirect : Option RedirectPolicy := none
  maxRetries : Option Nat := none
  cancel : Option TokenId := none

/-- A request being built. -/
structure RequestBuilder where
  request : Except Error Request
  followRedirect : Option Bool := none
  maxRedirects : Option Nat := none

/-- One call on a request being built. -/
inductive RequestCall
  | header (name value : Bytes)
  | headers (fields : Fields)
  | realm (realm : Realm)
  | basicAuth (user : String) (password : Option String)
  | timeout (millis : Nat)
  | body (bytes : Bytes)
  | followRedirect (enable : Bool)
  | maxRedirects (max : Nat)
  | redirect (policy : RedirectPolicy)
  | maxRetries (max : Nat)
  | cancelToken (token : TokenId)

namespace RequestBuilder

/-- A request with a method, to a URL that may be no good. -/
def start (method : Method) (url : Except Error Url) : RequestBuilder :=
  { request := url.map fun url => { method := method, url := url } }

/-- Changes the request unless it is an error. -/
def update (b : RequestBuilder) (f : Request → Except Error Request) : RequestBuilder :=
  { b with request := b.request.bind f }

/-- Does one call. -/
def call (b : RequestBuilder) : RequestCall → RequestBuilder
  | .header name value => b.update fun r => do
      let field ← (Fields.field name value).mapError fun reason => .of .builder (.badHead reason)
      return { r with headers := r.headers.insert field.1 field.2 }
  | .headers fields => b.update fun r => .ok { r with headers := r.headers.replaceAll fields }
  | .realm realm => b.update fun r => .ok { r with realm := some realm }
  | .basicAuth user password => b.update fun r =>
      .ok { r with headers := r.headers.insert "authorization" (Credentials.basic user password) }
  | .timeout millis => b.update fun r => .ok { r with timeout := some millis }
  | .body bytes => b.update fun r => .ok { r with body := some bytes }
  | .followRedirect enable => { b with followRedirect := some enable }
  | .maxRedirects max => { b with maxRedirects := some max }
  | .redirect policy => b.update fun r => .ok { r with redirect := some policy }
  | .maxRetries max => b.update fun r => .ok { r with maxRetries := some max }
  | .cancelToken token => b.update fun r => .ok { r with cancel := some token }

/-- The policy that following and limiting add up to, where either was asked for. -/
def policy? (b : RequestBuilder) (settings : Settings) : Option RedirectPolicy :=
  if b.followRedirect.isNone && b.maxRedirects.isNone then none
  else if b.followRedirect.getD settings.followRedirect then
    some (.limited (b.maxRedirects.getD settings.maxRedirects))
  else some .none

/-- The request, with its redirect policy settled. -/
def build (b : RequestBuilder) (settings : Settings) : Except Error Request :=
  b.request.map fun r => { r with redirect := r.redirect.or (b.policy? settings) }

/-- A copy, unless the request is an error. -/
def clone? (b : RequestBuilder) : Option RequestBuilder :=
  match b.request with
  | .ok _ => some b
  | .error _ => none

end RequestBuilder

end HttpClient
