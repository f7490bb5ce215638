import HttpClient.Body.Basic
import HttpClient.Text.Quoted

/-!
# Texts for inspection

How realms, errors, headers, requests and bodies look in reports made for people. Passwords are
left out, and so are the values of sensitive headers.
-/

namespace HttpClient

/-- The look of a realm, without its password. -/
def Realm.inspect (r : Realm) : String :=
  Quoted.record "Realm" [
    ("scheme", r.scheme.name),
    ("principal", Quoted.quote r.principal),
    ("use_preemptive", toString r.preemptive),
    ("ntlm_domain", Quoted.optional (r.domain.map Quoted.quote)),
    ("ntlm_host", Quoted.optional (r.workstation.map Quoted.quote)),
    ("target", r.target.name)]

/-- The look of a failure. -/
def Failure.inspect : Failure → String
  | violation reason => Quoted.wrapped "Protocol" (Quoted.quote reason)
  | rejected reason => Quoted.wrapped "Rejected" (Quoted.quote reason)
  | entropy => "Entropy"

/-- The name of a transport failure. -/
def TransportFault.name : TransportFault → String
  | timedOut => "TimedOut"
  | reset => "ConnectionReset"
  | refused => "ConnectionRefused"

/-- The look of a cause. -/
def Cause.inspect : Cause → String
  | text message => Quoted.quote message
  | timedOut => "TimedOut"
  | badScheme => "BadScheme"
  | tooManyConnections => "TooManyConnections"
  | tooManyRedirects => "TooManyRedirects"
  | authExhausted => "AuthExhausted"
  | noTls => "NoTlsConnector"
  | badUrl reason => reason.name
  | badHead reason => Quoted.wrapped "http::Error" reason.name
  | unreadableText => Quoted.record "ToStrError" [("_priv", "()")]
  | auth failure => failure.inspect
  | transport fault =>
    Quoted.record "Custom" [("kind", fault.name), ("error", Quoted.quote fault.message)]
  | wire _ => "Wire"

namespace Error

/-- The look of a layer around the look of what it wraps. -/
def inspectLayer (layer : ErrorLayer) (source : Option String) : String :=
  Quoted.record "courier::Error" <|
    [("kind", layer.stage.name)]
    ++ (layer.url.map fun url => ("url", Quoted.quote url.render)).toList
    ++ (layer.status.map fun status => ("status", toString status)).toList
    ++ (source.map fun source => ("source", source)).toList

/-- The look of an error with all that it tells. -/
def inspect (e : Error) : String :=
  let inner := (Source.layers e.chain).foldr (fun layer source => some (inspectLayer layer source))
    (e.cause.map Cause.inspect)
  inspectLayer e.toErrorLayer inner

end Error

/-- The look of a header value. -/
def HeaderValue.inspect (v : HeaderValue) : String :=
  if v.sensitive then "Sensitive"
  else
    let byte := fun (b : UInt8) =>
      let c := Ascii.char b
      if c == '"' then ['\\', '"']
      else if Ascii.isVisible c then [c]
      else '\\' :: 'x' :: (Hex.ofNat 1 b.toNat).toList
    String.ofList ('"' :: v.bytes.flatMap byte ++ ['"'])

/-- The look of header fields. -/
def Fields.inspect (f : Fields) : String :=
  let entry := fun (name : String) (v : HeaderValue) => Quoted.quote name ++ ": " ++ v.inspect
  let entries := f.names.flatMap fun name => (f.values name).map (entry name)
  "\x7b" ++ String.intercalate ", " entries ++ "\x7d"

namespace Request

/-- The parts of a request that are shown. -/
def inspectFields (r : Request) : List (String × String) := [
  ("method", r.method),
  ("url", Quoted.quote r.url.render),
  ("headers", r.headers.inspect),
  ("realm", Quoted.optional (r.realm.map Realm.inspect))]

/-- The look of a request. -/
def inspect (r : Request) : String := Quoted.record "Request" r.inspectFields

end Request

/-- The look of a request being built. -/
def RequestBuilder.inspect (b : RequestBuilder) : String :=
  Quoted.record "RequestBuilder" <|
    match b.request with
    | .ok request => request.inspectFields
    | .error error => [("error", error.inspect)]

/-- The look of a response head under a name. -/
def ResponseHead.inspectAs (h : ResponseHead) (name : String) : String :=
  Quoted.record name [
    ("url", Quoted.quote h.url.render),
    ("status", toString h.status),
    ("headers", h.headers.inspect)]

/-- The look of a demand. -/
def Demand.inspect (d : Demand) : String :=
  Quoted.record "Demand" [
    ("outstanding", toString d.outstanding), ("canceled", toString d.isCanceled)]

/-- The look of a body. -/
def Body.inspect (b : Body) : String :=
  Quoted.record "BodyStream" [("demand", b.demand.inspect), ("done", toString b.isDone)]

/-- The look of a body part. -/
def Part.inspect (p : Part) : String :=
  Quoted.record "BodyPart" [("len", toString p.bytes.length), ("is_last", toString p.isLast)]

end HttpClient
