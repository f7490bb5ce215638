import HttpClient.Header.Value
import HttpClient.Url.Basic

/-!
# Errors

An error says at which stage a request failed, the URL and the last status it had to do with,
and what stands behind it: a chain of any length, in which every error is the source of the one
before it. Some of these are errors of this library, which tell what stands behind them; any other
speaks for itself alone, whatever its own sources are.
-/

namespace HttpClient

/-- Why authentication stopped. -/
inductive Failure
  /-- The server broke the rules of the scheme. -/
  | violation (reason : String)
  /-- The credentials were refused. -/
  | rejected (reason : String)
  /-- No random bytes for a client nonce. -/
  | entropy
  deriving DecidableEq, Repr

/-- The text of a failure. -/
def Failure.message : Failure → String
  | violation reason | rejected reason => reason
  | entropy => "no entropy for the client nonce"

/-- Failures of the transport under a connection. -/
inductive TransportFault
  | timedOut
  | reset
  | refused
  deriving DecidableEq, Repr

/-- The text of a transport failure. -/
def TransportFault.message : TransportFault → String
  | timedOut => "timed out"
  | reset => "connection reset"
  | refused => "connection refused"

/-- Failures of the message exchange on a connection; their wording is not part of this library. -/
inductive WireFault
  /-- The response head cannot be read. -/
  | malformedHead
  /-- The connection closed before a whole head arrived. -/
  | closedEarly
  /-- The exchange took too long. -/
  | timedOut
  /-- The body ended early or is malformed. -/
  | brokenBody
  deriving DecidableEq, Repr

/-- An error that is none of this library's own. -/
inductive Cause
  | text (message : String)
  | timedOut
  | badScheme
  | tooManyConnections
  | tooManyRedirects
  | authExhausted
  | noTls
  | badUrl (reason : UrlError)
  | badHead (reason : HeadError)
  | unreadableText
  | auth (failure : Failure)
  | transport (fault : TransportFault)
  | wire (fault : WireFault)
  deriving DecidableEq, Repr

namespace Cause

/-- The text of a cause. -/
def message : Cause → String
  | text message => message
  | timedOut => "operation timed out"
  | badScheme => "URL scheme is not allowed"
  | tooManyConnections => "too many connections"
  | tooManyRedirects => "too many redirects"
  | authExhausted => "too many authentication attempts"
  | noTls => "https targets need a TLS connector"
  | badUrl reason => reason.message
  | badHead reason => reason.message
  | unreadableText => "failed to convert header to a str"
  | auth failure => failure.message
  | transport fault => fault.message
  | wire .malformedHead => "malformed response head"
  | wire .closedEarly => "connection closed before the response head"
  | wire .timedOut => "response took too long"
  | wire .brokenBody => "broken response body"

/-- True for causes that say that time ran out. -/
def isTimeout : Cause → Bool
  | timedOut | transport .timedOut | wire .timedOut => true
  | _ => false

/-- Three causes say that time ran out. -/
theorem isTimeout_iff (c : Cause) :
    c.isTimeout = true ↔ c ∈ [timedOut, transport .timedOut, wire .timedOut] := by
  unfold isTimeout
  split <;> simp_all

/-- True for failures of the message exchange. -/
def isWire : Cause → Bool
  | wire _ => true
  | _ => false

end Cause

/-- The stage at which a request failed. -/
inductive Stage
  | builder
  | connect
  | request
  | protocol
  | auth
  | redirect
  | body
  | canceled
  deriving DecidableEq, Repr

namespace Stage

/-- How a text about an error begins. -/
def opening : Stage → String
  | builder => "builder error"
  | connect => "error opening connection"
  | request => "error sending request"
  | protocol => "protocol error"
  | auth => "authentication failed"
  | redirect => "error following redirect"
  | body => "response body error"
  | canceled => "request canceled"

/-- The name of a stage. -/
def name : Stage → String
  | builder => "Builder"
  | connect => "Connect"
  | request => "Request"
  | protocol => "Protocol"
  | auth => "Auth"
  | redirect => "Redirect"
  | body => "Body"
  | canceled => "Canceled"

end Stage

/-- One layer of an error. -/
structure ErrorLayer where
  stage : Stage
  url : Option Url := none
  status : Option Status := none
  deriving DecidableEq, Repr

/-- The text of a layer without what it wraps. -/
def ErrorLayer.message (layer : ErrorLayer) : String :=
  layer.stage.opening
    ++ (layer.url.map fun url => " for url (" ++ url.render ++ ")").getD ""
    ++ (layer.status.map fun status => " after status " ++ toString status).getD ""

/-- One of the errors behind an error. -/
inductive Source
  /-- An error of this library. -/
  | layer (layer : ErrorLayer)
  /-- Any other error. -/
  | cause (cause : Cause)
  deriving DecidableEq, Repr

namespace Source

/-- True for an error that says that time ran out. -/
def isTimeout : Source → Bool
  | layer _ => false
  | cause c => c.isTimeout

/-- The errors of this library that a chain begins with. -/
def layers : List Source → List ErrorLayer
  | layer l :: rest => l :: layers rest
  | _ => []

/-- The first error of a chain that is none of this library's own. -/
def cause? : List Source → Option Cause
  | [] => none
  | layer _ :: rest => cause? rest
  | cause c :: _ => some c

end Source

/-- Why a request failed. -/
structure Error extends ErrorLayer where
  /-- What stands behind the error: its source, the source of that, and so on. -/
  chain : List Source := []
  deriving DecidableEq, Repr

namespace Error

/-- An error with a chain behind it. -/
def ofChain (stage : Stage) (chain : List Source) : Error := { stage := stage, chain := chain }

/-- An error with a cause. -/
def of (stage : Stage) (cause : Cause) : Error := ofChain stage [.cause cause]

/-- An error that wraps another. -/
def wrapping (stage : Stage) (inner : Error) : Error :=
  ofChain stage (.layer inner.toErrorLayer :: inner.chain)

/-- The request was canceled. -/
def canceled : Error := { stage := .canceled }

/-- The time of the whole request ran out. -/
def timeout : Error := .of .request .timedOut

/-- The error about another URL. -/
def withUrl (e : Error) (url : Url) : Error := { e with url := some url }

/-- The error without its URL. -/
def withoutUrl (e : Error) : Error := { e with url := none }

/-- The error after another status. -/
def withStatus (e : Error) (status : Status) : Error := { e with status := some status }

/-- A URL that no request can be sent to. -/
def badScheme (url : Url) : Error := (Error.of .builder .badScheme).withUrl url

/-- True when an error behind this one says that time ran out, at whatever depth. -/
def isTimeout (e : Error) : Bool := e.chain.any Source.isTimeout

/-- True when this cause stands behind the error, at whatever depth. -/
def hasCause (e : Error) (cause : Cause) : Bool := e.chain.contains (.cause cause)

/-- The first cause behind the error. -/
def cause (e : Error) : Option Cause := Source.cause? e.chain

/-- The texts of the layers, joined by colons down to the cause. -/
def joinMessages (layers : List ErrorLayer) (cause : Option Cause) : String :=
  String.intercalate ": " (layers.map ErrorLayer.message ++ (cause.map Cause.message).toList)

/-- The text of an error with all that it tells. -/
def message (e : Error) : String :=
  joinMessages (e.toErrorLayer :: Source.layers e.chain) e.cause

/-- The texts of the sources of an error, nearest first. -/
def sources (e : Error) : List String :=
  let rec go : List Source → List String
    | [] => []
    | source :: rest =>
      joinMessages (Source.layers (source :: rest)) (Source.cause? (source :: rest)) :: go rest
  go e.chain

/-- Time did not run out where none of three causes stands behind the error, at whatever depth. -/
theorem isTimeout_eq_false_iff (e : Error) : e.isTimeout = false ↔
    ∀ cause ∈ [.timedOut, .transport .timedOut, .wire .timedOut], .cause cause ∉ e.chain := by
  rw [isTimeout, List.any_eq_false]
  constructor
  · exact fun hnone cause hcause hmem => hnone _ hmem (cause.isTimeout_iff.mpr hcause)
  · rintro hnone (layer | cause) hmem htimeout
    · cases htimeout
    · exact hnone cause (cause.isTimeout_iff.mp htimeout) hmem

theorem hasCause_eq_false_iff (e : Error) (cause : Cause) :
    e.hasCause cause = false ↔ .cause cause ∉ e.chain := by
  rw [hasCause, ← Bool.not_eq_true, List.contains_iff_mem]

end Error

end HttpClient
