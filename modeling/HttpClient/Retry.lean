import HttpClient.Error

/-!
# Retries

Whether a request that failed before a response head may be sent again. A failed connect never
reached the server, a reused connection may have been closed while idle, and an idempotent
request may be repeated; timeouts, cancellations and malformed responses end the request.
-/

namespace HttpClient.Retry

/-- Methods whose repetition changes nothing. -/
def isIdempotent (method : Method) : Bool :=
  ["GET", "HEAD", "OPTIONS", "TRACE", "PUT", "DELETE"].contains method

/-- True when a request may be sent again after an error; `reused` tells that the connection
had come out of the idle set. -/
def isRetryable (method : Method) (reused : Bool) (e : Error) : Bool :=
  if e.isTimeout || e.stage == .canceled || e.stage == .protocol then false
  else if e.stage == .connect then !e.hasCause .tooManyConnections
  else e.stage == .request && (reused || isIdempotent method)

/-- How many further attempts are left. -/
structure Budget where
  remaining : Nat
  deriving DecidableEq, Repr

/-- Spends one attempt, if any is left. -/
def Budget.withdraw (b : Budget) : Bool × Budget :=
  match b.remaining with
  | 0 => (false, b)
  | n + 1 => (true, ⟨n⟩)

end HttpClient.Retry
