/-!
# Retry kinds

Failures are sorted into kinds that decide whether another attempt may help: timeouts,
throttling (HTTP 429 and 503), broken connections, other server errors (HTTP 500 to 599),
and everything else, which is final.
-/

namespace DownloadEngine.Retry

/-- How a failure bears on retrying. -/
inductive Kind where
  | timeout
  | throttled
  | connection
  | http5xx (code : Nat)
  | other
  deriving DecidableEq, Repr

namespace Kind

/-- The kind's name, with the status code for a server error: `Http5xx(502)`. -/
def text : Kind → String
  | .timeout => "Timeout"
  | .throttled => "Throttled"
  | .connection => "Connection"
  | .http5xx code => "Http5xx(" ++ toString code ++ ")"
  | .other => "Other"

/-- The kind of an HTTP status that failed a transfer. -/
def ofHttpStatus (code : Nat) : Kind :=
  if code = 429 ∨ code = 503 then .throttled
  else if 500 ≤ code ∧ code ≤ 599 then .http5xx code
  else .other

/-- Transfer-library codes of a broken connection: proxy and host not resolved, connect
refused, short body, nothing received, send and receive errors, read error. -/
def connectionCodes : List Nat := [5, 6, 7, 18, 26, 52, 55, 56]

/-- The transfer-library code of a timeout. -/
def timeoutCode : Nat := 28

/-- The kind of a transfer-library failure code. -/
def ofTransferCode (code : Nat) : Kind :=
  if code = timeoutCode then .timeout
  else if code ∈ connectionCodes then .connection
  else .other

/-- May another attempt help? -/
def retryable : Kind → Bool
  | .other => false
  | _ => true

end Kind

end DownloadEngine.Retry
