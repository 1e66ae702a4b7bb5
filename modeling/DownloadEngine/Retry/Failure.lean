import DownloadEngine.Control
import DownloadEngine.IoError
import DownloadEngine.Retry.Kind

/-!
# Transfer failures

An attempt to move bytes fails in one of seven ways: the transfer library reports a code,
the server answers an HTTP status that is no success, fewer bytes arrive than promised,
storage fails, the server breaks the protocol, the server refuses to resume, or a stop signal
interrupts. Each has a one-line description and a retry kind.
-/

namespace DownloadEngine

open Retry

/-- Why one transfer attempt failed. -/
inductive TransferFailure where
  | library (code : Nat)
  | http (code : Nat)
  | shortBody (expected received : Nat)
  | storage (e : IoError)
  | protocol (message : String)
  | resumeRejected
  | interrupted (s : Signal)
  deriving DecidableEq, Repr

namespace TransferFailure

/-- One-line description of a failure; a transfer-library failure is named by its code. -/
def describe : TransferFailure → String
  | .library code => "curl error " ++ toString code
  | .http code => "HTTP error: " ++ toString code
  | .shortBody e r =>
    "partial transfer: expected " ++ toString e ++ " bytes, got " ++ toString r
  | .storage e => "storage: " ++ e.text
  | .protocol m => "protocol error: " ++ m
  | .resumeRejected => "server rejected resume offset"
  | .interrupted s => "interrupted by " ++ s.title

/-- The retry kind of a failure. -/
def kind : TransferFailure → Kind
  | .library code => Kind.ofTransferCode code
  | .http code => Kind.ofHttpStatus code
  | .shortBody _ _ => .connection
  | _ => .other

end TransferFailure

end DownloadEngine
