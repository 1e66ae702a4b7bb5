import DownloadEngine.Project
import DownloadEngine.Retry.Failure

/-!
# Engine errors

What the engine reports to a caller: a refused address (unsupported scheme or invalid URL),
a refused path, a duplicate task id, a degraded probe, failed chunks, a failed merge, a
protocol error, a transfer failure or a file error. A transfer failure becomes an engine
error by its cause: an HTTP status and a protocol breach are protocol errors, a storage
failure is a file error, and the rest stay transfer failures.
-/

namespace DownloadEngine

/-- An error the engine reports. -/
inductive EngineError where
  | unsupportedScheme (scheme : String)
  | invalidUrl (detail : String)
  | pathRejected (e : PathError)
  | duplicateTask (id : String)
  | probeDegraded (detail : String)
  | chunkFetchFailed (detail : String)
  | mergeFailed (e : IoError)
  | protocol (message : String)
  | transfer (f : TransferFailure)
  | io (e : IoError)
  deriving DecidableEq, Repr

namespace EngineError

/-- The text of an error. -/
def message : EngineError → String
  | .unsupportedScheme s => "unsupported URL scheme '" ++ s ++ "', use http, https or ftp"
  | .invalidUrl d => "invalid URL " ++ d
  | .pathRejected e => e.message
  | .duplicateTask id => "task " ++ id ++ " already exists"
  | .probeDegraded d => "probe degraded: " ++ d
  | .chunkFetchFailed d => "some chunks failed to download: " ++ d
  | .mergeFailed e => "chunk merge failed: " ++ e.text
  | .protocol m => m
  | .transfer f => f.describe
  | .io e => "I/O error: " ++ e.text

/-- The engine error of a transfer failure. -/
def ofFailure : TransferFailure → EngineError
  | .http code => .protocol ("HTTP error: " ++ toString code)
  | .protocol m => .protocol m
  | .storage e => .io e
  | f => .transfer f

end EngineError

end DownloadEngine
