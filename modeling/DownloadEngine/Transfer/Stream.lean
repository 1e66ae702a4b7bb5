import DownloadEngine.Transfer.Sink
import DownloadEngine.Transfer.Finish
import DownloadEngine.Retry.Loop
import DownloadEngine.Source

/-!
# Single-stream transfers

A single stream fetches the whole resource into one file, resuming at an offset: HTTP asks
for the range from the offset on, FTP asks the server to restart there. The file is opened
at the offset first: at zero it is created empty or truncated; past zero it is created if
missing, an offset past its end falls back to its length, and bytes past the offset are cut.

An attempt fails when the exchange breaks off, when an HTTP status is neither `206` nor
`200` (a `200`, or a `416`, after a non-zero offset means the server would not resume), when
fewer bytes arrive than the response's length, or when the file still falls short of the
known total. Failed attempts are retried as the retry policy says; a retry resumes from the
file's length. When the server will not resume, the transfer starts again once from zero.
-/

namespace DownloadEngine.Transfer

/-- A single-stream download into a file. -/
structure StreamJob where
  source : Source
  path : String
  /-- Bytes of the file already downloaded. -/
  offset : Nat
  /-- The expected size, zero when unknown. -/
  total : Nat
  /-- The piece size asked of the transfer library. -/
  bufferSize : Nat
  deriving DecidableEq, Repr

/-- The least piece size a stream asks for. -/
def minBuffer : Nat := 1024

/-- Library codes of a server that will not continue from an offset: FTP refused the
restart (31), the range was refused (33), or the resume failed (36). -/
def resumeCodes : List Nat := [31, 33, 36]

/-- Opens a file for a stream at an offset; gives the offset actually used. -/
def openAt (files : FileTree) (path : String) (offset : Nat) : Except IoError (FileTree × Nat) :=
  if offset = 0 then do
    let files ← files.writeFile path []
    pure (files, 0)
  else do
    let (files, len) ← files.openAppend path
    let offset := min offset len
    if len > offset then
      let files ← files.truncateFile path offset
      pure (files, offset)
    else pure (files, offset)

/-- A refused resume restarts the transfer only when there was an offset to refuse; at zero
it is a protocol failure, and a `416` at zero stays an HTTP failure. -/
def atOffset (f : TransferFailure) (offset : Nat) : TransferFailure :=
  match f with
  | .http code => if code = 416 ∧ offset > 0 then .resumeRejected else f
  | .resumeRejected =>
    if offset > 0 then .resumeRejected else .protocol "server rejected transfer from offset 0"
  | _ => f

/-- The failure of an exchange that broke off with a library code. -/
def brokenOff (intake : Intake) (code : Nat) (offset : Nat) : TransferFailure :=
  atOffset (if code ∈ resumeCodes then .resumeRejected else intake.failure code) offset

namespace StreamJob

/-- The request of a stream from an offset. -/
def request (job : StreamJob) (offset : Nat) : Request :=
  { method := .get, url := job.source.address.text
    range := if offset > 0 then some ⟨offset, none⟩ else none
    login := if job.source.transport = .ftp then some (FtpLogin.ofAddress job.source.address)
      else none }

/-- Checks a complete reply: its status, its length, and the known total. Gives the bytes on
disk. -/
def check (job : StreamJob) (offset : Nat) (reply : Reply) (intake : Intake) :
    Except TransferFailure Nat := do
  if job.source.transport = .http then
    let code := reply.status
    if code = 206 ∨ (code = 200 ∧ offset = 0) then pure ()
    else if code = 200 ∨ (code = 416 ∧ offset > 0) then throw .resumeRejected
    else throw (.http code)
    match intake.contentLength with
    | some expected =>
      if intake.written < expected then throw (.shortBody expected intake.written)
    | none => pure ()
  let done := offset + intake.written
  if job.total > 0 ∧ done < job.total then throw (.shortBody (job.total - offset) intake.written)
  pure done

/-- The sink of an attempt from `offset`: it reports against the job's total, and over HTTP
past offset zero a `200` means the range was ignored. -/
def sink (job : StreamJob) (offset : Nat) : Sink :=
  { path := job.path, base := offset, limit := none
    expectPartial := job.source.transport = .http ∧ offset > 0, reporting := some job.total }

/-- The answer of an attempt whose reply went through the sink: the failure the exchange broke
off with, if it did, else the check of the complete reply. -/
def settle (job : StreamJob) (offset : Nat) (reply : Reply) (intake : Intake) :
    Except TransferFailure Nat :=
  match intake.breakCode reply.cut with
  | some code => .error (brokenOff intake code offset)
  | none => job.check offset reply intake

/-- One attempt from an offset. -/
def once {σ : Type} (net : Network σ) (job : StreamJob) (signal : Option Signal) (offset : Nat)
    (w : World σ) : World σ × Except TransferFailure Nat :=
  match signal with
  | some s => (w, .error (.interrupted s))
  | none =>
  match openAt w.files job.path offset with
  | .error e => (w, .error (.storage e))
  | .ok (files, offset) =>
  let (w, answer) := ({ w with files } : World σ).exchange net (job.request offset)
  match answer with
  | .error code => (w, .error (brokenOff ⟨none, none, 0, none⟩ code offset))
  | .ok reply =>
    let (w, intake) := (job.sink offset).take signal (max job.bufferSize minBuffer) reply w
    (w, job.settle offset reply intake)

/-- Attempts under the retry policy: the first from `offset`, later ones from the file's
length. -/
def attempts {σ : Type} (net : Network σ) (policy : Retry.Policy) (job : StreamJob)
    (signal : Option Signal) (offset : Nat) (w : World σ) : World σ × Retry.Outcome Nat :=
  Retry.runOn policy (fun _ => signal) (fun attempt w =>
    job.once net signal (if attempt = 1 then offset else w.lengthOr0 job.path) w) w

end StreamJob

/-- The ending of a transfer from its last attempt's result. -/
def Finish.ofResult : Except TransferFailure Nat → Finish
  | .ok bytes => .completed bytes
  | .error (.interrupted s) => .ofSignal s
  | .error e => .failed (EngineError.ofFailure e)

/-- Runs a single stream: from the job's offset, and once more from zero when the server
will not resume. -/
def StreamJob.run {σ : Type} (net : Network σ) (policy : Retry.Policy) (job : StreamJob)
    (signal : Option Signal) (w : World σ) : World σ × Finish :=
  let (w, first) := job.attempts net policy signal job.offset w
  match first.result with
  | .error .resumeRejected =>
    let (w, second) := job.attempts net policy signal 0 (w.report 0 job.total)
    (w, .ofResult second.result)
  | r => (w, .ofResult r)

end DownloadEngine.Transfer
