import DownloadEngine.Transfer.Sink
import DownloadEngine.Retry.Loop
import DownloadEngine.Chunk.Plan

/-!
# Fetching one chunk

A chunk is an inclusive byte range fetched into its own file. Bytes already in the file are
kept and the request continues after them; a complete file is not fetched again, and a file
longer than the chunk belongs to another plan and is emptied. The response may deliver at
most the missing bytes, must have status `200` or `206`, and must deliver all of them. A
server that answers a range past zero with the whole body breaks the protocol. Failed
attempts are retried as the retry policy says.

The token is read when an attempt starts, while backing off after a failure, and at every
callback of the transfer library, which hands the reply to the sink in pieces of whatever size
the connection gives; another thread may raise a signal between any two reads. A `Feed` gives
what each attempt meets there.
-/

namespace DownloadEngine.Transfer

/-- How fetching a chunk ended. -/
inductive ChunkEnd where
  | done
  | interrupted (s : Signal)
  | failed (f : TransferFailure)
  deriving DecidableEq, Repr

/-- The piece size of a chunk's body on a connection that fills the library's buffer. -/
def chunkPiece : Nat := 16384

/-- What a chunk's fetch meets besides the servers, attempt by attempt: the signal the token
carries when attempt `n` starts and the one its backoff after a failure ends with, and the
callbacks by which the transfer library hands attempt `n`'s reply to the sink, each piece and
tick with the signal the token carries at that moment, and each piece with what the device
does with it. -/
structure Feed where
  start : Nat → Option Signal
  backoff : Nat → Option Signal
  deliver : Nat → Reply → List Callback

/-- The feed of a token that keeps one state throughout, on a connection that fills the
library's buffer and a device that takes every piece. -/
def Feed.steady (signal : Option Signal) : Feed :=
  ⟨fun _ => signal, fun _ => signal, fun _ reply => Sink.callbacks signal chunkPiece reply⟩

/-- One chunk to fetch into a file. -/
structure ChunkJob where
  url : String
  range : Chunk.Range
  path : String
  deriving DecidableEq, Repr

/-- Opens a chunk file of `len` bytes for appending; gives the bytes already in it. -/
def openChunkFile (files : FileTree) (path : String) (len : Nat) :
    Except IoError (FileTree × Nat) := do
  let held ← match files.length path with
    | .ok n => pure n
    | .error e => if e.kind = .notFound then pure 0 else throw e
  if held > len then
    let files ← files.writeFile path []
    pure (files, 0)
  else
    let (files, _) ← files.openAppend path
    pure (files, held)

/-- A sink's refusal of a `200` to a ranged request is a protocol breach for a chunk. -/
def ignoredRange : TransferFailure → TransferFailure
  | .resumeRejected => .protocol "server ignored the range request"
  | f => f

namespace ChunkJob

/-- The bytes of the chunk. -/
def size (job : ChunkJob) : Nat := job.range.last + 1 - job.range.start

/-- The request of an attempt that holds `held` bytes: the rest of the chunk. -/
def request (job : ChunkJob) (held : Nat) : Request :=
  { method := .get, url := job.url, range := some ⟨job.range.start + held, some job.range.last⟩
    login := none }

/-- The sink of an attempt that holds `held` bytes: it may take the missing bytes, and a `200`
means the range was ignored unless it starts at byte zero. -/
def sink (job : ChunkJob) (held : Nat) : Sink :=
  { path := job.path, base := held, limit := some (job.size - held)
    expectPartial := job.range.start + held > 0, reporting := none }

/-- Checks a complete reply: its status and the bytes it delivered. -/
def check (status : Nat) (wanted written : Nat) : Except TransferFailure Unit :=
  if status ≠ 200 ∧ status ≠ 206 then .error (.http status)
  else if written ≠ wanted then .error (.shortBody wanted written)
  else .ok ()

/-- The answer of an attempt whose reply went through the sink: the failure the exchange broke
off with, if it did, else the check of the complete reply. -/
def settle (wanted : Nat) (reply : Reply) (intake : Intake) : Except TransferFailure Unit :=
  match intake.breakCode reply.cut with
  | some code => .error (ignoredRange (intake.failure code))
  | none => check reply.status wanted intake.written

/-- One attempt at a chunk, under the signal the token carries when it starts, its reply handed
to the sink by `deliver`. -/
def once {σ : Type} (net : Network σ) (job : ChunkJob) (signal : Option Signal)
    (deliver : Reply → List Callback) (w : World σ) : World σ × Except TransferFailure Unit :=
  match signal with
  | some s => (w, .error (.interrupted s))
  | none =>
  let len := job.size
  match openChunkFile w.files job.path len with
  | .error e => (w, .error (.storage e))
  | .ok (files, held) =>
  let w := { w with files }
  if held = len then (w, .ok ()) else
  let (w, answer) := w.exchange net (job.request held)
  match answer with
  | .error code => (w, .error (ignoredRange (.library code)))
  | .ok reply =>
    let (w, intake) := (job.sink held).run (deliver reply) w
    (w, settle (len - held) reply intake)

/-- Fetches a chunk under the retry policy. -/
def fetch {σ : Type} (net : Network σ) (policy : Retry.Policy) (job : ChunkJob) (feed : Feed)
    (w : World σ) : World σ × ChunkEnd :=
  let (w, outcome) := Retry.runOn policy feed.backoff
    (fun n w => job.once net (feed.start n) (feed.deliver n) w) w
  (w, match outcome.result with
    | .ok () => .done
    | .error (.interrupted s) => .interrupted s
    | .error f => .failed f)

end ChunkJob

end DownloadEngine.Transfer
