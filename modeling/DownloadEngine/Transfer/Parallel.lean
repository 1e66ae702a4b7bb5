import DownloadEngine.Transfer.Chunk
import DownloadEngine.Transfer.Finish
import DownloadEngine.Chunk.Layout
import DownloadEngine.Chunk.Merge

/-!
# Parallel chunked transfers

A planned download fetches its chunks into files of its private chunk directory, then
merges them into the destination. Chunks whose files already hold their full length are
skipped, so a later run continues where an earlier one stopped. Chunks are fetched in plan
order; the first failed chunk stops the ones after it. Progress reports the bytes in the
chunk files after each chunk and once more at the end.

A stop signal wins over failed chunks; failed chunks are reported together, each as
`chunk <index>: <failure>`, joined by `; `. Only when every chunk is on disk are they merged,
and after a merge the chunk directory is removed. Chunk files survive a pause and a failure.
-/

namespace DownloadEngine.Transfer

/-- A planned parallel download. -/
structure ParallelJob where
  url : String
  taskId : String
  dest : String
  plan : Chunk.Plan
  total : Nat
  deriving DecidableEq, Repr

namespace ParallelJob

/-- The chunk directory of the job. -/
def dir (job : ParallelJob) : String := Chunk.dirFor job.dest job.taskId

/-- The chunk files of the job, in plan order. -/
def paths (job : ParallelJob) : List String := job.plan.chunks.map fun c => Chunk.fileAt job.dir c.index

/-- The bytes in the chunk files. -/
def onDisk {σ : Type} (job : ParallelJob) (w : World σ) : Nat :=
  (job.paths.map w.lengthOr0).foldl (· + ·) 0

/-- The fetch of one chunk of the job. -/
def chunkJob (job : ParallelJob) (c : Chunk.Range) : ChunkJob :=
  ⟨job.url, c, Chunk.fileAt job.dir c.index⟩

/-- Fetches the pending chunks in order until one fails; gives the failures. -/
def pool {σ : Type} (net : Network σ) (policy : Retry.Policy) (job : ParallelJob)
    (signal : Option Signal) : List Chunk.Range → World σ × List (Nat × TransferFailure) →
    World σ × List (Nat × TransferFailure)
  | [], acc => acc
  | c :: rest, (w, failures) =>
    if signal.isSome ∨ !failures.isEmpty then (w, failures) else
    let (w, outcome) := (job.chunkJob c).fetch net policy (Feed.steady signal) w
    let failures := match outcome with
      | .failed f => failures ++ [(c.index, f)]
      | _ => failures
    pool net policy job signal rest (w.report (job.onDisk w) job.total, failures)

/-- The text of failed chunks. -/
def summary (failures : List (Nat × TransferFailure)) : String :=
  "; ".intercalate (failures.map fun (i, f) => "chunk " ++ toString i ++ ": " ++ f.describe)

/-- How a parallel run ends once its pool has drained, or `none` when it goes on to the merge:
a stop signal on the task's token wins over failed chunks, which fail the run together. -/
def afterPool (signal : Option Signal) (failures : List (Nat × TransferFailure)) : Option Finish :=
  match signal with
  | some s => some (.ofSignal s)
  | none => if failures.isEmpty then none else some (.failed (.chunkFetchFailed (summary failures)))

/-- Runs a parallel download to its ending. -/
def run {σ : Type} (net : Network σ) (policy : Retry.Policy) (job : ParallelJob)
    (signal : Option Signal) (w : World σ) : World σ × Finish :=
  match w.files.createDirAll job.dir with
  | .error e => (w, .failed (.io e))
  | .ok files =>
  let w := { w with files }
  let pending := job.plan.chunks.filter fun c =>
    w.lengthOr0 (Chunk.fileAt job.dir c.index) ≠ (job.chunkJob c).size
  let (w, failures) := pool net policy job signal pending (w, [])
  let w := w.report (job.onDisk w) job.total
  match afterPool signal failures with
  | some finish => (w, finish)
  | none =>
  match Chunk.merge w.files job.paths job.dest (some job.total) (fun _ => signal) with
  | (files, .ok bytes) => ({ w with files := files.removeDirAll job.dir }, .completed bytes)
  | (files, .error e) => ({ w with files }, .failed (.mergeFailed e))

end ParallelJob

end DownloadEngine.Transfer
