import DownloadEngine.Task.Status
import DownloadEngine.Progress
import DownloadEngine.Text.Json

/-!
# Task records

A task record holds what a caller asked for (id, URL, project, destination directory, an
optional file name, whether parallel chunks are wanted) and what is known so far: the status,
the resolved path, bytes on disk and in total, percent done, the measured rate, the time left
and the failure text. A change of status follows the edges of `Status.canTransitionTo`;
staying put is always allowed, and leaving downloading clears the rate and the time left.
Recording sizes keeps the total at least the bytes on disk, or zero when unknown.

## Main statements

* `transition_status`: a successful transition lands on the requested status.
-/

namespace DownloadEngine

/-- One download task. -/
structure Task where
  taskId : String
  url : String
  projectId : String
  destinationPath : String
  filename : Option String
  filePath : Option String
  concurrent : Bool
  status : Status
  downloadedSize : Nat
  totalSize : Nat
  progressPercent : Float
  speedBytesPerSec : Float
  timeRemainingSec : Option Float
  errorMessage : Option String
  startedAt : Nat

namespace Task

/-- A preparing task with nothing known yet. -/
def new (taskId url projectId destinationPath : String) (filename : Option String)
    (concurrent : Bool) (startedAt : Nat) : Task :=
  { taskId, url, projectId, destinationPath, filename, filePath := none, concurrent,
    status := .preparing, downloadedSize := 0, totalSize := 0, progressPercent := 0,
    speedBytesPerSec := 0, timeRemainingSec := none, errorMessage := none, startedAt }

/-- Moves to `next` when that is the current status or an edge; leaving downloading clears
the rate and the time left. Says whether the task is now in `next`. -/
def transition (t : Task) (next : Status) : Bool × Task :=
  if t.status = next then (true, t)
  else if t.status.canTransitionTo next then
    if next = .downloading then (true, { t with status := next })
    else (true, { t with status := next, speedBytesPerSec := 0, timeRemainingSec := none })
  else (false, t)

/-- Records bytes on disk and the total; a known total is at least the bytes on disk. -/
def setSizes (t : Task) (downloaded total : Nat) : Task :=
  let total' := if total > 0 then max total downloaded else 0
  { t with downloadedSize := downloaded, totalSize := total',
           progressPercent := percentDone downloaded total' }

/-- Records a measured rate and time left. -/
def applyThroughput (t : Task) (th : Throughput) : Task :=
  { t with speedBytesPerSec := th.bytesPerSec, timeRemainingSec := th.etaSecs }

/-- Completes the task: the total becomes the bytes on disk when unknown or smaller, all
bytes count as done, and no time is left. -/
def markCompleted (t : Task) : Bool × Task :=
  match t.transition .completed with
  | (false, t') => (false, t')
  | (true, t') =>
    let total := if t'.totalSize = 0 ∨ t'.downloadedSize > t'.totalSize then t'.downloadedSize
      else t'.totalSize
    (true, { t' with totalSize := total, downloadedSize := total, progressPercent := 100,
                     timeRemainingSec := some 0 })

/-- Fails the task with a message. -/
def markFailed (t : Task) (message : String) : Bool × Task :=
  match t.transition .error with
  | (false, t') => (false, t')
  | (true, t') => (true, { t' with errorMessage := some message })

/-- The task's fields as a JSON object, the start time last. -/
def toJson (t : Task) : JsonValue :=
  .obj [("task_id", .str t.taskId), ("url", .str t.url), ("project_id", .str t.projectId),
    ("destination_path", .str t.destinationPath),
    ("filename", JsonValue.ofOption .str t.filename),
    ("file_path", JsonValue.ofOption .str t.filePath), ("concurrent", .bool t.concurrent),
    ("status", .str t.status.name), ("downloaded_size", .nat t.downloadedSize),
    ("total_size", .nat t.totalSize), ("progress_percent", .double t.progressPercent),
    ("speed_bytes_per_sec", .double t.speedBytesPerSec),
    ("time_remaining_sec", JsonValue.ofOption .double t.timeRemainingSec),
    ("error_message", JsonValue.ofOption .str t.errorMessage), ("started_at", .nat t.startedAt)]

theorem transition_status {t t' : Task} {next : Status} (h : t.transition next = (true, t')) :
    t'.status = next := by
  unfold transition at h
  split at h
  · cases h
    assumption
  · split at h
    · split at h <;> cases h <;> rfl
    · cases h

end Task

end DownloadEngine
