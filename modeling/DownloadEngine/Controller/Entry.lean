import DownloadEngine.Task.Record
import DownloadEngine.Probe.Info
import DownloadEngine.Chunk.Plan
import DownloadEngine.Control

/-!
# Registered tasks

The engine keeps, for every task, its record, what its probe learned, the transfer mode
chosen on its first run (kept for later runs), its rate tracker, its control token, the
events it has published that the engine has not yet collected, and the handle of the thread
that ran it last.

The updates here are the only ways a run changes a task. A status change follows the task's
edges. Progress moves the byte counts only while the task is downloading, so a run that has
not yet seen a pause or cancel cannot move them, and a sample of the tracker sets the rate.
Completing or failing a task that never left `preparing` steps through `downloading` first;
so does settling it, unless it is settled as cancelled. Each of these takes the entry's lock
more than once: the status is read under one lock, a task still preparing is moved to
`downloading` under another, and the completion, the failure or the settled status is decided
under a third, so another update may come between them.

Every change of status publishes the task's new record, and so does every progress update
that takes a rate sample; staying in a status publishes nothing.
-/

namespace DownloadEngine.Controller

/-- How a task's bytes are fetched: as planned parallel chunks, or as one stream. -/
inductive Mode where
  | parallel (plan : Chunk.Plan)
  | single
  deriving DecidableEq, Repr

/-- What the engine tells its subscribers about tasks. -/
inductive Event where
  /-- A task changed status; its record after the change. -/
  | statusChanged (t : Task)
  /-- A task's progress was sampled; its record after the sample. -/
  | progress (t : Task)
  /-- A task left the engine. -/
  | removed (taskId : String)

/-- A task as the engine keeps it. -/
structure Entry where
  task : Task
  probe : Option ProbeInfo
  mode : Option Mode
  tracker : Tracker
  token : Token
  /-- Events published and not yet collected, oldest first. -/
  outbox : List Event
  /-- The handle of the thread of the task's latest run, until a call takes it: a handle is the
  number of the spawn that made the thread. -/
  worker : Option Nat

namespace Entry

/-- Publishes an event. -/
def publish (e : Entry) (ev : Event) : Entry := { e with outbox := e.outbox ++ [ev] }

/-- Moves the task to `next` if its edges allow, publishing the change; says whether it is
now in `next`. -/
def transition (e : Entry) (next : Status) : Bool × Entry :=
  if e.task.status = next then (true, e) else
  match e.task.transition next with
  | (true, task) => (true, { e with task }.publish (.statusChanged task))
  | (false, _) => (false, e)

/-- Settles a finished run into `next`, through `downloading` when the run never left
`preparing` and `next` is not `cancelled`. -/
def settle (e : Entry) (next : Status) : Bool × Entry :=
  let e := if e.task.status = .preparing ∧ next ≠ .cancelled then (e.transition .downloading).2
    else e
  e.transition next

/-- Records a probe result: the total becomes its length. -/
def setProbe (e : Entry) (info : ProbeInfo) : Entry :=
  { e with task := e.task.setSizes e.task.downloadedSize info.contentLength, probe := some info }

/-- Records the file name and path chosen for the task. -/
def setDestination (e : Entry) (name path : String) : Entry :=
  { e with task := { e.task with filename := some name, filePath := some path } }

/-- Starts from bytes already on disk. -/
def seedDownloaded (e : Entry) (bytes : Nat) (now : Instant) : Entry :=
  { e with task := e.task.setSizes bytes e.task.totalSize, tracker := e.tracker.rebase now bytes }

/-- Restarts rate measurement at the current size, for a new run. -/
def restartSampling (e : Entry) (now : Instant) : Entry :=
  { e with tracker := e.tracker.rebase now e.task.downloadedSize }

/-- Records bytes on disk and a total (zero keeps the known total), while downloading. -/
def recordProgress (e : Entry) (downloaded total : Nat) (now : Instant) : Entry :=
  if e.task.status ≠ .downloading then e else
  let task := e.task.setSizes downloaded (if total > 0 then total else e.task.totalSize)
  match e.tracker.sample now task.downloadedSize task.totalSize with
  | (some th, tracker) =>
    let task := task.applyThroughput th
    { e with task, tracker }.publish (.progress task)
  | (none, tracker) => { e with task, tracker }

/-- The first lock sections of a completion or a failure: the status is read, and a task that
never left `preparing` is moved to `downloading`. -/
def started (e : Entry) : Entry :=
  if e.task.status = .preparing then (e.transition .downloading).2 else e

/-- The lock section that decides a completion: a downloading task takes the bytes on disk and
completes; a task in any other status is left as it is. -/
def completeLocked (e : Entry) (bytes : Nat) : Bool × Entry :=
  if e.task.status ≠ .downloading then (false, e) else
  match (e.task.setSizes bytes e.task.totalSize).markCompleted with
  | (true, task) => (true, { e with task }.publish (.statusChanged task))
  | (false, task) => (false, { e with task })

/-- Completes a downloading task with the bytes on disk, once it has started. -/
def complete (e : Entry) (bytes : Nat) : Bool × Entry := e.started.completeLocked bytes

/-- The lock section that decides a failure. -/
def failLocked (e : Entry) (message : String) : Bool × Entry :=
  match e.task.markFailed message with
  | (true, task) => (true, { e with task }.publish (.statusChanged task))
  | (false, _) => (false, e)

/-- Fails the task with a message, once it has started. -/
def fail (e : Entry) (message : String) : Bool × Entry := e.started.failLocked message

theorem recordProgress_of_ne (e : Entry) (downloaded total : Nat) (now : Instant)
    (h : e.task.status ≠ .downloading) : e.recordProgress downloaded total now = e := by
  simp [recordProgress, h]

end Entry

end DownloadEngine.Controller
