import DownloadEngine.Controller.Entry
import DownloadEngine.Transfer.Stream
import DownloadEngine.Transfer.Parallel
import DownloadEngine.Probe.Query
import DownloadEngine.Project
import DownloadEngine.Config.Basic

/-!
# A task's run

A run takes a task from where it stands to a settled status. It parses the address, probes
it unless an earlier run did, and stops here if a signal is raised. It then resolves the
destination unless an earlier run did: the file name is the caller's, or one derived from
the address and the probe's suggestion; the path lies inside the project, and its parent
directory is created. On the first run it chooses the mode: one stream when bytes are
already on disk (they are kept and counted), when the caller asked for no parallel chunks,
or when the probe does not allow them or the plan has no chunks; planned parallel chunks
otherwise. A single stream whose file already holds the known total is complete. Otherwise,
unless a signal is raised, the task moves to `downloading` and the transfer runs.

A run ends by its outcome, except that a raised signal wins over a failure, and a cancel
wins over a completion. A cancelled run removes the destination, its `.part` file and the
chunk directory.

## Implementation notes

A run is computed at once, so the signal a run sees is the one raised before it started,
and the clock stands still while it runs.
-/

namespace DownloadEngine.Controller

open Transfer

/-- What the engine is set up with. -/
structure Setup where
  config : Config
  policy : Retry.Policy
  /-- The processors available, which bound the chunk workers. -/
  cpus : Nat

/-- A point in time in nanoseconds since the Unix epoch. -/
abbrev Moment := Nat

/-- Whole seconds since the Unix epoch at a moment. -/
def Moment.secs (now : Moment) : Nat := now / 1000000000

/-- `destination/name` as a project-relative path: one `/` between them. -/
def joinRel (destination name : String) : String :=
  String.ofList (destination.toList.reverse.dropWhile (· == '/')).reverse ++ "/" ++ name

/-- Removes a task's destination, its `.part` file and its chunk directory; what is missing
is left alone. -/
def removePartialFiles (files : FileTree) (path taskId : String) : FileTree :=
  let files := Chunk.discard files path
  let files := Chunk.discard files (Chunk.partFor path)
  files.removeDirAll (Chunk.dirFor path taskId)

/-- Takes the world's pending progress reports into the task. -/
def takeReports {σ : Type} (now : Moment) (e : Entry) (w : World σ) : Entry × World σ :=
  (w.reports.foldl (fun e (d, t) => e.recordProgress d t now) e, { w with reports := [] })

/-- The mode of a first run. -/
def chooseMode (setup : Setup) (info : ProbeInfo) (t : Transport) (concurrent : Bool)
    (onDisk : Nat) : Mode :=
  if onDisk > 0 ∨ !concurrent ∨ !info.allowsParallel t then .single else
  let plan := Chunk.plan info.contentLength setup.config.defaultConcurrency
    setup.config.minChunkBytes setup.cpus
  if plan.chunks.isEmpty then .single else .parallel plan

/-- Resolves the destination of a task and creates its parent directory. -/
def resolveDestination {σ : Type} (setup : Setup) (now : Moment) (info : ProbeInfo) (e : Entry)
    (w : World σ) : Except EngineError (Entry × World σ × String) := do
  let task := e.task
  let name := task.filename.getD (Filename.derive task.url info.filename now.secs)
  let path ← (Project.resolve setup.config.projectsRoot task.projectId
    (joinRel task.destinationPath name)).mapError .pathRejected
  let files ← match FsPath.parent? path with
    | some parent => (w.files.createDirAll parent).mapError .io
    | none => pure w.files
  pure (e.setDestination name path, { w with files }, path)

/-- Runs the transfer of a run, once the task is downloading. -/
def transfer {σ : Type} (setup : Setup) (net : Network σ) (source : Source) (signal : Option Signal)
    (mode : Mode) (path : String) (e : Entry) (w : World σ) : World σ × Finish :=
  match mode with
  | .parallel plan =>
    ParallelJob.run net setup.policy
      ⟨source.address.text, e.task.taskId, path, plan, e.task.totalSize⟩ signal w
  | .single =>
    StreamJob.run net setup.policy
      ⟨source, path, e.task.downloadedSize, e.task.totalSize, setup.config.streamBufferBytes⟩
      signal w

/-- The probe of a run: the one an earlier run recorded, or a new one, recorded. -/
def probeOnce {σ : Type} (net : Network σ) (source : Source) (e : Entry) (w : World σ) :
    Entry × World σ × ProbeInfo :=
  match e.probe with
  | some info => (e, w, info)
  | none =>
    let (servers, info) := ProbeInfo.ask net w.servers source.address.text
    (e.setProbe info, { w with servers }, info)

/-- The destination of a run: the one an earlier run resolved, or a newly resolved one. -/
def placeOnce {σ : Type} (setup : Setup) (now : Moment) (info : ProbeInfo) (e : Entry)
    (w : World σ) : Except EngineError (Entry × World σ × String) :=
  match e.task.filePath with
  | some path => .ok (e, w, path)
  | none => resolveDestination setup now info e w

/-- The mode of a run: the one chosen on the first run, or one chosen now, after the bytes
already on disk are counted. -/
def modeOnce {σ : Type} (setup : Setup) (now : Moment) (info : ProbeInfo) (transport : Transport)
    (path : String) (e : Entry) (w : World σ) : Entry × Mode :=
  match e.mode with
  | some mode => (e, mode)
  | none =>
    let onDisk := w.lengthOr0 path
    let mode := chooseMode setup info transport e.task.concurrent onDisk
    let e := if onDisk > 0 then e.seedDownloaded onDisk now else e
    ({ e with mode := some mode }, mode)

/-- Moves the task to `downloading`, runs the transfer and takes its progress; a task that
can no longer download ends cancelled. -/
def launch {σ : Type} (setup : Setup) (net : Network σ) (now : Moment) (source : Source)
    (signal : Option Signal) (mode : Mode) (path : String) (e : Entry) (w : World σ) :
    Entry × World σ × Finish :=
  match e.transition .downloading with
  | (false, e) => (e, w, .cancelled)
  | (true, e) =>
    let e := e.restartSampling now
    let (w, finish) := transfer setup net source signal mode path e w
    let (e, w) := takeReports now e w
    (e, w, finish)

/-- A run up to its outcome, once its address has been read. -/
def driveFrom {σ : Type} (setup : Setup) (net : Network σ) (now : Moment)
    (signal : Option Signal) (source : Source) (e : Entry) (w : World σ) :
    Entry × World σ × Finish :=
  let (e, w, info) := probeOnce net source e w
  match signal with
  | some s => (e, w, .ofSignal s)
  | none =>
  match placeOnce setup now info e w with
  | .error err => (e, w, .failed err)
  | .ok (e, w, path) =>
  let (e, mode) := modeOnce setup now info source.transport path e w
  if e.task.totalSize > 0 ∧ e.task.downloadedSize ≥ e.task.totalSize ∧ mode = Mode.single then
    (e, w, .completed e.task.downloadedSize)
  else
  match signal with
  | some s => (e, w, .ofSignal s)
  | none => launch setup net now source signal mode path e w

/-- A run up to its outcome. -/
def drive {σ : Type} (setup : Setup) (net : Network σ) (now : Moment) (signal : Option Signal)
    (e : Entry) (w : World σ) : Entry × World σ × Finish :=
  match Source.parse e.task.url with
  | .error err => (e, w, .failed err)
  | .ok source => driveFrom setup net now signal source e w

/-- Settles a task by the outcome of its run. -/
def settleRun {σ : Type} (signal : Option Signal) (outcome : Finish) (e : Entry) (w : World σ) :
    Entry × World σ :=
  let task := e.task
  match outcome.under signal with
  | .completed bytes => ((e.complete bytes).2, w)
  | .paused => ((e.settle .paused).2, w)
  | .cancelled =>
    let e := (e.settle .cancelled).2
    match task.filePath with
    | some path => (e, { w with files := removePartialFiles w.files path task.taskId })
    | none => (e, w)
  | .failed err => ((e.fail err.message).2, w)

/-- Runs a task to a settled status. -/
def runTask {σ : Type} (setup : Setup) (net : Network σ) (now : Moment) (signal : Option Signal)
    (e : Entry) (w : World σ) : Entry × World σ :=
  let (e, w, outcome) := drive setup net now signal e w
  settleRun signal outcome e w

end DownloadEngine.Controller
