import DownloadEngine.Controller.Worker

/-!
# The download engine

The engine keeps tasks by id and runs each one in its own project. Starting a task checks,
in order, the address, the destination directory, the destination file when a name is
given (the directory and the name joined by one `/`), and that the id is free; then the task
is registered as `preparing` with a fresh control token and runs.

* Pausing asks a preparing or downloading task to stop and keep its bytes.
* Resuming moves a paused task back to `downloading` and runs it again with a fresh token.
* Cancelling removes a task of any status, asks it to stop, marks it cancelled if its edges
  allow, and removes its destination, `.part` file and chunk directory.
* Cleaning up removes every task in a terminal status and counts them.
* Listing gives the tasks, or those of one project, by start time and then id.
* Shutting down asks every task to pause.

Starting publishes the new record, and removing a task publishes its removal. A run needs a
thread of its own, named after its task: when the system refuses one, a start fails with the
system's error and registers nothing, and a resume fails the task it had moved to
`downloading`. A thread's name is a C string, so a start whose task id holds a NUL character
faults once every check has passed, and registers nothing.

Every thread the engine makes has a handle, numbered by the spawn that made it. A task's entry
holds the handle of its latest run; removing the task moves that handle to a list of retired
workers, by task id. A new run first joins the run before it: on a resume, the one whose handle
the entry held; on a start, the first retired worker of the same id, which the start takes off
the list, the last one taking its place, before it asks the system for a thread. The handle a
new run is to join travels with the run's thread, and is dropped with it when the system
refuses the thread. Cleaning up joins the retired workers that have exited, and shutting down
joins every worker whose handle the engine holds.

## Implementation notes

Every call runs the work it starts to its end before it answers, so a call never sees a run
in progress: a task is settled whenever no call is running.
-/

namespace DownloadEngine.Controller

/-- What a caller asks to download. -/
structure StartRequest where
  projectId : String
  url : String
  filename : Option String
  destinationPath : String
  concurrent : Bool
  taskId : String
  deriving DecidableEq, Repr

/-- The engine: its setup, the network it reaches servers by, its tasks, their control
cells, the world, the events published so far, oldest first, and its workers' handles. -/
structure Engine (σ : Type) where
  setup : Setup
  net : Network σ
  entries : List Entry
  forest : Forest
  world : World σ
  events : List Event
  /-- The handles of the workers of removed tasks, with their task ids, not yet joined. -/
  retired : List (String × Nat)
  /-- How many threads have been made; the next one's handle. -/
  spawned : Nat
  /-- The handles joined so far, in order. -/
  joined : List Nat

/-- Removes the element at `i`, the last element taking its place. -/
def swapRemove {α : Type} (l : List α) (i : Nat) : List α :=
  match l.getLast? with
  | some last => (l.set i last).dropLast
  | none => l

/-- Takes the first retired worker of a task off the list: its handle, and the list after. -/
def takeRetired (retired : List (String × Nat)) (taskId : String) :
    Option Nat × List (String × Nat) :=
  match retired.findIdx? (·.1 == taskId) with
  | some i => ((retired[i]?).map (·.2), swapRemove retired i)
  | none => (none, retired)

namespace Engine

/-- An engine with no tasks over a world. -/
def new {σ : Type} (setup : Setup) (net : Network σ) (world : World σ) : Engine σ :=
  ⟨setup, net, [], Forest.empty, world, [], [], 0, []⟩

/-- The entry of a task. -/
def entry? {σ : Type} (eng : Engine σ) (taskId : String) : Option Entry :=
  eng.entries.find? (·.task.taskId == taskId)

/-- The record of a task. -/
def get? {σ : Type} (eng : Engine σ) (taskId : String) : Option Task :=
  (eng.entry? taskId).map (·.task)

/-- Replaces the entry of a task. -/
def putEntry {σ : Type} (eng : Engine σ) (e : Entry) : Engine σ :=
  { eng with entries := eng.entries.map fun old =>
      if old.task.taskId == e.task.taskId then e else old }

/-- Runs a task's entry to a settled status, under the signal of its token, and collects
the events it published. The run updates the task; the handle of its thread stays where the
engine put it. -/
def run {σ : Type} (eng : Engine σ) (now : Moment) (e : Entry) : Engine σ :=
  let (ran, world) := runTask eng.setup eng.net now (eng.forest.signal e.token) e eng.world
  { eng.putEntry { ran with outbox := [], worker := e.worker } with
    world, events := eng.events ++ ran.outbox }

/-- Checks a start request: the address, the destination directory, the destination file,
and the id. -/
def checkStart {σ : Type} (eng : Engine σ) (req : StartRequest) : Except EngineError Unit := do
  let _ ← Source.parse req.url
  let root := eng.setup.config.projectsRoot
  let _ ← (Project.resolve root req.projectId req.destinationPath).mapError .pathRejected
  if let some name := req.filename then
    let _ ← (Project.resolve root req.projectId (joinRel req.destinationPath name)).mapError
      .pathRejected
  if (eng.entry? req.taskId).isSome then throw (.duplicateTask req.taskId)

/-- Starts a task and runs it; gives its id. -/
def start {σ : Type} (eng : Engine σ) (now : Moment) (req : StartRequest) :
    Engine σ × Except EngineError String :=
  match eng.checkStart req with
  | .error e => (eng, .error e)
  | .ok () =>
    let task := Task.new req.taskId req.url req.projectId req.destinationPath req.filename
      req.concurrent now.secs
    let (forest, token) := eng.forest.newToken
    -- a cancelled task of the same id may still be winding down: its worker is joined first
    let (predecessor, retired) := takeRetired eng.retired req.taskId
    let e : Entry := ⟨task, none, none, Tracker.start eng.setup.config.progressInterval now 0,
      token, [], some eng.spawned⟩
    let eng := { eng with entries := eng.entries ++ [e], forest, retired
                          spawned := eng.spawned + 1, joined := eng.joined ++ predecessor.toList
                          events := eng.events ++ [Event.statusChanged task] }
    (eng.run now e, .ok req.taskId)

/-- Asks a preparing or downloading task to pause. -/
def pause {σ : Type} (eng : Engine σ) (taskId : String) : Engine σ × Bool :=
  match eng.entry? taskId with
  | some e =>
    if e.task.status = .preparing ∨ e.task.status = .downloading then
      ({ eng with forest := eng.forest.request e.token .pause }, true)
    else (eng, false)
  | none => (eng, false)

/-- Resumes a paused task with a fresh token. -/
def resume {σ : Type} (eng : Engine σ) (now : Moment) (taskId : String) : Engine σ × Bool :=
  match eng.entry? taskId with
  | some e =>
    if e.task.status ≠ .paused then (eng, false) else
    match e.transition .downloading with
    | (false, _) => (eng, false)
    | (true, e) =>
      let (forest, token) := eng.forest.newToken
      -- the new run joins the one before it
      let resumed := { e with token, worker := some eng.spawned }
      let eng := { eng with forest, spawned := eng.spawned + 1
                            joined := eng.joined ++ e.worker.toList }
      (eng.putEntry resumed |>.run now resumed, true)
  | none => (eng, false)

/-- Starts a task when the system gives its run a thread. When the system refuses one, the
start fails with the system's error once every check has passed, and nothing is registered;
the retired worker it took off the list went with the refused thread. -/
def startSpawning {σ : Type} (eng : Engine σ) (now : Moment) (req : StartRequest)
    (spawn : Except IoError Unit) : Engine σ × Except EngineError String :=
  match spawn with
  | .ok () => eng.start now req
  | .error err =>
    match eng.checkStart req with
    | .error e => (eng, .error e)
    | .ok () => ({ eng with retired := (takeRetired eng.retired req.taskId).2 }, .error (.io err))

/-- The name of the thread that runs a task. -/
def workerName (taskId : String) : String := "pdm-task-" ++ taskId

/-- Names a thread. A name is a C string: one with a NUL character faults, giving its bytes and
where among them the first NUL stands. -/
def nameThread (name : String) : Except Fault Unit :=
  let bytes := Text.utf8 name
  if (0 : UInt8) ∈ bytes then .error (.threadNameNul (bytes.takeWhile (· ≠ 0)).length bytes)
  else .ok ()

/-- Starts a task as a caller does: the checks, then a thread for its run named after the task,
then what the system answers to it. A name the thread cannot take faults once every check has
passed, before anything is registered. -/
def startWorker {σ : Type} (eng : Engine σ) (now : Moment) (req : StartRequest)
    (spawn : Except IoError Unit) : Except Fault (Engine σ × Except EngineError String) :=
  match eng.checkStart req with
  | .error e => .ok (eng, .error e)
  | .ok () =>
    match nameThread (workerName req.taskId) with
    | .error f => .error f
    | .ok () => .ok (eng.startSpawning now req spawn)

/-- Resumes a paused task when the system gives its run a thread. When the system refuses one,
the task, already moved to `downloading`, fails with the system's error and the call answers
`false`; the handle the entry held went with the refused thread. -/
def resumeSpawning {σ : Type} (eng : Engine σ) (now : Moment) (taskId : String)
    (spawn : Except IoError Unit) : Engine σ × Bool :=
  match spawn with
  | .ok () => eng.resume now taskId
  | .error err =>
    match eng.entry? taskId with
    | some e =>
      if e.task.status ≠ .paused then (eng, false) else
      match e.transition .downloading with
      | (false, _) => (eng, false)
      | (true, e) =>
        let e := (e.fail ("could not spawn worker: " ++ err.text)).2
        ({ eng.putEntry { e with outbox := [], worker := none } with
            events := eng.events ++ e.outbox }, false)
    | none => (eng, false)

/-- Cancels and removes a task. -/
def cancel {σ : Type} (eng : Engine σ) (taskId : String) : Engine σ × Bool :=
  match eng.entry? taskId with
  | some e =>
    let forest := eng.forest.request e.token .cancel
    let e := (e.transition .cancelled).2
    let world := match e.task.filePath with
      | some path => { eng.world with files := removePartialFiles eng.world.files path taskId }
      | none => eng.world
    ({ eng with entries := eng.entries.filter (·.task.taskId != taskId), forest, world
                retired := eng.retired ++ (e.worker.map (taskId, ·)).toList
                events := eng.events ++ e.outbox ++ [Event.removed taskId] }, true)
  | none => (eng, false)

/-- The tasks, or those of one project, by start time and then id. -/
def list {σ : Type} (eng : Engine σ) (projectId : Option String) : List Task :=
  let tasks := (eng.entries.map (·.task)).filter fun t => projectId.all (t.projectId == ·)
  tasks.mergeSort fun a b =>
    a.startedAt < b.startedAt ∨ (a.startedAt = b.startedAt ∧ a.taskId ≤ b.taskId)

/-- The handles of the workers of some entries, with their task ids. -/
def workersOf (es : List Entry) : List (String × Nat) :=
  es.filterMap fun e => e.worker.map (e.task.taskId, ·)

/-- Removes the tasks in a terminal status, retiring their workers; gives how many. Then joins
the retired workers that have exited, which is every one of them, since no run outlives the
call that started it. -/
def cleanup {σ : Type} (eng : Engine σ) : Engine σ × Nat :=
  let (gone, kept) := eng.entries.partition (·.task.status.isTerminal)
  let retired := eng.retired ++ workersOf gone
  ({ eng with entries := kept, retired := [], joined := eng.joined ++ retired.map (·.2)
              events := eng.events ++ gone.map (Event.removed ·.task.taskId) },
    gone.length)

/-- Asks every task to pause, only a live one being able to take notice, and joins every worker:
those the entries hold, then the retired ones. -/
def shutdown {σ : Type} (eng : Engine σ) : Engine σ :=
  { eng with forest := eng.entries.foldl (fun f e => f.request e.token .pause) eng.forest
             entries := eng.entries.map ({ · with worker := none }), retired := []
             joined := eng.joined ++ (workersOf eng.entries ++ eng.retired).map (·.2) }

end Engine

end DownloadEngine.Controller
