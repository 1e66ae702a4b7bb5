import DownloadEngine.CommandLine.Command
import DownloadEngine.Decimal.Fixed

/-!
# Sessions and their answers

Each command of a session is answered with one JSON object:

* `start` with the new task's id as `task_id`, or the failure as `error`;
* `status` with the task's record, or `error` naming the unknown task;
* `pause`, `resume` and `cancel` with whether they acted, as `ok`;
* `list` with the records, by start time and then id;
* `cleanup` with how many tasks it removed, as `removed`;
* `quit` with `ok`.

A watching session also prints each event the command published, before its answer: a
status change and a progress sample with the task's record, and a removal with the id.

A one-off download prints its task's id, a progress line for each sample, and at the end the
saved size and path, or the failure, or how far it got and how to continue. A task id not
given by the caller is a random version 4 UUID.

The command line has no network of its own: it runs the engine with no reachable server,
over files kept in memory.
-/

namespace DownloadEngine.CommandLine

open Controller

/-- The setup of the command line: the default configuration and retry policy, with one
processor counted for chunk workers. -/
def defaultSetup : Setup := ⟨Config.default, Retry.Policy.default, 1⟩

/-- The engine of the command line: no server can be reached, and files are kept in memory
for as long as the program runs. -/
def offline : Engine Unit := Engine.new defaultSetup Network.refusing ⟨FileTree.empty, (), []⟩

/-- The JSON form of an event. -/
def eventJson : Event → JsonValue
  | .statusChanged t => .obj [("event", .str "status"), ("task", t.toJson)]
  | .progress t => .obj [("event", .str "progress"), ("task", t.toJson)]
  | .removed id => .obj [("event", .str "removed"), ("task_id", .str id)]

/-- Runs one command on the engine; gives the engine after it and the answer. `freshId`
names a started task that names no id. -/
def execute {σ : Type} (eng : Engine σ) (now : Moment) (freshId : String) :
    Command → Engine σ × JsonValue
  | .start args =>
    match eng.start now (args.request freshId) with
    | (eng, .ok id) => (eng, .obj [("task_id", .str id)])
    | (eng, .error e) => (eng, .obj [("error", .str e.message)])
  | .status id =>
    match eng.get? id with
    | some t => (eng, t.toJson)
    | none => (eng, .obj [("error", .str ("unknown task " ++ id))])
  | .pause id => let (eng, ok) := eng.pause id; (eng, .obj [("ok", .bool ok)])
  | .resume id => let (eng, ok) := eng.resume now id; (eng, .obj [("ok", .bool ok)])
  | .cancel id => let (eng, ok) := eng.cancel id; (eng, .obj [("ok", .bool ok)])
  | .list project => (eng, .arr ((eng.list project).map Task.toJson))
  | .cleanup => let (eng, n) := eng.cleanup; (eng, .obj [("removed", .nat n)])
  | .quit => (eng, .obj [("ok", .bool true)])

/-- Runs one command; gives the engine after it with no events kept, the events the command
published, oldest first, and the answer. -/
def step {σ : Type} (eng : Engine σ) (now : Moment) (freshId : String) (c : Command) :
    Engine σ × List Event × JsonValue :=
  let (after, answer) := execute { eng with events := [] } now freshId c
  ({ after with events := [] }, after.events, answer)

/-- Two lowercase hexadecimal digits of a byte. -/
def hexByte (b : UInt8) : String :=
  String.ofList [JsonValue.hexDigit (b.toNat / 16), JsonValue.hexDigit (b.toNat % 16)]

/-- A version 4 UUID from sixteen random bytes: the version nibble set to 4, the variant bits
to `10`, written as five dash-separated groups of 8, 4, 4, 4 and 12 hexadecimal digits. -/
def uuidOfBytes (bytes : List UInt8) : String :=
  let bytes := (bytes ++ List.replicate 16 0).take 16
  let bytes := bytes.set 6 ((bytes.getD 6 0 &&& 0x0f) ||| 0x40)
  let bytes := bytes.set 8 ((bytes.getD 8 0 &&& 0x3f) ||| 0x80)
  let hex := fun (a b : Nat) => String.join ((bytes.drop a).take (b - a) |>.map hexByte)
  hex 0 4 ++ "-" ++ hex 4 6 ++ "-" ++ hex 6 8 ++ "-" ++ hex 8 10 ++ "-" ++ hex 10 16

/-- A byte count in mebibytes. -/
def mebibytes (n : Nat) : Float := Float.ofNat n / 1048576.0

/-- The progress line of a task, written over the previous one. -/
def progressLine (t : Task) : String :=
  let eta := (t.timeRemainingSec.map (Decimal.fixedText · 0 ++ "s")).getD "?"
  "\r  " ++ Decimal.fixedText (mebibytes t.downloadedSize) 1 ++ " / " ++
    Decimal.fixedText (mebibytes t.totalSize) 1 ++ " MiB (" ++
    Decimal.fixedText t.progressPercent 1 ++ "%)  " ++
    Decimal.fixedText (t.speedBytesPerSec / 1048576.0) 2 ++ " MiB/s  ETA " ++ eta ++ "  "

/-- How a one-off download ended. -/
inductive Ending where
  /-- It printed these lines and succeeded. -/
  | done (text : String)
  /-- It printed these lines and failed with this message. -/
  | failed (text message : String)
  deriving DecidableEq, Repr

/-- Runs a one-off download: starts it, prints the progress of its samples, pauses every
task, and reports how the task ended. -/
def download {σ : Type} (eng : Engine σ) (now : Moment) (freshId : String) (args : GetArgs) :
    Ending :=
  match eng.start now (args.request freshId) with
  | (_, .error e) => .failed "" e.message
  | (eng, .ok id) =>
    let samples := eng.events.filterMap fun
      | .progress t => if t.taskId = id then some (progressLine t) else none
      | _ => none
    let head := "task " ++ id ++ "\n" ++ String.join samples ++ "\n"
    let eng := eng.shutdown
    match eng.get? id with
    | some t =>
      if t.status = .completed then
        .done (head ++ "saved " ++ toString t.downloadedSize ++ " bytes to " ++
          t.filePath.getD "" ++ "\n")
      else if t.status = .error then .failed head (t.errorMessage.getD "download failed")
      else .done (head ++ "interrupted after " ++ toString t.downloadedSize ++
        " bytes; run again with --task-id " ++ id ++ " to continue\n")
    | none => .done (head ++ "interrupted after 0 bytes; run again with --task-id " ++ id ++
        " to continue\n")

/-- Probes an address: its result as indented JSON, or the failure. -/
def probeReport {σ : Type} (net : Network σ) (s : σ) (url : String) : Except String String :=
  match (ProbeInfo.query net s url).2 with
  | .ok info => .ok (info.toJson.pretty 0)
  | .error e => .error ("probe failed for " ++ url ++ ": " ++ e.message)

end DownloadEngine.CommandLine
