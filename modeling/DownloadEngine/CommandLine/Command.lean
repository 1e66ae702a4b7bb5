import DownloadEngine.CommandLine.Arguments
import DownloadEngine.Controller.Engine
import DownloadEngine.Text.Unicode

/-!
# Commands

The program is called as `get <URL> -p <PROJECT>`, `probe <URL>` or `session [--watch]`. A
session then reads one command per line, whose words are read the same way:

* `start <URL> -p <PROJECT>` starts a download, with the same options as `get`;
* `status`, `pause`, `resume` and `cancel` take a task id;
* `list` takes `--project` or `-p`;
* `cleanup` and `quit` take nothing.

A download takes the project (`--project` or `-p`, required), the directory inside it
(`--dest`, `/` when not given), the file name (`--name`), `--sequential` for one stream, and
a task id to reuse (`--task-id`). Errors read `error: ` and then what is wrong.
-/

namespace DownloadEngine.CommandLine

open Controller

/-- What a download asks for. -/
structure GetArgs where
  url : String
  project : String
  dest : String
  name : Option String
  sequential : Bool
  taskId : Option String
  deriving DecidableEq, Repr

/-- A command of a session. -/
inductive Command where
  | start (args : GetArgs)
  | status (taskId : String)
  | pause (taskId : String)
  | resume (taskId : String)
  | cancel (taskId : String)
  | list (project : Option String)
  | cleanup
  | quit
  deriving DecidableEq, Repr

/-- How the program is called. -/
inductive Invocation where
  | get (args : GetArgs)
  | probe (url : String)
  | session (watch : Bool)
  deriving DecidableEq, Repr

/-- The project option. -/
def projectOption : OptionSpec := ⟨"project", some 'p', some "PROJECT"⟩

/-- The options of a download. -/
def getOptions : List OptionSpec :=
  [projectOption, ⟨"dest", none, some "DEST"⟩, ⟨"name", none, some "NAME"⟩,
    ⟨"sequential", none, none⟩, ⟨"task-id", none, some "ID"⟩]

/-- The text for required arguments that were not given. -/
def missing (names : List String) : String :=
  "the following required arguments were not provided:" ++
    String.join (names.map ("\n  " ++ ·))

/-- Reads the words of a command that takes the given options and at most one positional
value. -/
def readOne (specs : List OptionSpec) (words : List String) :
    Except String (Option String × Arguments) := do
  let a ← read specs words Arguments.empty
  match a.positional with
  | [] => pure (none, a)
  | [v] => pure (some v, a)
  | _ :: extra :: _ => throw (unexpected extra)

/-- Reads the words of a command that takes the given options and no positional value. -/
def readNone (specs : List OptionSpec) (words : List String) : Except String Arguments := do
  let a ← read specs words Arguments.empty
  match a.positional with
  | [] => pure a
  | v :: _ => throw (unexpected v)

/-- Reads the words of a download. -/
def GetArgs.read (words : List String) : Except String GetArgs := do
  let (url, a) ← readOne getOptions words
  match url, a.value? "project" with
  | some url, some project =>
    pure ⟨url, project, (a.value? "dest").getD "/", a.value? "name", a.given "sequential",
      a.value? "task-id"⟩
  | none, some _ => throw (missing ["<URL>"])
  | some _, none => throw (missing [projectOption.usage])
  | none, none => throw (missing [projectOption.usage, "<URL>"])

/-- Reads the one required value of a command, named `<name>` in messages. -/
def readValue (name : String) (words : List String) : Except String String := do
  match ← readOne [] words with
  | (some v, _) => pure v
  | (none, _) => throw (missing ["<" ++ name ++ ">"])

/-- Reads the words of a session line. -/
def Command.read : List String → Except String Command
  | [] => .error "'session' requires a subcommand but one was not provided"
  | name :: words =>
    if name = "start" then .start <$> GetArgs.read words
    else if name = "status" then .status <$> readValue "TASK_ID" words
    else if name = "pause" then .pause <$> readValue "TASK_ID" words
    else if name = "resume" then .resume <$> readValue "TASK_ID" words
    else if name = "cancel" then .cancel <$> readValue "TASK_ID" words
    else if name = "list" then (fun a => .list (a.value? "project")) <$> readNone [projectOption] words
    else if name = "cleanup" then (fun _ => .cleanup) <$> readNone [] words
    else if name = "quit" then (fun _ => .quit) <$> readNone [] words
    else .error ("unrecognized subcommand '" ++ name ++ "'")

/-- Reads a session line: its white-space-separated words, as a command; an error reads
`error: ` and then what is wrong. -/
def Command.ofLine (line : String) : Except String Command :=
  (Command.read (Text.words line)).mapError ("error: " ++ ·)

/-- Reads the words the program is called with. -/
def Invocation.read : List String → Except String Invocation
  | [] => .error "error: 'pdm' requires a subcommand but one was not provided"
  | name :: words =>
    let result : Except String Invocation :=
      if name = "get" then .get <$> GetArgs.read words
      else if name = "probe" then .probe <$> readValue "URL" words
      else if name = "session" then
        (fun a => .session (a.given "watch")) <$> readNone [⟨"watch", none, none⟩] words
      else .error ("unrecognized subcommand '" ++ name ++ "'")
    result.mapError ("error: " ++ ·)

/-- The request of a download, under the given id when it names none. -/
def GetArgs.request (args : GetArgs) (freshId : String) : StartRequest :=
  ⟨args.project, args.url, args.name, args.dest, !args.sequential, args.taskId.getD freshId⟩

end DownloadEngine.CommandLine
