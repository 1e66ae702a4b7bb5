import DownloadEngine.CommandLine.Session

/-!
# The program

`get` downloads one address into a project and reports how it ended; `probe` prints what a
server says about an address; `session` answers one command per line of standard input with
one JSON line, until the input ends or `quit`. Blank lines are skipped. A mistake in the
words the program is called with ends it with status 2, and a failed download or probe with
status 1.
-/

namespace DownloadEngine.CommandLine

/-- A task id from sixteen random bytes. -/
def newTaskId : IO String := do
  pure (uuidOfBytes (← IO.getRandomBytes 16).toList)

/-- The current moment, in nanoseconds of the runtime's monotonic clock. Its origin is not
fixed, so start times order the tasks of a run but do not date them. -/
def currentMoment : IO Controller.Moment := IO.monoNanosNow

/-- Answers session lines until the input ends or a line says `quit`; gives the engine. -/
partial def answerLines (watch : Bool) (input output : IO.FS.Stream)
    (eng : Controller.Engine Unit) : IO (Controller.Engine Unit) := do
  let line ← input.getLine
  if line.isEmpty then return eng
  if Text.isBlank line then return ← answerLines watch input output eng
  match Command.ofLine line with
  | .error e =>
    output.putStrLn (JsonValue.obj [("error", .str (Text.trim e))]).render
    output.flush
    answerLines watch input output eng
  | .ok .quit => return eng
  | .ok c =>
    let (eng, events, answer) := step eng (← currentMoment) (← newTaskId) c
    if watch then
      for ev in events do output.putStrLn (eventJson ev).render
    output.putStrLn answer.render
    output.flush
    answerLines watch input output eng

end DownloadEngine.CommandLine

open DownloadEngine DownloadEngine.CommandLine in
/-- Runs the program on the words it is called with. -/
def main (args : List String) : IO UInt32 := do
  match Invocation.read args with
  | .error e =>
    IO.eprintln e
    return 2
  | .ok (.probe url) =>
    match probeReport Network.refusing () url with
    | .ok text =>
      IO.println text
      return 0
    | .error message =>
      IO.eprintln ("pdm error: " ++ message)
      return 1
  | .ok (.get request) =>
    match download offline (← currentMoment) (← newTaskId) request with
    | .done text =>
      IO.print text
      return 0
    | .failed text message =>
      IO.print text
      IO.eprintln ("pdm error: " ++ message)
      return 1
  | .ok (.session watch) =>
    let _ ← answerLines watch (← IO.getStdin) (← IO.getStdout) offline
    return 0
