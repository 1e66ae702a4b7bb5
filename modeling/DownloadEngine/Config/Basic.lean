import DownloadEngine.Retry.Policy

/-!
# Engine configuration

The settings the engine runs with: where projects live, how many chunks to fetch at once and
how small they may be, the stream buffer, the progress and poll intervals, the three
timeouts and an optional retry section. The derived values are durations and the retry
policy; the poll interval is at least ten milliseconds, and a missing retry section gives the
default policy.
-/

namespace DownloadEngine

/-- Request timeouts, in seconds. -/
structure Timeouts where
  probeSecs : Nat
  chunkSecs : Nat
  ftpConnectSecs : Nat
  deriving DecidableEq, Repr

/-- The timeouts used when none are configured. -/
def Timeouts.default : Timeouts := ⟨30, 60, 60⟩

/-- The engine's configuration. -/
structure Config where
  projectsRoot : String
  defaultConcurrency : Nat
  minChunkBytes : Nat
  streamBufferBytes : Nat
  progressIntervalMs : Nat
  pollIntervalMs : Nat
  timeouts : Timeouts
  retry : Option Retry.Settings

namespace Config

/-- The configuration written when there is none. -/
def default : Config :=
  { projectsRoot := "./projects", defaultConcurrency := 8, minChunkBytes := 1024 * 1024,
    streamBufferBytes := 8 * 1024, progressIntervalMs := 1000, pollIntervalMs := 500,
    timeouts := Timeouts.default, retry := none }

/-- The retry policy: the configured one, else the default; a base delay without a duration
is a fault. -/
def retryPolicy (c : Config) : Except Fault Retry.Policy :=
  match c.retry with
  | some s => Retry.Policy.ofSettings s
  | none => .ok Retry.Policy.default

/-- How long a probe may take. -/
def probeTimeout (c : Config) : Duration := Duration.ofSecs c.timeouts.probeSecs

/-- How long a chunk or stream may go without progress. -/
def chunkTimeout (c : Config) : Duration := Duration.ofSecs c.timeouts.chunkSecs

/-- How long an FTP connection may take to set up. -/
def ftpConnectTimeout (c : Config) : Duration := Duration.ofSecs c.timeouts.ftpConnectSecs

/-- The least time between two progress samples. -/
def progressInterval (c : Config) : Duration := Duration.ofMillis c.progressIntervalMs

/-- The supervisor's tick: the configured interval, but at least ten milliseconds. -/
def pollInterval (c : Config) : Duration := Duration.ofMillis (max c.pollIntervalMs 10)

theorem pollInterval_ge (c : Config) : 10 * 1000000 ≤ c.pollInterval.nanos := by
  simp only [pollInterval, Duration.ofMillis]
  omega

end Config

end DownloadEngine
