import DownloadEngine.Config.Basic
import DownloadEngine.Decimal.Shortest

/-!
# Writing the configuration as TOML

The configuration is written as its top-level keys in declaration order, then a blank line
and a `[timeouts]` section, then, when there is one, a `[retry]` section. A string is written
as a literal string when it holds a quote or backslash and can be one, else as a basic
string with escapes.
-/

namespace DownloadEngine.Config

/-- A basic TOML string. -/
def basicString (s : String) : String :=
  let escape (c : Char) : String :=
    if c == '"' then "\\\"" else if c == '\\' then "\\\\"
    else if c == '\n' then "\\n" else if c == '\t' then "\\t" else if c == '\r' then "\\r"
    else if c.toNat < 0x20 ∨ c.toNat = 0x7F then
      "\\u" ++ String.ofList ((Nat.toDigits 16 (c.toNat + 0x10000)).drop 1 |>.map Char.toUpper)
    else c.toString
  "\"" ++ String.join (s.toList.map escape) ++ "\""

/-- A TOML string: literal when that avoids escapes, else basic. -/
def tomlString (s : String) : String :=
  let cs := s.toList
  if (cs.contains '"' || cs.contains '\\') && !cs.contains '\'' &&
      !(cs.any fun c => c.toNat < 0x20 || c.toNat = 0x7F) then
    "'" ++ s ++ "'"
  else basicString s

/-- A TOML float: the shortest digits, `nan` and `inf` for the values without digits. -/
def tomlFloat (x : Float) : String :=
  if x.isNaN then "nan"
  else if x.isInf then (if x < 0 then "-inf" else "inf")
  else (Decimal.shortText? x).getD "0.0"

/-- A line `key = value`. -/
def line (key value : String) : String := key ++ " = " ++ value ++ "\n"

/-- The TOML text of a configuration. -/
def toToml (c : Config) : String :=
  line "projects_root" (tomlString c.projectsRoot) ++
  line "default_concurrency" (toString c.defaultConcurrency) ++
  line "min_chunk_bytes" (toString c.minChunkBytes) ++
  line "stream_buffer_bytes" (toString c.streamBufferBytes) ++
  line "progress_interval_ms" (toString c.progressIntervalMs) ++
  line "poll_interval_ms" (toString c.pollIntervalMs) ++
  "\n[timeouts]\n" ++
  line "probe_secs" (toString c.timeouts.probeSecs) ++
  line "chunk_secs" (toString c.timeouts.chunkSecs) ++
  line "ftp_connect_secs" (toString c.timeouts.ftpConnectSecs) ++
  match c.retry with
  | none => ""
  | some r =>
    "\n[retry]\n" ++
    line "max_attempts" (toString r.maxAttempts) ++
    line "base_delay_secs" (tomlFloat r.baseDelaySecs) ++
    line "max_delay_secs" (toString r.maxDelaySecs)

end DownloadEngine.Config
