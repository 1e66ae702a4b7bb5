import DownloadEngine.Config.Basic
import DownloadEngine.Toml.Parse
import DownloadEngine.Decimal.Shortest
import DownloadEngine.Text.GeneralCategory
import DownloadEngine.Text.GraphemeExtend

/-!
# Reading the configuration from TOML

Fields are read in the order the document writes them, and the first value that does not fit
its field is the error; keys the configuration does not know are skipped. After that, the
first missing required field in declaration order is the error. `timeouts` and `retry` may be
left out; a section given as an array fills its fields by position. A date or time stands for
a map, so a section given as a date has none of its fields.

Error texts name what was found and what the field expects: ``invalid type: integer `5`,
expected struct TimeoutConfig``, ``invalid value: integer `-4`, expected usize``,
``missing field `chunk_secs` ``.
-/

namespace DownloadEngine.Config

open Toml (Value)

/-- What a field expects, as error texts name it. -/
inductive Expected
  | u32
  | u64
  | usize
  | f64
  | pathString
  /-- A section, by its type name and number of fields. -/
  | record (name : String) (fields : Nat)
  deriving DecidableEq, Repr

/-- The text of what a field expects. -/
def Expected.text : Expected → String
  | .u32 => "u32"
  | .u64 => "u64"
  | .usize => "usize"
  | .f64 => "f64"
  | .pathString => "path string"
  | .record name _ => "struct " ++ name

/-- What was found instead, as error texts name it. -/
inductive Found
  | integer (i : Int)
  | float (x : Float)
  | boolean (b : Bool)
  | string (s : String)
  | sequence
  | map

/-- A string in double quotes as error texts show it. Quotes and backslashes take a backslash;
the null character, tab, carriage return and line feed are written `\0`, `\t`, `\r`, `\n`;
a grapheme extender, or a character that does not print as itself, is written by its code
point in hexadecimal, as in `\u{200b}`; every other character stands as it is. -/
def quoteDebug (s : String) : String :=
  let escape (c : Char) : String :=
    if c == '"' then "\\\"" else if c == '\\' then "\\\\"
    else if c == '\n' then "\\n" else if c == '\r' then "\\r" else if c == '\t' then "\\t"
    else if c == '\x00' then "\\0"
    else if Text.isGraphemeExtend c || !Text.isPrintable c then
      "\\u\x7b" ++ String.ofList (Nat.toDigits 16 c.toNat) ++ "\x7d"
    else c.toString
  "\"" ++ String.join (s.toList.map escape) ++ "\""

/-- A float as error texts show it: positional, with `.0` added to whole numbers. -/
def floatText (x : Float) : String :=
  let t := Decimal.positionalText x
  if x.isNaN ∨ x.isInf ∨ t.toList.contains '.' then t else t ++ ".0"

/-- The text of what was found. -/
def Found.text : Found → String
  | .integer i => "integer `" ++ toString i ++ "`"
  | .float x => "floating point `" ++ floatText x ++ "`"
  | .boolean b => "boolean `" ++ (if b then "true" else "false") ++ "`"
  | .string s => "string " ++ quoteDebug s
  | .sequence => "sequence"
  | .map => "map"

/-- What a TOML value counts as; dates and times count as maps. -/
def Found.of : Value → Found
  | .integer i => .integer i
  | .float x => .float x
  | .boolean b => .boolean b
  | .string s => .string s
  | .datetime _ => .map
  | .array _ => .sequence
  | .table _ => .map

/-- Why a TOML document is no configuration. -/
inductive DecodeError
  | invalidType (found : Found) (expected : Expected)
  | invalidValue (found : Found) (expected : Expected)
  | invalidLength (count : Nat) (expected : Expected)
  | missingField (name : String)

/-- The text of a decoding error. -/
def DecodeError.message : DecodeError → String
  | .invalidType f e => "invalid type: " ++ f.text ++ ", expected " ++ e.text
  | .invalidValue f e => "invalid value: " ++ f.text ++ ", expected " ++ e.text
  | .invalidLength n e =>
    let fields := match e with
      | .record _ k => " with " ++ toString k ++ " elements"
      | _ => ""
    "invalid length " ++ toString n ++ ", expected " ++ e.text ++ fields
  | .missingField name => "missing field `" ++ name ++ "`"

/-- Reads an unsigned integer of at most `bound`. -/
def unsigned (bound : Nat) (e : Expected) : Value → Except DecodeError Nat
  | .integer i => if 0 ≤ i ∧ i.toNat ≤ bound then .ok i.toNat else .error (.invalidValue (.integer i) e)
  | v => .error (.invalidType (Found.of v) e)

/-- Reads a 64-bit unsigned integer. -/
def readU64 : Value → Except DecodeError Nat := unsigned u64Max .u64

/-- Reads a pointer-sized unsigned integer (64 bits). -/
def readUsize : Value → Except DecodeError Nat := unsigned u64Max .usize

/-- Reads a 32-bit unsigned integer. -/
def readU32 : Value → Except DecodeError Nat := unsigned u32Max .u32

/-- Reads a float; integers are taken as floats. -/
def readF64 : Value → Except DecodeError Float
  | .float x => .ok x
  | .integer i => .ok (Float.ofInt i)
  | v => .error (.invalidType (Found.of v) .f64)

/-- Reads a path. -/
def readPath : Value → Except DecodeError String
  | .string s => .ok s
  | v => .error (.invalidType (Found.of v) .pathString)

/-- Reads the fields of a table in document order; `step` takes one field into the draft. -/
def readFields {α : Type} (step : String → Value → α → Except DecodeError α) (draft : α)
    (entries : List (String × Value)) : Except DecodeError α :=
  entries.foldlM (fun acc (k, v) => step k v acc) draft

/-- Reads the fields of a section given as an array, by position. -/
def readItems {α : Type} (steps : List (Value → α → Except DecodeError α)) (draft : α)
    (items : List Value) (e : Expected) : Except DecodeError α :=
  (steps.zipIdx).foldlM (fun acc (step, i) =>
    match items[i]? with
    | some v => step v acc
    | none => .error (.invalidLength i e)) draft

/-- A field that must be present. -/
def required {β : Type} (name : String) : Option β → Except DecodeError β
  | some b => .ok b
  | none => .error (.missingField name)

/-- Reads a section: a table, an array by position, or a date (a map of no fields). -/
def readSection {α : Type} (e : Expected) (fieldNames : List String)
    (step : String → Value → α → Except DecodeError α) (draft : α) : Value → Except DecodeError α
  | .table entries => readFields step draft entries
  | .array items => readItems (fieldNames.map step) draft items e
  | .datetime _ => .ok draft
  | v => .error (.invalidType (Found.of v) e)

/-! ## Timeouts -/

/-- The section of timeouts as its type is named in errors. -/
def timeoutsExpected : Expected := .record "TimeoutConfig" 3

/-- The timeout fields read so far. -/
abbrev TimeoutsDraft := Option Nat × Option Nat × Option Nat

/-- Takes one timeout field. -/
def timeoutsStep (k : String) (v : Value) (d : TimeoutsDraft) : Except DecodeError TimeoutsDraft :=
  let (p, c, f) := d
  if k = "probe_secs" then do pure (some (← readU64 v), c, f)
  else if k = "chunk_secs" then do pure (p, some (← readU64 v), f)
  else if k = "ftp_connect_secs" then do pure (p, c, some (← readU64 v))
  else pure d

/-- Reads the timeouts section. -/
def readTimeouts (v : Value) : Except DecodeError Timeouts := do
  let (p, c, f) ← readSection timeoutsExpected ["probe_secs", "chunk_secs", "ftp_connect_secs"]
    timeoutsStep (none, none, none) v
  pure ⟨← required "probe_secs" p, ← required "chunk_secs" c, ← required "ftp_connect_secs" f⟩

/-! ## Retry -/

/-- The retry section as its type is named in errors. -/
def retryExpected : Expected := .record "RetryConfig" 3

/-- The retry fields read so far. -/
abbrev RetryDraft := Option Nat × Option Float × Option Nat

/-- Takes one retry field. -/
def retryStep (k : String) (v : Value) (d : RetryDraft) : Except DecodeError RetryDraft :=
  let (a, b, m) := d
  if k = "max_attempts" then do pure (some (← readU32 v), b, m)
  else if k = "base_delay_secs" then do pure (a, some (← readF64 v), m)
  else if k = "max_delay_secs" then do pure (a, b, some (← readU64 v))
  else pure d

/-- Reads the retry section. -/
def readRetry (v : Value) : Except DecodeError Retry.Settings := do
  let (a, b, m) ← readSection retryExpected ["max_attempts", "base_delay_secs", "max_delay_secs"]
    retryStep (none, none, none) v
  pure ⟨← required "max_attempts" a, ← required "base_delay_secs" b,
    ← required "max_delay_secs" m⟩

/-! ## The whole configuration -/

/-- The configuration fields read so far. -/
structure Draft where
  projectsRoot : Option String := none
  defaultConcurrency : Option Nat := none
  minChunkBytes : Option Nat := none
  streamBufferBytes : Option Nat := none
  progressIntervalMs : Option Nat := none
  pollIntervalMs : Option Nat := none
  timeouts : Option Timeouts := none
  retry : Option Retry.Settings := none

/-- Takes one field of the configuration. -/
def draftStep (k : String) (v : Value) (d : Draft) : Except DecodeError Draft :=
  if k = "projects_root" then do pure { d with projectsRoot := some (← readPath v) }
  else if k = "default_concurrency" then do pure { d with defaultConcurrency := some (← readUsize v) }
  else if k = "min_chunk_bytes" then do pure { d with minChunkBytes := some (← readU64 v) }
  else if k = "stream_buffer_bytes" then do pure { d with streamBufferBytes := some (← readUsize v) }
  else if k = "progress_interval_ms" then do pure { d with progressIntervalMs := some (← readU64 v) }
  else if k = "poll_interval_ms" then do pure { d with pollIntervalMs := some (← readU64 v) }
  else if k = "timeouts" then do pure { d with timeouts := some (← readTimeouts v) }
  else if k = "retry" then do pure { d with retry := some (← readRetry v) }
  else pure d

/-- Reads a configuration from the root table of a TOML document. -/
def ofTable (entries : List (String × Value)) : Except DecodeError Config := do
  let d ← readFields draftStep {} entries
  pure { projectsRoot := ← required "projects_root" d.projectsRoot
         defaultConcurrency := ← required "default_concurrency" d.defaultConcurrency
         minChunkBytes := ← required "min_chunk_bytes" d.minChunkBytes
         streamBufferBytes := ← required "stream_buffer_bytes" d.streamBufferBytes
         progressIntervalMs := ← required "progress_interval_ms" d.progressIntervalMs
         pollIntervalMs := ← required "poll_interval_ms" d.pollIntervalMs
         timeouts := d.timeouts.getD Timeouts.default
         retry := d.retry }

/-- Why a text is no configuration: it is no TOML, or it does not fit. -/
inductive LoadError
  | malformed (e : Toml.SyntaxError)
  | decode (e : DecodeError)

/-- Reads a configuration from TOML text. -/
def ofToml (text : String) : Except LoadError Config :=
  match Toml.parse text with
  | .error e => .error (.malformed e)
  | .ok entries => (ofTable entries).mapError .decode

end DownloadEngine.Config
