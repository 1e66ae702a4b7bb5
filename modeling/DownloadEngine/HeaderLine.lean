import DownloadEngine.Word
import DownloadEngine.Text.Unicode

/-!
# Header lines

A response arrives as lines. With blanks trimmed, a line that starts with `HTTP/` opens a new
response and carries its status code as its second blank-separated word; any other line
with a `:` is a field, its name before the first `:` and its value after it, both trimmed.
Field names are compared without ASCII case. Lengths and codes are unsigned decimal words:
an optional `+` and digits, within the word's range.
-/

namespace DownloadEngine.HeaderLine

/-- The value of an unsigned decimal text of at most `bound`: an optional `+`, then one or
more ASCII digits. -/
def readUnsigned? (bound : Nat) (s : String) : Option Nat :=
  let digits := match s.toList with
    | '+' :: rest => rest
    | cs => cs
  if digits.isEmpty ∨ !digits.all Char.isDigit then none else
  let value := digits.foldl (fun acc c => acc * 10 + (c.toNat - '0'.toNat)) 0
  if value ≤ bound then some value else none

/-- What a header line is. -/
inductive Line where
  /-- The first line of a response, with its status code if it reads. -/
  | status (code : Option Nat)
  /-- A field: its trimmed name and value. -/
  | field (name value : String)
  /-- A blank line, or one that is neither. -/
  | other
  deriving DecidableEq, Repr

/-- Reads one header line. -/
def classify (raw : String) : Line :=
  let line := Text.trim raw
  if line.startsWith "HTTP/" then .status ((Text.words line)[1]? >>= readUnsigned? u32Max)
  else match line.toList.span (· != ':') with
    | (name, _ :: value) =>
      .field (Text.trim (String.ofList name)) (Text.trim (String.ofList value))
    | (_, []) => .other

/-- Whether a field name is `wanted`, ignoring ASCII case; `wanted` is in lowercase. -/
def names (name wanted : String) : Bool := name.toLower == wanted

/-- Reads one header line into the status code and `Content-Length` so far: a status line
starts a new response, which forgets the length of the one before. -/
def absorb (response : Option Nat × Option Nat) (raw : String) : Option Nat × Option Nat :=
  match classify raw with
  | .status code => (code, none)
  | .field name value =>
    if names name "content-length" then (response.1, readUnsigned? u64Max value) else response
  | .other => response

/-- The status code and `Content-Length` of the last response among the lines. -/
def lastResponse (lines : List String) : Option Nat × Option Nat :=
  lines.foldl absorb (none, none)

end DownloadEngine.HeaderLine
