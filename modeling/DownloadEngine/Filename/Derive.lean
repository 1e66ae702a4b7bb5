import DownloadEngine.Url.Parse
import DownloadEngine.Filename.Sanitize
import DownloadEngine.Text.Percent
import DownloadEngine.Text.Unicode

/-!
# Choosing a local file name

A download is saved under a caller's hint when it is not blank, else under the last
non-empty segment of its address's path, percent-decoded; the choice is then sanitised. A
name that comes out empty or without a `.` is replaced by `download_` and the Unix time in
seconds.
-/

namespace DownloadEngine.Filename

/-- The last non-empty path segment of an address, decoded; none for `.` and `..`. -/
def ofUrlPath? (url : String) : Option String :=
  match Url.parse url with
  | .error _ => none
  | .ok address => do
    let segments ← address.pathSegments?
    let last ← (segments.filter (· ≠ "")).getLast?
    let decoded := Text.percentDecodeLossy last
    if decoded = "" ∨ decoded = "." ∨ decoded = ".." then none else some decoded

/-- The sanitised name for a download, or none when only the time-based name will do. -/
def derive? (url : String) (hint : Option String) : Option String :=
  let raw := match hint with
    | some h => if Text.isBlank h then ofUrlPath? url else some h
    | none => ofUrlPath? url
  let name := (raw.map sanitize).getD ""
  if name = "" ∨ !name.toList.contains '.' then none else some name

/-- The time-based name, for a number of seconds since the Unix epoch. -/
def fallback (secs : Nat) : String := "download_" ++ toString secs

/-- The name a download is saved under, at `secs` seconds since the Unix epoch. -/
def derive (url : String) (hint : Option String) (secs : Nat) : String :=
  (derive? url hint).getD (fallback secs)

end DownloadEngine.Filename
