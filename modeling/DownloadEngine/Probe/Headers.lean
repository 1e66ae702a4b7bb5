import DownloadEngine.Probe.Info
import DownloadEngine.HeaderLine
import DownloadEngine.Filename.Disposition

/-!
# Probe results from response headers

The header lines of a HEAD request are read in order, and a status line starts the result
afresh, so after redirects only the last response counts. `Content-Length` gives the length
(zero unless it reads as a word), `Accept-Ranges` says whether ranges are served (when one of
its comma-separated units is `bytes`, in any case), `Content-Type` gives the type, and
`Content-Disposition` the suggested name. Blank lines and lines without a `:` are skipped.
-/

namespace DownloadEngine.ProbeInfo

open HeaderLine

/-- Whether an `Accept-Ranges` value offers byte ranges. -/
def offersBytes (value : String) : Bool :=
  (value.splitOn ",").any fun unit => (Text.trim unit).toLower == "bytes"

/-- Takes one header field into a probe result. -/
def takeField (info : ProbeInfo) (name value : String) : ProbeInfo :=
  if HeaderLine.names name "content-length" then
    { info with contentLength := (readUnsigned? u64Max value).getD 0 }
  else if HeaderLine.names name "accept-ranges" then
    { info with supportsResume := offersBytes value }
  else if HeaderLine.names name "content-type" then { info with contentType := value }
  else if HeaderLine.names name "content-disposition" then
    { info with filename := Filename.dispositionName? value }
  else info

/-- The probe result that header lines describe. -/
def ofHeaders (lines : List String) : ProbeInfo :=
  lines.foldl (fun info raw =>
    match classify raw with
    | .status _ => degraded
    | .field name value => info.takeField name value
    | .other => info) degraded

end DownloadEngine.ProbeInfo
