import DownloadEngine.Transport
import DownloadEngine.Text.Json

/-!
# Probe results

Before a transfer the engine asks the server what it offers: whether byte ranges can be
requested, the length (zero when unknown), the content type and a suggested file name. A
failed probe gives the degraded result: no ranges, unknown length, no type, no name.
Parallel ranged chunks need HTTP, range support and a known length.
-/

namespace DownloadEngine

/-- What a probe learned about a resource. -/
structure ProbeInfo where
  supportsResume : Bool
  contentLength : Nat
  contentType : String
  filename : Option String
  deriving DecidableEq, Repr

namespace ProbeInfo

/-- The result of a failed probe. -/
def degraded : ProbeInfo := ⟨false, 0, "", none⟩

/-- Can the resource be fetched as parallel ranged chunks? -/
def allowsParallel (info : ProbeInfo) (t : Transport) : Bool :=
  t == .http && info.supportsResume && info.contentLength > 0

/-- The result as a JSON object. -/
def toJson (info : ProbeInfo) : JsonValue :=
  .obj [("supports_resume", .bool info.supportsResume),
    ("content_length", .nat info.contentLength), ("content_type", .str info.contentType),
    ("filename", JsonValue.ofOption .str info.filename)]

theorem allowsParallel_degraded (t : Transport) : degraded.allowsParallel t = false := by
  simp [allowsParallel, degraded]

end ProbeInfo

end DownloadEngine
