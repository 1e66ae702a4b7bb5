import DownloadEngine.Probe.Headers
import DownloadEngine.Network
import DownloadEngine.Filename.Derive

/-!
# Asking a server before a transfer

An HTTP probe sends a HEAD request and reads the headers of the last response; a status
outside `200..299` is a protocol error, and a result without a suggested name takes the last
segment of the address's path. An FTP probe logs in and asks for the size: FTP always serves
byte ranges, has no content type, and names the file by its path. A refused or broken
exchange is a transfer error.

`ProbeInfo.query` reports these errors; `ProbeInfo.ask` swallows them into the degraded
result, so that a failed probe never fails a download.
-/

namespace DownloadEngine.ProbeInfo

/-- The HEAD request of a probe. -/
def headRequest (source : Source) : Request :=
  { method := .head, url := source.address.text, range := none,
    login := if source.transport = .ftp then some (FtpLogin.ofAddress source.address) else none }

/-- The probe result of a reply, for an address of a transport. -/
def ofReply (t : Transport) (url : String) (reply : Reply) : Except EngineError ProbeInfo :=
  match reply.cut with
  | some code => .error (.transfer (.library code))
  | none =>
    match t with
    | .http =>
      if 200 ≤ reply.status ∧ reply.status < 300 then
        let info := ofHeaders reply.headers
        .ok { info with filename := info.filename <|> Filename.ofUrlPath? url }
      else .error (.protocol ("HEAD returned HTTP " ++ toString reply.status))
    | .ftp =>
      .ok { supportsResume := true, contentLength := ((HeaderLine.lastResponse reply.headers).2).getD 0,
            contentType := "", filename := Filename.ofUrlPath? url }

/-- Probes an address, reporting why a probe fails. -/
def query {σ : Type} (net : Network σ) (s : σ) (url : String) : σ × Except EngineError ProbeInfo :=
  match Source.parse url with
  | .error e => (s, .error e)
  | .ok source =>
    let request := headRequest source
    match net.exchange s request with
    | (s, .error code) => (s, .error (.transfer (.library code)))
    | (s, .ok reply) => (s, ofReply source.transport request.url reply)

/-- Probes an address; a failed probe gives the degraded result. -/
def ask {σ : Type} (net : Network σ) (s : σ) (url : String) : σ × ProbeInfo :=
  let (s, result) := query net s url
  (s, match result with
    | .ok info => info
    | .error _ => degraded)

end DownloadEngine.ProbeInfo
