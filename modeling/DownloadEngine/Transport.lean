/-!
# Transports

A download travels over HTTP (for `http` and `https` addresses) or FTP.
-/

namespace DownloadEngine

/-- The protocol family that moves a download's bytes. -/
inductive Transport where
  | http
  | ftp
  deriving DecidableEq, Repr

/-- The lowercase name of a transport. -/
def Transport.name : Transport → String
  | .http => "http"
  | .ftp => "ftp"

end DownloadEngine
