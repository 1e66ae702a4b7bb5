import DownloadEngine.Url.Parse
import DownloadEngine.EngineError
import DownloadEngine.Transport
import DownloadEngine.Text.Unicode
import DownloadEngine.Text.Percent

/-!
# Download sources

A download source is an absolute address with scheme `http`, `https` or `ftp` and a host.
The address text is read with the blanks around it dropped; a refusal quotes the text as
given. FTP login comes from the address's user information, with the anonymous login where
it is missing.
-/

namespace DownloadEngine

/-- An address the engine can download from, with the transport that fetches it. -/
structure Source where
  address : Url.Record
  transport : Transport
  deriving DecidableEq, Repr

/-- The transport of a scheme the engine accepts. -/
def Transport.ofScheme? (scheme : String) : Option Transport :=
  if scheme = "http" ∨ scheme = "https" then some .http
  else if scheme = "ftp" then some .ftp
  else none

/-- Reads a download address: an address that reads, with an accepted scheme and a host. -/
def Source.parse (text : String) : Except EngineError Source :=
  match Url.parse (Text.trim text) with
  | .error e => .error (.invalidUrl (text ++ ": " ++ e.message))
  | .ok address =>
    match Transport.ofScheme? address.scheme with
    | none => .error (.unsupportedScheme address.scheme)
    | some transport =>
      match address.hostText? with
      | none => .error (.invalidUrl (text ++ ": missing host"))
      | some "" => .error (.invalidUrl (text ++ ": missing host"))
      | some _ => .ok ⟨address, transport⟩

/-- The user name of the anonymous FTP login. -/
def anonymousUser : String := "anonymous"

/-- The password of the anonymous FTP login. -/
def anonymousPassword : String := "anonymous@"

/-- The credentials an FTP transfer logs in with. -/
structure FtpLogin where
  username : String
  password : String
  deriving DecidableEq, Repr

/-- The address's user information, decoded, with the anonymous login for what is missing. -/
def FtpLogin.ofAddress (u : Url.Record) : FtpLogin :=
  { username := if u.username = "" then anonymousUser else Text.percentDecodeLossy u.username
    password := match u.password with
      | some p => Text.percentDecodeLossy p
      | none => anonymousPassword }

end DownloadEngine
