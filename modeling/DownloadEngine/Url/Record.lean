import DownloadEngine.Url.Host

/-!
# Addresses

An absolute address is a scheme, an optional authority (user information, host, port), a
path, and optional query and fragment texts; every part is held as it is written, escapes
included. The schemes `http`, `https`, `ws`, `wss` and `ftp` are special, with known default
ports; `file` is special too but has no port. The text of an address puts the parts back
together; an address without authority whose path begins with an empty segment is written
with `/.` before the path, so that it is not read back as an authority.
-/

namespace DownloadEngine.Url

/-- How the scheme shapes the rest of the address. -/
inductive SchemeKind
  | file
  | special
  | other
  deriving DecidableEq, Repr

/-- The kind of a (lower-case) scheme. -/
def SchemeKind.of (scheme : String) : SchemeKind :=
  if scheme = "file" then .file
  else if scheme ∈ ["http", "https", "ws", "wss", "ftp"] then .special
  else .other

/-- Whether the scheme is special, `file` included. -/
def SchemeKind.isSpecial : SchemeKind → Bool
  | .other => false
  | _ => true

/-- The port a scheme uses when none is written. -/
def defaultPort (scheme : String) : Option Nat :=
  if scheme = "http" ∨ scheme = "ws" then some 80
  else if scheme = "https" ∨ scheme = "wss" then some 443
  else if scheme = "ftp" then some 21
  else none

/-- The path of an address: one opaque text, or segments each written after a `/`. -/
inductive Path
  | unsegmented (text : String)
  | segments (items : List String)
  deriving DecidableEq, Repr

/-- The text of a path. -/
def Path.text : Path → String
  | .unsegmented text => text
  | .segments items => String.join (items.map ("/" ++ ·))

/-- The authority of an address; an empty host is `none`. -/
structure Authority where
  username : String
  password : Option String
  host : Option Host
  port : Option Nat
  deriving DecidableEq, Repr

/-- The user information as written before `@`, if there is any. -/
def Authority.userinfo (a : Authority) : String :=
  if a.username = "" ∧ a.password.isNone then ""
  else a.username ++ (match a.password with
    | some p => ":" ++ p
    | none => "") ++ "@"

/-- The text of an authority, after `//`. -/
def Authority.text (a : Authority) : String :=
  a.userinfo ++ (match a.host with
    | some h => h.text
    | none => "") ++ (match a.port with
    | some p => ":" ++ toString p
    | none => "")

/-- An absolute address. -/
structure Record where
  scheme : String
  authority : Option Authority
  path : Path
  query : Option String
  fragment : Option String
  deriving DecidableEq, Repr

namespace Record

/-- Whether the path would read back as an authority without a `/.` before it. -/
def needsDotPrefix (u : Record) : Bool :=
  u.authority.isNone &&
    match u.path with
    | .segments ("" :: _ :: _) => true
    | _ => false

/-- The text of the address. -/
def text (u : Record) : String :=
  u.scheme ++ ":" ++
    (match u.authority with
     | some a => "//" ++ a.text
     | none => if u.needsDotPrefix then "/." else "") ++
    u.path.text ++
    (match u.query with
     | some q => "?" ++ q
     | none => "") ++
    (match u.fragment with
     | some f => "#" ++ f
     | none => "")

/-- The host's text, if there is a non-empty host. -/
def hostText? (u : Record) : Option String :=
  (u.authority.bind (·.host)).map Host.text

/-- The port written in the address (never the scheme's default). -/
def port? (u : Record) : Option Nat := u.authority.bind (·.port)

/-- The written port, else the scheme's default one. -/
def portOrDefault (u : Record) : Option Nat := u.port?.orElse fun _ => defaultPort u.scheme

/-- The user name as written, escapes included. -/
def username (u : Record) : String := (u.authority.map (·.username)).getD ""

/-- The password as written, escapes included. -/
def password (u : Record) : Option String := u.authority.bind (·.password)

/-- The path's text. -/
def pathText (u : Record) : String := u.path.text

/-- The path's segments, unless the path is opaque or empty. -/
def pathSegments? (u : Record) : Option (List String) :=
  match u.path with
  | .segments [] => none
  | .segments items => some items
  | .unsegmented _ => none

end Record

end DownloadEngine.Url
