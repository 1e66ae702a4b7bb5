import DownloadEngine.Source

/-!
# Networks

The engine reaches servers only through a network, which it hands requests and which hands
back replies. A network is a state machine: each exchange may change what the servers
behind it remember (a count of requests, a log). An exchange either breaks off before any
response, with the transfer library's error code, or gives a reply: the status and header
lines of every response on the way (redirects included), the body, and the code of an error
that cut the body short, if one did.

`Network.refusing` is the network on which nothing listens: every exchange is refused with
code 7, as a closed port refuses a connection, and no server logs anything.
-/

namespace DownloadEngine

/-- What a request asks for: the headers only, or the body as well. -/
inductive Method where
  | head
  | get
  deriving DecidableEq, Repr

/-- The name of a method as it goes on the wire. -/
def Method.name : Method → String
  | .head => "HEAD"
  | .get => "GET"

/-- A byte range asked for: from `first` to `last` inclusive, or to the end. -/
structure ByteRange where
  first : Nat
  last : Option Nat
  deriving DecidableEq, Repr

/-- The text of a range in a `Range` header: `bytes=first-last` or `bytes=first-`. -/
def ByteRange.text (r : ByteRange) : String :=
  "bytes=" ++ toString r.first ++ "-" ++ (r.last.map toString).getD ""

/-- A request the engine sends. -/
structure Request where
  method : Method
  url : String
  range : Option ByteRange
  /-- The credentials of an FTP request. -/
  login : Option FtpLogin
  deriving DecidableEq, Repr

/-- What came back for a request. -/
structure Reply where
  /-- The status of the last response; zero where the protocol has none. -/
  status : Nat
  /-- The header lines of every response in order, status lines included. -/
  headers : List String
  body : List UInt8
  /-- The transfer library's error code, when an error cut the body short. -/
  cut : Option Nat
  deriving DecidableEq, Repr

/-- A network: how an exchange goes and changes the state of the servers behind it, and the
requests those servers have seen. -/
structure Network (σ : Type) where
  exchange : σ → Request → σ × Except Nat Reply
  served : σ → List Request

/-- The transfer library's code for a refused connection. -/
def connectRefused : Nat := 7

/-- The network on which nothing listens. -/
def Network.refusing : Network Unit where
  exchange s _ := (s, .error connectRefused)
  served _ := []

theorem Network.refusing_exchange (s : Unit) (r : Request) :
    Network.refusing.exchange s r = (s, .error connectRefused) := rfl

end DownloadEngine
