import DownloadEngine.World
import DownloadEngine.Word
import DownloadEngine.HeaderLine
import DownloadEngine.Retry.Failure

/-!
# Writing a response body

A sink appends a response body to a file, piece by piece as it arrives. Before each piece it
checks, in order: that no stop signal is raised; that the status is acceptable (none yet, or
`206`, or `200` unless a range past zero was asked for, since then a `200` means the range
was ignored); that the piece stays within the byte limit; and that the file takes it. The
first check that fails refuses the piece, which breaks off the exchange, and the sink keeps
the reason. A device that gives out part way through a piece leaves the bytes it took in the
file. When a sink reports progress, each written piece reports the bytes on disk and the
total: the total known before, else the response's length (past the bytes already on disk
for a `206`), else zero.

Counts are unsigned 64-bit words. The sum of the bytes written and a piece, in the limit
check and when the piece is counted, and the sums a report makes, fault when they leave the
word's range; a fault stops the sink at once, after the file took the piece when it comes
after the write, and the exchange breaks off with it.

The transfer library drives a sink by callbacks: each header line of every response on the
way, each piece of the body, and progress ticks in between; a piece and a tick come with the
stop signal raised at that moment, and a piece with what the device does with it. The status and length are those of the last response among
the header lines so far. A tick under a raised signal breaks the exchange off as well. Once a
piece is refused, the exchange is over and later callbacks change nothing.
-/

namespace DownloadEngine.Transfer

/-- Why a sink refused a piece of the body, or stopped at it. -/
inductive Refusal where
  | stopped (s : Signal)
  | storage (e : IoError)
  | status (code : Nat)
  | resumeIgnored
  | overrun
  /-- A count left the word's range: the engine stops. -/
  | fault (f : Fault)
  deriving DecidableEq, Repr

/-- Where and how a body is written. -/
structure Sink where
  path : String
  /-- Bytes on disk before this request. -/
  base : Nat
  /-- The most bytes this response may deliver. -/
  limit : Option Nat
  /-- A range starting past zero was asked for, so a `200` means it was ignored. -/
  expectPartial : Bool
  /-- When progress is reported: the total known before the request, zero if unknown. -/
  reporting : Option Nat
  deriving DecidableEq, Repr

/-- What a sink made of a reply. -/
structure Intake where
  status : Option Nat
  contentLength : Option Nat
  written : Nat
  refusal : Option Refusal
  deriving DecidableEq, Repr

/-- A call the transfer library makes on a sink while a reply comes in: a header line, a piece
of the body, or a progress tick, the last two with the stop signal raised at that moment. A
piece comes with what the device does with it: `short = some (n, e)` when it gives out with
`e` after the first `n` bytes. -/
inductive Callback where
  | header (line : String)
  | write (signal : Option Signal) (piece : List UInt8) (short : Option (Nat × IoError))
  | progress (signal : Option Signal)
  deriving DecidableEq, Repr

/-- Before the first callback: no status, no length, nothing written, nothing refused. -/
def Intake.fresh : Intake := ⟨none, none, 0, none⟩

/-- The transfer library's code for a write callback that refused data. -/
def writeError : Nat := 23

/-- Splits a body into pieces of `size` bytes, the last one shorter; `fuel` bounds the
number of pieces. -/
def piecesOf (size : Nat) : Nat → List UInt8 → List (List UInt8)
  | 0, _ => []
  | _, [] => []
  | fuel + 1, body => body.take size :: piecesOf size fuel (body.drop size)

/-- The pieces a body arrives in, at most `size` bytes each. -/
def pieces (size : Nat) (body : List UInt8) : List (List UInt8) :=
  piecesOf (max size 1) body.length body

namespace Sink

/-- The total a progress report gives. -/
def total (k : Sink) (known : Nat) (status contentLength : Option Nat) : Except Fault Nat :=
  if known > 0 then .ok known else
  match status, contentLength with
  | some 206, some len => addWord k.base len
  | _, some len => .ok len
  | _, none => .ok 0

/-- Whether a piece of `len` bytes, after `written`, would pass the limit, if there is one. -/
def overruns (k : Sink) (written len : Nat) : Except Fault Bool :=
  match k.limit with
  | none => .ok false
  | some limit => (addWord written len).map fun n => decide (n > limit)

/-- The reports a sink makes once its count is `i.written`: none when it does not report, else
the bytes on disk and the total. -/
def reportOf (k : Sink) (i : Intake) : Except Fault (List (Nat × Nat)) :=
  match k.reporting with
  | none => .ok []
  | some known => do
    let done ← addWord k.base i.written
    let total ← k.total known i.status i.contentLength
    pure [(done, total)]

/-- The refusal a status calls for, if any. -/
def checkStatus (k : Sink) : Option Nat → Option Refusal
  | none => none
  | some code =>
    if code = 206 then none
    else if code = 200 then (if k.expectPartial then some .resumeIgnored else none)
    else some (.status code)

/-- Takes one piece of the body, unless an earlier piece was refused. -/
def takePiece {σ : Type} (k : Sink) (signal : Option Signal) (short : Option (Nat × IoError))
    (acc : World σ × Intake) (piece : List UInt8) : World σ × Intake :=
  let (w, intake) := acc
  let refuse (r : Refusal) := (w, { intake with refusal := some r })
  if intake.refusal.isSome then acc else
  match signal with
  | some s => refuse (.stopped s)
  | none =>
  match k.checkStatus intake.status with
  | some r => refuse r
  | none =>
  match k.overruns intake.written piece.length with
  | .error f => refuse (.fault f)
  | .ok true => refuse .overrun
  | .ok false =>
  -- from here on the file holds what the device took of the piece
  let (files, error) := w.files.appendCut k.path piece short
  let w := { w with files }
  match error with
  | some e => (w, { intake with refusal := some (.storage e) })
  | none =>
  match addWord intake.written piece.length with
  | .error f => (w, { intake with refusal := some (.fault f) })
  | .ok written =>
  let intake := { intake with written }
  match k.reportOf intake with
  | .ok reports => ({ w with reports := w.reports ++ reports }, intake)
  | .error f => (w, { intake with refusal := some (.fault f) })

/-- Takes a header line, unless a piece was refused: the status and length become those of
the last response so far. -/
def header {σ : Type} (acc : World σ × Intake) (line : String) : World σ × Intake :=
  let (w, intake) := acc
  if intake.refusal.isSome then acc else
  let (status, contentLength) := HeaderLine.absorb (intake.status, intake.contentLength) line
  (w, { intake with status, contentLength })

/-- Takes a progress tick, unless a piece was refused: a raised stop signal breaks the
exchange off. -/
def tick {σ : Type} (signal : Option Signal) (acc : World σ × Intake) : World σ × Intake :=
  let (w, intake) := acc
  if intake.refusal.isSome then acc else
  match signal with
  | some s => (w, { intake with refusal := some (.stopped s) })
  | none => acc

/-- Takes one callback. -/
def feed {σ : Type} (k : Sink) (acc : World σ × Intake) : Callback → World σ × Intake
  | .header line => header acc line
  | .write signal piece short => k.takePiece signal short acc piece
  | .progress signal => tick signal acc

/-- Takes callbacks in turn, from a fresh intake. -/
def run {σ : Type} (k : Sink) (callbacks : List Callback) (w : World σ) : World σ × Intake :=
  callbacks.foldl k.feed (w, Intake.fresh)

/-- The callbacks of a reply: its header lines, then its body in pieces of `pieceSize` bytes,
all under one signal, on a device that takes every piece. -/
def callbacks (signal : Option Signal) (pieceSize : Nat) (reply : Reply) : List Callback :=
  reply.headers.map .header ++ (pieces pieceSize reply.body).map fun piece => .write signal piece none

/-- Writes a reply through the sink. -/
def take {σ : Type} (k : Sink) (signal : Option Signal) (pieceSize : Nat) (reply : Reply)
    (w : World σ) : World σ × Intake :=
  k.run (callbacks signal pieceSize reply) w

theorem foldl_header {σ : Type} (k : Sink) (lines : List String) (w : World σ) (intake : Intake)
    (h : intake.refusal = none) :
    (lines.map Callback.header).foldl k.feed (w, intake) =
      (w, { intake with status := (lines.foldl HeaderLine.absorb (intake.status, intake.contentLength)).1
                        contentLength :=
                          (lines.foldl HeaderLine.absorb (intake.status, intake.contentLength)).2 }) := by
  induction lines generalizing intake with
  | nil => rfl
  | cons line rest ih =>
    have hstep : k.feed (w, intake) (.header line) =
        (w, { intake with status := (HeaderLine.absorb (intake.status, intake.contentLength) line).1
                          contentLength :=
                            (HeaderLine.absorb (intake.status, intake.contentLength) line).2 }) := by
      simp only [feed, header, h, Option.isSome_none, Bool.false_eq_true, if_false]
    rw [List.map_cons, List.foldl_cons, hstep, ih _ (by exact h), List.foldl_cons, Prod.eta]

/-- A reply's header lines give the sink the last response's status and length; its body then
goes through piece by piece. -/
theorem take_eq {σ : Type} (k : Sink) (signal : Option Signal) (pieceSize : Nat) (reply : Reply)
    (w : World σ) :
    k.take signal pieceSize reply w =
      (pieces pieceSize reply.body).foldl (k.takePiece signal none)
        (w, ⟨(HeaderLine.lastResponse reply.headers).1, (HeaderLine.lastResponse reply.headers).2,
          0, none⟩) := by
  have hwrite : (fun (acc : World σ × Intake) piece => k.feed acc (Callback.write signal piece none)) =
      k.takePiece signal none := rfl
  have hfresh : ({ Intake.fresh with
      status := (reply.headers.foldl HeaderLine.absorb (none, none)).1
      contentLength := (reply.headers.foldl HeaderLine.absorb (none, none)).2 } : Intake) =
      ⟨(HeaderLine.lastResponse reply.headers).1, (HeaderLine.lastResponse reply.headers).2, 0,
        none⟩ := rfl
  rw [take, run, callbacks, List.foldl_append, foldl_header k _ w Intake.fresh rfl, List.foldl_map,
    hwrite]
  exact congrArg (fun i => (pieces pieceSize reply.body).foldl (k.takePiece signal none) (w, i)) hfresh

end Sink

namespace Intake

/-- The library code an exchange broke off with, if it did: the write error when the sink
refused a piece, else the code that cut the body short. -/
def breakCode (i : Intake) (cut : Option Nat) : Option Nat :=
  if i.refusal.isSome then some writeError else cut

/-- The failure of an exchange that broke off with `code`: the reason the sink kept, or else
the library's code. A fault is passed on with its text as a protocol failure; the engine's
run is not followed past it. -/
def failure (i : Intake) (code : Nat) : TransferFailure :=
  match i.refusal with
  | some (.stopped s) => .interrupted s
  | some (.storage e) => .storage e
  | some (.status c) => .http c
  | some .resumeIgnored => .resumeRejected
  | some .overrun => .protocol "response body is longer than the requested range"
  | some (.fault f) => .protocol f.message
  | none => .library code

end Intake

end DownloadEngine.Transfer
