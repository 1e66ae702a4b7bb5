import DownloadEngine.EngineError

/-!
# How a transfer run ends

A run of a transfer ends completed, with the bytes on disk; paused or cancelled, by a stop
signal; or failed, with an engine error.
-/

namespace DownloadEngine.Transfer

/-- How a transfer run ended. -/
inductive Finish where
  | completed (bytes : Nat)
  | paused
  | cancelled
  | failed (e : EngineError)
  deriving DecidableEq, Repr

/-- The ending a stop signal asks for. -/
def Finish.ofSignal : Signal → Finish
  | .pause => .paused
  | .cancel => .cancelled

/-- The ending a run settles on once it reads the signal at its end: a raised signal wins over
a failure, and a cancel wins over a completion; a pause leaves a completion alone, and no
signal turns a pause back into work. -/
def Finish.under (outcome : Finish) (signal : Option Signal) : Finish :=
  match outcome, signal with
  | .failed _, some s => .ofSignal s
  | .completed _, some .cancel => .cancelled
  | o, _ => o

/-- A stop signal never asks for a completion. -/
theorem Finish.ofSignal_ne_completed (s : Signal) (bytes : Nat) :
    Finish.ofSignal s ≠ .completed bytes := by
  cases s <;> simp [Finish.ofSignal]

end DownloadEngine.Transfer
