/-!
# Task status

A task is preparing, downloading, paused, completed, failed (`error`) or cancelled. It moves
only along these edges: preparing to downloading or cancelled; downloading to paused,
completed, error or cancelled; paused to downloading or cancelled. Completed, error and
cancelled are terminal: no edge leaves them.

## Main statements

* `canTransitionTo_of_isTerminal`: nothing leaves a terminal status.
-/

namespace DownloadEngine

/-- Where a task is in its life. -/
inductive Status where
  | preparing
  | downloading
  | paused
  | completed
  | error
  | cancelled
  deriving DecidableEq, Repr

namespace Status

/-- Every status, in order. -/
def all : List Status := [.preparing, .downloading, .paused, .completed, .error, .cancelled]

/-- The lowercase name of a status. -/
def name : Status → String
  | .preparing => "preparing"
  | .downloading => "downloading"
  | .paused => "paused"
  | .completed => "completed"
  | .error => "error"
  | .cancelled => "cancelled"

/-- The status with a given lowercase name. -/
def ofName? (s : String) : Option Status := all.find? (·.name == s)

/-- Completed, error and cancelled end a task. -/
def isTerminal : Status → Bool
  | .completed | .error | .cancelled => true
  | _ => false

/-- The edges of the life of a task. -/
def canTransitionTo : Status → Status → Bool
  | .preparing, .downloading => true
  | .preparing, .cancelled => true
  | .downloading, .paused => true
  | .downloading, .completed => true
  | .downloading, .error => true
  | .downloading, .cancelled => true
  | .paused, .downloading => true
  | .paused, .cancelled => true
  | _, _ => false

theorem canTransitionTo_of_isTerminal {s : Status} (h : s.isTerminal = true) (t : Status) :
    s.canTransitionTo t = false := by
  cases s <;> cases t <;> simp_all [isTerminal, canTransitionTo]

theorem ofName?_name (s : Status) : ofName? s.name = some s := by
  cases s <;> rfl

end Status

end DownloadEngine
