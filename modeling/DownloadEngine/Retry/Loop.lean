import DownloadEngine.Retry.Failure
import DownloadEngine.Retry.Policy

/-!
# The attempt loop

Attempts are numbered from one. The loop stops at the first success, at an interruption, at
a failure the policy does not retry, or when a stop signal is seen while backing off after a
failure; otherwise it makes the next attempt. `result k` is what attempt `k` gives and
`stopAt k` the signal, if any, seen while backing off after attempt `k`. `runOn` is the
same loop over a state that each attempt may change, such as the files it writes.

## Main statements

* `Outcome.attempts_le`: the last attempt's number is bounded by the attempt limit.
-/

namespace DownloadEngine.Retry

/-- How the loop ended and how many attempts it made. -/
structure Outcome (α : Type) where
  result : Except TransferFailure α
  attempts : Nat

/-- The loop from attempt `attempt` on, with at most `fuel` attempts left. -/
def runFrom {α : Type} (p : Policy) (stopAt : Nat → Option Signal)
    (result : Nat → Except TransferFailure α) (attempt : Nat) : Nat → Outcome α
  | 0 => ⟨result attempt, attempt⟩
  | fuel + 1 =>
    match result attempt with
    | .ok v => ⟨.ok v, attempt⟩
    | .error (.interrupted s) => ⟨.error (.interrupted s), attempt⟩
    | .error e =>
      match p.decide attempt e.kind with
      | .noRetry => ⟨.error e, attempt⟩
      | .retryAfter _ =>
        match stopAt attempt with
        | some s => ⟨.error (.interrupted s), attempt⟩
        | none => runFrom p stopAt result (attempt + 1) fuel

/-- The loop from attempt one. -/
def run {α : Type} (p : Policy) (stopAt : Nat → Option Signal)
    (result : Nat → Except TransferFailure α) : Outcome α :=
  runFrom p stopAt result 1 p.maxAttempts

/-- The loop over a state that every attempt may change, from attempt `attempt` on, with at
most `fuel` attempts left. -/
def runOnFrom {σ α : Type} (p : Policy) (stopAt : Nat → Option Signal)
    (step : Nat → σ → σ × Except TransferFailure α) (attempt : Nat) (s : σ) :
    Nat → σ × Outcome α
  | 0 => let (s, r) := step attempt s; (s, ⟨r, attempt⟩)
  | fuel + 1 =>
    match step attempt s with
    | (s, .ok v) => (s, ⟨.ok v, attempt⟩)
    | (s, .error (.interrupted sig)) => (s, ⟨.error (.interrupted sig), attempt⟩)
    | (s, .error e) =>
      match p.decide attempt e.kind with
      | .noRetry => (s, ⟨.error e, attempt⟩)
      | .retryAfter _ =>
        match stopAt attempt with
        | some sig => (s, ⟨.error (.interrupted sig), attempt⟩)
        | none => runOnFrom p stopAt step (attempt + 1) s fuel

/-- The loop over a state from attempt one. -/
def runOn {σ α : Type} (p : Policy) (stopAt : Nat → Option Signal)
    (step : Nat → σ → σ × Except TransferFailure α) (s : σ) : σ × Outcome α :=
  runOnFrom p stopAt step 1 s p.maxAttempts

theorem runFrom_attempts_le {α : Type} (p : Policy) (stopAt : Nat → Option Signal)
    (result : Nat → Except TransferFailure α) (attempt fuel : Nat) :
    (runFrom p stopAt result attempt fuel).attempts ≤ attempt + fuel := by
  induction fuel generalizing attempt with
  | zero => simp [runFrom]
  | succ fuel ih =>
    unfold runFrom
    split
    · simp
    · simp
    · split
      · simp
      · split
        · simp
        · have := ih (attempt + 1)
          omega

theorem Outcome.attempts_le {α : Type} (p : Policy) (stopAt : Nat → Option Signal)
    (result : Nat → Except TransferFailure α) :
    (run p stopAt result).attempts ≤ max 1 p.maxAttempts + 1 := by
  have := runFrom_attempts_le p stopAt result 1 p.maxAttempts
  simp only [run]
  omega

end DownloadEngine.Retry
