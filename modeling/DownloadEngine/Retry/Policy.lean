import DownloadEngine.Duration
import DownloadEngine.Retry.Kind

/-!
# Retry policies

A policy bounds the attempts and the backoff. Attempt `n` that failed in a retryable way is
followed, after `min(max_delay, base_delay * 2^min(n - 1, 8))`, by attempt `n + 1`, unless
`n` has reached the attempt limit. The product saturates at the longest duration.

## Main statements

* `decide_noRetry_of_le`: at the attempt limit there is no retry.
* `decide_delay_le`: a backoff never exceeds the policy's maximum delay.
-/

namespace DownloadEngine.Retry

/-- Attempt limit and backoff bounds. -/
structure Policy where
  maxAttempts : Nat
  baseDelay : Duration
  maxDelay : Duration
  deriving DecidableEq, Repr

/-- What to do after a failed attempt. -/
inductive Decision where
  | noRetry
  | retryAfter (d : Duration)
  deriving DecidableEq, Repr

/-- Retry settings as a configuration file gives them. -/
structure Settings where
  maxAttempts : Nat
  baseDelaySecs : Float
  maxDelaySecs : Nat

namespace Policy

/-- Three attempts, one second base delay, thirty seconds at most. -/
def default : Policy := ⟨3, Duration.ofSecs 1, Duration.ofSecs 30⟩

/-- Zero for NaN and negative numbers, else the number itself. -/
def nonNegative (x : Float) : Float := if x.isNaN then 0 else if x < 0 then 0 else x

/-- The policy of a configuration: at least one attempt, the base delay rounded to whole
nanoseconds. A base delay without a duration is a fault. -/
def ofSettings (s : Settings) : Except Fault Policy := do
  let base ← Duration.ofSeconds (nonNegative s.baseDelaySecs)
  pure ⟨max s.maxAttempts 1, base, Duration.ofSecs s.maxDelaySecs⟩

/-- The backoff factor after attempt `n`: `2^min(n - 1, 8)`. -/
def factor (attempt : Nat) : Nat := Nat.pow 2 (min (attempt - 1) 8)

/-- The delay before the attempt after `attempt`. -/
def delay (p : Policy) (attempt : Nat) : Duration :=
  (p.baseDelay.satMul (factor attempt)).min p.maxDelay

/-- Whether and when to try again after attempt `attempt` failed with `kind`. -/
def decide (p : Policy) (attempt : Nat) (kind : Kind) : Decision :=
  if attempt ≥ p.maxAttempts then .noRetry
  else if kind.retryable then .retryAfter (p.delay attempt)
  else .noRetry

theorem decide_noRetry_of_le (p : Policy) (attempt : Nat) (kind : Kind)
    (h : p.maxAttempts ≤ attempt) : p.decide attempt kind = .noRetry := by
  simp [decide, h]

theorem decide_delay_le (p : Policy) (attempt : Nat) (kind : Kind) (d : Duration)
    (h : p.decide attempt kind = .retryAfter d) : d.nanos ≤ p.maxDelay.nanos := by
  unfold decide at h
  split at h
  · cases h
  · split at h
    · cases h
      exact Duration.min_le_right _ _
    · cases h

end Policy

end DownloadEngine.Retry
