import DownloadEngine.Duration

/-!
# Progress

Percent done is `downloaded * 100 / total` in doubles, clamped to `[0, 100]`, and zero when
the total is unknown. The time left is the missing bytes over the rate, unknown without a
total or a positive rate. A tracker turns sizes sampled at instants into a rate: a sample is
taken only when time has moved forward by at least the interval since the last baseline,
and each taken sample becomes the new baseline.

## Main statements

* `Tracker.sample_none_of_not_later`: no sample is taken unless time moved forward.
-/

namespace DownloadEngine

/-- Percent done, clamped to `[0, 100]`; zero for an unknown total. -/
def percentDone (downloaded total : Nat) : Float :=
  if total = 0 then 0 else
  let p := downloaded.toFloat * 100 / total.toFloat
  if p < 0 then 0 else if p > 100 then 100 else p

/-- Seconds left at `rate` bytes per second, when the total is known and the rate positive. -/
def secondsLeft (downloaded total : Nat) (rate : Float) : Option Float :=
  if total = 0 then none
  else if rate ≤ 0 then none
  else some ((total - downloaded).toFloat / rate)

/-- A measured rate and the time left at that rate. -/
structure Throughput where
  bytesPerSec : Float
  etaSecs : Option Float

/-- An instant, in nanoseconds from a fixed origin. -/
abbrev Instant := Nat

/-- The baseline of a rate measurement. -/
structure Tracker where
  interval : Duration
  lastTime : Instant
  lastSize : Nat

namespace Tracker

/-- A tracker whose baseline is `size` bytes at `now`. -/
def start (interval : Duration) (now : Instant) (size : Nat) : Tracker := ⟨interval, now, size⟩

/-- Samples `downloaded` bytes at `now`: a rate when time has moved forward by at least the
interval, and the tracker with its new baseline. -/
def sample (t : Tracker) (now : Instant) (downloaded total : Nat) : Option Throughput × Tracker :=
  let elapsed : Duration := ⟨now - t.lastTime⟩
  if elapsed.nanos = 0 ∨ elapsed.nanos < t.interval.nanos then (none, t) else
  let rate := (downloaded - t.lastSize).toFloat / elapsed.toSeconds
  (some ⟨rate, secondsLeft downloaded total rate⟩, ⟨t.interval, now, downloaded⟩)

/-- Moves the baseline to `size` bytes at `now`. -/
def rebase (t : Tracker) (now : Instant) (size : Nat) : Tracker := ⟨t.interval, now, size⟩

theorem sample_none_of_not_later (t : Tracker) (now : Instant) (downloaded total : Nat)
    (h : now ≤ t.lastTime) : (t.sample now downloaded total) = (none, t) := by
  simp [sample, Nat.sub_eq_zero_of_le h]

end Tracker

end DownloadEngine
