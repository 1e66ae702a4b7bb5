/-!
# Faults

A fault stops the engine outright instead of becoming an error value that callers handle:
an unsigned word leaves its range, a floating-point number of seconds has no duration, or a
thread is to be named with a NUL character, which no C string holds. Each fault carries the
one-line text that reports it.
-/

namespace DownloadEngine

/-- Why the engine stopped: word arithmetic left its range, seconds had no duration, or a
thread name held a NUL character. -/
inductive Fault where
  | addOverflow
  | subOverflow
  | mulOverflow
  | durationOutOfRange
  | durationNegative
  /-- A thread name's bytes, and where among them the first NUL stands. -/
  | threadNameNul (position : Nat) (bytes : List UInt8)
  deriving DecidableEq, Repr

/-- The text that reports a fault. -/
def Fault.message : Fault → String
  | .addOverflow => "attempt to add with overflow"
  | .subOverflow => "attempt to subtract with overflow"
  | .mulOverflow => "attempt to multiply with overflow"
  | .durationOutOfRange =>
    "cannot convert float seconds to Duration: value is either too big or NaN"
  | .durationNegative => "cannot convert float seconds to Duration: value is negative"
  | .threadNameNul position bytes =>
    "thread name may not contain interior null bytes: NulError(" ++ toString position ++ ", [" ++
      ", ".intercalate (bytes.map fun b => toString b.toNat) ++ "])"

end DownloadEngine
