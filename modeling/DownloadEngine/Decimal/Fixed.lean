import DownloadEngine.Decimal.Shortest
import DownloadEngine.Rounding

/-!
# Fixed-place decimal form of a double

A double written with a fixed number of places after the point is the exact value scaled
by a power of ten and rounded to the nearest whole number, a tie going to the even one. The
sign stays, also when the value rounds to zero, and a double without digits is written
`NaN`, `inf` or `-inf`.
-/

namespace DownloadEngine.Decimal

/-- The magnitude of a positive double times `10^places`, rounded to a whole number. -/
def scaled (b : Binary) (places : Nat) : Nat :=
  if b.exponent ≥ 0 then b.mantissa * Nat.pow 2 b.exponent.toNat * Nat.pow 10 places
  else roundHalfEven (b.mantissa * Nat.pow 10 places) (Nat.pow 2 (-b.exponent).toNat)

/-- A whole number `n` read as `n / 10^places`, written with exactly `places` digits after
the point and at least one before it. -/
def withPoint (n places : Nat) : String :=
  let ds := Nat.toDigits 10 n
  let ds := List.replicate (places + 1 - ds.length) '0' ++ ds
  if places = 0 then String.ofList ds
  else String.ofList (ds.take (ds.length - places)) ++ "." ++ String.ofList (ds.drop (ds.length - places))

/-- The text of a double with `places` digits after the point. -/
def fixedText (x : Float) (places : Nat) : String :=
  match classify x with
  | .nan => "NaN"
  | .infinite neg => if neg then "-inf" else "inf"
  | .zero neg => (if neg then "-" else "") ++ withPoint 0 places
  | .finite b => (if b.negative then "-" else "") ++ withPoint (scaled b places) places

end DownloadEngine.Decimal
