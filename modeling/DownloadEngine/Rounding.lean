/-!
# Rounding a quotient

A quotient of natural numbers rounded to the nearest whole number, a tie going to the even
one: the rounding of exact binary values to decimal places and to whole nanoseconds.

## Main statements

* `roundHalfEven_mul`: a whole multiple of the divisor rounds to its exact quotient.
-/

namespace DownloadEngine

/-- Rounds `num / den` to the nearest natural number, a tie going to the even one. -/
def roundHalfEven (num den : Nat) : Nat :=
  let q := num / den
  let r := num % den
  if 2 * r > den ∨ (2 * r = den ∧ q % 2 = 1) then q + 1 else q

theorem roundHalfEven_mul (q den : Nat) (h : 0 < den) : roundHalfEven (q * den) den = q := by
  simp only [roundHalfEven, Nat.mul_div_cancel q h, Nat.mul_mod_left]
  split <;> omega

end DownloadEngine
