import Mathlib
import DownloadEngine.Progress

/-!
# Binary64 magnitudes

Rates and times left are doubles: a count of bytes over a number of seconds. Lean's `Float`
is, in the logic, binary64 as 64 bits (`Float.Model`): every operation unpacks its arguments
into a sign, a mantissa and an exponent, computes, rounds to nearest with ties to even, and
packs the result back. This module reads that model through the binary magnitude of a finite
value, `totalExponent m e`, the position of the leading digit of `m * 2^e`.

Rounding keeps the leading digit where it was or raises it by one, as long as the value lies
above the smallest subnormal; a canonical value within range is stored exactly and a larger
one as infinity. From these, a whole number other than zero is a positive double, sums and
quotients of positive doubles are positive, and a quotient is never rounded to zero unless it
lies some `2^1020` below one.

## Main statements

* `roundWithAccuracy_of_magnitude`: rounding keeps the leading digit, or raises it by one.
* `store_of_canonical`: a canonical value within range is stored exactly.
* `ofNat_magnitude`, `div_atLeast`, `add_atLeast`: whole numbers, quotients and sums.
* `not_negative_store_div`: a quotient of a positive value by a positive one is never negative.
-/

namespace DownloadEngine.Binary64

open Float.Model Float.Model.UnpackedFloat

/-! ## Rounding -/

/-- Binary64 keeps 53 digits of a value whose leading digit is at `t`, or stops at the
subnormals' exponent. -/
theorem targetExponent_eq (t : Int) :
    Format.binary64.targetExponent t = max (t - 53) (-1074) := rfl

theorem shiftRight_mantissa (em : ExtendedMantissa) (k : Nat) :
    (em >>> k).mantissa = em.mantissa / 2 ^ k := by
  induction k with
  | zero => simp [HShiftRight.hShiftRight, Nat.repeat]
  | succ k ih =>
    change (em >>> k).shiftRightOne.mantissa = _
    rw [ExtendedMantissa.shiftRightOne, ih, Nat.div_div_eq_div_mul, Nat.pow_succ]

theorem roundedMantissa_bounds (em : ExtendedMantissa) :
    em.mantissa ≤ em.roundedMantissa ∧ em.roundedMantissa ≤ em.mantissa + 1 := by
  obtain ⟨m, r, s⟩ := em
  cases r <;> cases s <;>
    simp only [ExtendedMantissa.roundedMantissa, ExtendedMantissa.accuracy,
      Accuracy.roundToNearestEven] <;> omega

/-- How many digits the first shift of rounding drops from `m` at exponent `e`. -/
def dropped (m : Nat) (e : Int) : Nat :=
  (Format.binary64.targetExponent (totalExponent m e) - e).toNat

/-- The mantissa left after the first shift, rounded to nearest. -/
def rounded (m : Nat) (e : Int) (a : Accuracy) : Nat :=
  (shiftToTargetExponent Format.binary64 m e a).1.roundedMantissa

theorem dropped_bounds (m : Nat) (e : Int) :
    -1074 ≤ e + dropped m e ∧ m.log2 ≤ 52 + dropped m e := by
  simp only [dropped, targetExponent_eq, totalExponent]
  omega

theorem shiftToTargetExponent_eq (m : Nat) (e : Int) (a : Accuracy) :
    shiftToTargetExponent Format.binary64 m e a =
      (ExtendedMantissa.ofMantissaAndAccuracy m a >>> dropped m e, e + dropped m e) := rfl

theorem mantissa_ofMantissaAndAccuracy (m : Nat) (a : Accuracy) :
    (ExtendedMantissa.ofMantissaAndAccuracy m a).mantissa = m := by
  rcases a with _ | (_ | _ | _) <;> rfl

theorem mantissa_shiftToTargetExponent (m : Nat) (e : Int) (a : Accuracy) :
    (shiftToTargetExponent Format.binary64 m e a).1.mantissa = m / 2 ^ dropped m e := by
  rw [shiftToTargetExponent_eq, shiftRight_mantissa, mantissa_ofMantissaAndAccuracy]

theorem mantissa_shiftToTargetExponent_lt (m : Nat) (e : Int) (a : Accuracy) :
    (shiftToTargetExponent Format.binary64 m e a).1.mantissa < 2 ^ 53 := by
  rw [mantissa_shiftToTargetExponent, Nat.div_lt_iff_lt_mul (Nat.two_pow_pos _), ← Nat.pow_add]
  exact Nat.lt_of_lt_of_le Nat.lt_log2_self
    (Nat.pow_le_pow_right (by decide) (by have := (dropped_bounds m e).2; omega))

theorem rounded_le (m : Nat) (e : Int) (a : Accuracy) : rounded m e a ≤ 2 ^ 53 := by
  have := (roundedMantissa_bounds (shiftToTargetExponent Format.binary64 m e a).1).2
  have := mantissa_shiftToTargetExponent_lt m e a
  simp only [rounded]
  omega

theorem shiftToTargetExponent_of_lt {r : Nat} {e : Int} (hr : r < 2 ^ 53) (he : -1074 ≤ e) :
    shiftToTargetExponent Format.binary64 r e .exact = (⟨r, false, false⟩, e) := by
  have hlog : r.log2 ≤ 52 := by
    rcases Nat.eq_zero_or_pos r with rfl | hpos
    · decide
    · exact Nat.lt_succ_iff.1 ((Nat.log2_lt (Nat.pos_iff_ne_zero.1 hpos)).2 hr)
  have hd : dropped r e = 0 := by
    simp only [dropped, targetExponent_eq, totalExponent]
    omega
  rw [shiftToTargetExponent_eq, hd]
  exact Prod.ext rfl (by omega)

theorem shiftToTargetExponent_two_pow {e : Int} (he : -1074 ≤ e) :
    shiftToTargetExponent Format.binary64 (2 ^ 53) e .exact = (⟨2 ^ 52, false, false⟩, e + 1) := by
  have hd : dropped (2 ^ 53) e = 1 := by
    simp only [dropped, targetExponent_eq, totalExponent, Nat.log2_two_pow]
    omega
  rw [shiftToTargetExponent_eq, hd]
  rfl

/-- Rounding gives zero, the rounded mantissa at the exponent the first shift reached, or, when
rounding up reached `2^53`, half of it one exponent higher. -/
theorem roundWithAccuracy_eq (s : Sign) (m : Nat) (e : Int) (a : Accuracy) :
    roundWithAccuracy Format.binary64 s m e a =
      if h : rounded m e a = 0 then .zero s
      else if rounded m e a < 2 ^ 53 then
        .finite s (rounded m e a) (e + dropped m e) (Nat.pos_of_ne_zero h)
      else .finite s (2 ^ 52) (e + dropped m e + 1) (Nat.two_pow_pos 52) := by
  have he := (dropped_bounds m e).1
  have hle := rounded_le m e a
  have hfirst : shiftToTargetExponent Format.binary64 m e a =
      ((shiftToTargetExponent Format.binary64 m e a).1, e + dropped m e) := rfl
  unfold roundWithAccuracy
  rw [hfirst]
  dsimp only
  change (if h : (shiftToTargetExponent Format.binary64 (rounded m e a) (e + dropped m e)
      .exact).1.mantissa = 0 then zero s
    else finite s (shiftToTargetExponent Format.binary64 (rounded m e a) (e + dropped m e)
      .exact).1.mantissa (shiftToTargetExponent Format.binary64 (rounded m e a)
      (e + dropped m e) .exact).2 (Nat.pos_of_ne_zero h)) = _
  generalize hx : shiftToTargetExponent Format.binary64 (rounded m e a) (e + dropped m e)
    .exact = x
  by_cases hlt : rounded m e a < 2 ^ 53
  · rw [shiftToTargetExponent_of_lt hlt he] at hx
    subst hx
    simp only [hlt, if_true]
  · have heq : rounded m e a = 2 ^ 53 := by omega
    rw [heq, shiftToTargetExponent_two_pow he] at hx
    subst hx
    simp only [heq, Nat.lt_irrefl, if_false]
    rfl


/-! ## Digits -/

theorem log2_le_log2 {a b : Nat} (ha : a ≠ 0) (h : a ≤ b) : a.log2 ≤ b.log2 :=
  (Nat.le_log2 (by omega)).2 (Nat.le_trans (Nat.log2_self_le ha) h)

theorem log2_le_of_le_succ {q r : Nat} (h : r ≤ q + 1) : r.log2 ≤ q.log2 + 1 := by
  rcases Nat.eq_zero_or_pos r with rfl | hr
  · simp
  · have hq : q + 1 ≤ 2 ^ (q.log2 + 1) := Nat.lt_log2_self
    exact Nat.lt_succ_iff.1 ((Nat.log2_lt (by omega)).2
      (Nat.lt_of_le_of_lt (Nat.le_trans h hq) (Nat.pow_lt_pow_right (by decide) (by omega))))

theorem log2_div_two_pow {m k : Nat} (hm : m ≠ 0) (hk : k ≤ m.log2) :
    (m / 2 ^ k).log2 = m.log2 - k := by
  have hlo : 2 ^ (m.log2 - k) * 2 ^ k ≤ m := by
    rw [← Nat.pow_add, Nat.sub_add_cancel hk]
    exact Nat.log2_self_le hm
  have hhi : m < 2 ^ (m.log2 - k + 1) * 2 ^ k := by
    rw [← Nat.pow_add, Nat.add_right_comm, Nat.sub_add_cancel hk]
    exact Nat.lt_log2_self
  have hpos : 0 < 2 ^ (m.log2 - k) := Nat.two_pow_pos _
  rw [Nat.log2_eq_iff (by
    have := (Nat.le_div_iff_mul_le (Nat.two_pow_pos k)).2 hlo
    omega)]
  exact ⟨(Nat.le_div_iff_mul_le (Nat.two_pow_pos k)).2 hlo,
    (Nat.div_lt_iff_lt_mul (Nat.two_pow_pos k)).2 hhi⟩

/-! ## Canonical values -/

/-- A finite value as binary64 stores it: at most 53 digits, an exponent no lower than the
subnormals', and all 53 digits unless the exponent is the lowest. -/
structure Canonical (m : Nat) (e : Int) : Prop where
  lt_two_pow : m < 2 ^ 53
  exponent_ge : -1074 ≤ e
  full : 2 ^ 52 ≤ m ∨ e = -1074

/-- Rounding keeps the sign, and gives zero or a value of at most 53 digits at an exponent no
lower than the subnormals'. -/
theorem roundWithAccuracy_shape (s : Sign) (m : Nat) (e : Int) (a : Accuracy) :
    roundWithAccuracy Format.binary64 s m e a = .zero s ∨
      ∃ m' e' h, roundWithAccuracy Format.binary64 s m e a = .finite s m' e' h ∧
        m' < 2 ^ 53 ∧ -1074 ≤ e' := by
  have he := (dropped_bounds m e).1
  rw [roundWithAccuracy_eq]
  by_cases hz : rounded m e a = 0
  · exact .inl (dif_pos hz)
  · rw [dif_neg hz]
    by_cases hlt : rounded m e a < 2 ^ 53
    · exact .inr ⟨_, _, _, if_pos hlt, hlt, he⟩
    · exact .inr ⟨_, _, _, if_neg hlt, by decide, by omega⟩

/-- A value at or above the smallest subnormal, with all the digits binary64 keeps, rounds to
a canonical value whose leading digit is where it was or one higher. -/
theorem roundWithAccuracy_of_magnitude (s : Sign) {m : Nat} {e : Int} (a : Accuracy)
    (hm : m ≠ 0) (hlo : -1073 ≤ totalExponent m e) (hfull : 52 ≤ m.log2 ∨ e ≤ -1074) :
    ∃ m' e' h, roundWithAccuracy Format.binary64 s m e a = .finite s m' e' h ∧
      Canonical m' e' ∧ totalExponent m e ≤ totalExponent m' e' ∧
      totalExponent m' e' ≤ totalExponent m e + 1 := by
  have he := (dropped_bounds m e).1
  -- the first shift drops no more digits than the value has
  have hk : dropped m e ≤ m.log2 := by
    simp only [dropped, targetExponent_eq, totalExponent] at hlo ⊢
    omega
  have hq := log2_div_two_pow hm hk
  have hqpos : m / 2 ^ dropped m e ≠ 0 :=
    Nat.pos_iff_ne_zero.1 (Nat.div_pos (Nat.le_trans (Nat.pow_le_pow_right (by decide) hk)
      (Nat.log2_self_le hm)) (Nat.two_pow_pos _))
  have hqlt := mantissa_shiftToTargetExponent_lt m e a
  have hr := roundedMantissa_bounds (shiftToTargetExponent Format.binary64 m e a).1
  rw [mantissa_shiftToTargetExponent] at hqlt hr
  change m / 2 ^ dropped m e ≤ rounded m e a ∧ rounded m e a ≤ m / 2 ^ dropped m e + 1 at hr
  have hup := log2_le_of_le_succ hr.2
  have hdown := log2_le_log2 hqpos hr.1
  -- all 53 digits are kept unless the exponent is the lowest
  have hkeep : 2 ^ 52 ≤ m / 2 ^ dropped m e ∨ e + dropped m e = -1074 := by
    by_cases hd : e + dropped m e = -1074
    · exact .inr hd
    · refine .inl ((Nat.le_log2 hqpos).1 ?_)
      simp only [dropped, targetExponent_eq, totalExponent] at hd hq ⊢
      omega
  have hrpos : rounded m e a ≠ 0 :=
    Nat.pos_iff_ne_zero.1 (Nat.lt_of_lt_of_le (Nat.pos_of_ne_zero hqpos) hr.1)
  generalize m / 2 ^ dropped m e = q at *
  rw [roundWithAccuracy_eq, dif_neg hrpos]
  by_cases hlt : rounded m e a < 2 ^ 53
  · rw [if_pos hlt]
    refine ⟨_, _, _, rfl, ⟨hlt, he, hkeep.imp (fun h => by omega) id⟩, ?_, ?_⟩ <;>
      simp only [totalExponent] <;> omega
  · rw [if_neg hlt]
    -- rounding up to `2^53` carries into the exponent
    have hq52 : q.log2 = 52 :=
      (Nat.log2_eq_iff hqpos).2 ⟨by omega, hqlt⟩
    refine ⟨_, _, _, rfl, ⟨by decide, by omega, .inl (Nat.le_refl _)⟩, ?_, ?_⟩ <;>
      simp only [totalExponent, Nat.log2_two_pow] <;> omega

/-! ## Storing -/

/-- A value stored as 64 bits and read back. -/
def store (f : UnpackedFloat) : UnpackedFloat := unpack Format.binary64 (pack Format.binary64 f)

theorem store_zero (s : Sign) : store (.zero s) = .zero s := by cases s <;> rfl

theorem store_infinity (s : Sign) : store (.infinity s) = .infinity s := by cases s <;> rfl

theorem unpack_packedInfinity (s : Sign) :
    unpack Format.binary64 (packedInfinity Format.binary64 s) = .infinity s := by
  cases s <;> rfl

theorem unpackSign_packComponents (s : Sign) (x : BitVec 11) (y : BitVec 52) :
    unpackSign (packComponents Format.binary64 s x y) = s.toBitVec := by
  apply BitVec.eq_of_getLsbD_eq
  intro i hi
  obtain rfl : i = 0 := by omega
  simp only [unpackSign, packComponents, BitVec.getLsbD_cast, BitVec.getLsbD_extractLsb]
  rw [BitVec.getLsbD_append, BitVec.getLsbD_append]
  simp

theorem ofBitVec_toBitVec (s : Sign) : Sign.ofBitVec s.toBitVec = s := by cases s <;> rfl

theorem toNat_one_append (y : BitVec 52) : (1#1 ++ y).toNat = 2 ^ 52 + y.toNat := by
  rw [BitVec.toNat_append, ← Nat.shiftLeft_add_eq_or_of_lt y.isLt]
  simp [Nat.shiftLeft_eq]

/-- The bits a finite value is stored as: infinity when the biased exponent fills its field,
a normal pattern for 53 digits, a subnormal one otherwise. -/
theorem store_finite (s : Sign) (m : Nat) (e : Int) (hm : 0 < m) :
    store (.finite s m e hm) = unpack Format.binary64
      (if 2047 ≤ (e + 1075).toNat then packedInfinity Format.binary64 s
      else if m.log2 = 52 then
        packComponents Format.binary64 s (BitVec.ofNat 11 (e + 1075).toNat) (BitVec.ofNat 52 m)
      else packComponents Format.binary64 s 0#11 (BitVec.ofNat 52 m)) := by
  have hbias : (Format.binary64.exponentBias : Int) = 1023 := rfl
  have hmb : Format.binary64.mantissaBits = 53 := rfl
  unfold store UnpackedFloat.pack
  dsimp only
  rw [hbias, hmb]
  congr 1
  simp only [show (2 : Nat) ^ 11 = 2048 from rfl, show e + 1023 + (52 : Nat) = e + 1075 by omega]
  by_cases h1 : 2047 ≤ (e + 1075).toNat
  · rw [if_pos (by omega), if_pos h1]
  · rw [if_neg (by omega), if_neg h1]
    by_cases h2 : m.log2 = 52
    · rw [if_pos (by omega), if_pos h2]
    · rw [if_neg (by omega), if_neg h2]

theorem unpack_normal (s : Sign) {x : BitVec 11} (y : BitVec 52) (h1 : x ≠ -1#11)
    (h0 : x ≠ 0#11) :
    unpack Format.binary64 (packComponents Format.binary64 s x y) =
      .finite s (1#1 ++ y).toNat (x.toNat - 1075) (by rw [toNat_one_append]; omega) := by
  simp only [UnpackedFloat.unpack, unpackExponent_packComponents, unpackMantissa_packComponents,
    unpackSign_packComponents, ofBitVec_toBitVec, h1, h0, if_false]
  rfl

theorem unpack_subnormal (s : Sign) {y : BitVec 52} (hy : y ≠ 0#52) :
    unpack Format.binary64 (packComponents Format.binary64 s 0#11 y) =
      .finite s y.toNat (-1074) (by
        rcases Nat.eq_zero_or_pos y.toNat with h | h
        · exact absurd (BitVec.eq_of_toNat_eq (by simpa using h)) hy
        · exact h) := by
  simp only [UnpackedFloat.unpack, unpackExponent_packComponents, unpackMantissa_packComponents,
    unpackSign_packComponents, ofBitVec_toBitVec, hy]
  rfl

/-- The biased exponent of a normal value in range, as an 11-bit field. -/
theorem biased_field {e : Int} (hlo : -1074 ≤ e) (hhi : e ≤ 971) :
    (BitVec.ofNat 11 (e + 1075).toNat).toNat = (e + 1075).toNat ∧
      BitVec.ofNat 11 (e + 1075).toNat ≠ -1#11 ∧ BitVec.ofNat 11 (e + 1075).toNat ≠ 0#11 := by
  have hx : (BitVec.ofNat 11 (e + 1075).toNat).toNat = (e + 1075).toNat := by
    rw [BitVec.toNat_ofNat, Nat.mod_eq_of_lt (by omega)]
  refine ⟨hx, fun h => ?_, fun h => ?_⟩ <;>
    · have := congrArg BitVec.toNat h
      rw [hx] at this
      simp at this
      omega

/-- A canonical value within the range of binary64 is stored exactly. -/
theorem store_of_canonical {s : Sign} {m : Nat} {e : Int} (hm : 0 < m) (hc : Canonical m e)
    (he : e ≤ 971) : store (.finite s m e hm) = .finite s m e hm := by
  have hlog : m.log2 < 53 := (Nat.log2_lt (by omega)).2 hc.lt_two_pow
  obtain ⟨hx, hx1, hx0⟩ := biased_field hc.exponent_ge he
  rw [store_finite, if_neg (by omega)]
  by_cases h52 : m.log2 = 52
  · -- a normal value: the leading digit is implicit and the exponent is biased
    have hn : 2 ^ 52 ≤ m := (Nat.le_log2 (by omega)).1 (by omega)
    rw [if_pos h52, unpack_normal s _ hx1 hx0]
    congr 1
    · rw [toNat_one_append, BitVec.toNat_ofNat]
      have := Nat.mod_add_div m (2 ^ 52)
      have : m / 2 ^ 52 = 1 := Nat.div_eq_of_lt_le (by omega) (by have := hc.lt_two_pow; omega)
      omega
    · rw [hx]
      have := hc.exponent_ge
      omega
  · -- a subnormal value: fewer digits, at the lowest exponent
    have hsmall : m < 2 ^ 52 := (Nat.log2_lt (by omega)).1 (by omega)
    have hlow : e = -1074 := hc.full.resolve_left (by omega)
    have hy : (BitVec.ofNat 52 m).toNat = m := by
      rw [BitVec.toNat_ofNat, Nat.mod_eq_of_lt hsmall]
    have hy0 : BitVec.ofNat 52 m ≠ 0#52 := fun h => by
      have := congrArg BitVec.toNat h
      rw [hy] at this
      simp at this
      omega
    rw [if_neg h52, unpack_subnormal s hy0]
    congr 1
    exact hlow.symm

/-- A value beyond the range of binary64 is stored as infinity. -/
theorem store_of_overflow {s : Sign} {m : Nat} {e : Int} (hm : 0 < m) (he : 971 < e) :
    store (.finite s m e hm) = .infinity s := by
  rw [store_finite, if_pos (by omega), unpack_packedInfinity]

/-- Storing a value of at most 53 digits at an exponent no lower than the subnormals' keeps it
finite with its sign, or makes it infinite with its sign. -/
theorem store_finite_shape {s : Sign} {m : Nat} {e : Int} (hm : 0 < m) (hlt : m < 2 ^ 53)
    (he : -1074 ≤ e) :
    store (.finite s m e hm) = .infinity s ∨
      ∃ m' e' h, store (.finite s m e hm) = .finite s m' e' h := by
  by_cases hover : 971 < e
  · exact .inl (store_of_overflow hm hover)
  obtain ⟨-, hx1, hx0⟩ := biased_field he (by omega)
  rw [store_finite, if_neg (by omega)]
  by_cases h52 : m.log2 = 52
  · rw [if_pos h52, unpack_normal s _ hx1 hx0]
    exact .inr ⟨_, _, _, rfl⟩
  · have hsmall : m < 2 ^ 52 := (Nat.log2_lt (by omega)).1
      (by have := (Nat.log2_lt (by omega)).2 hlt; omega)
    have hy0 : BitVec.ofNat 52 m ≠ 0#52 := fun h => by
      have := congrArg BitVec.toNat h
      rw [BitVec.toNat_ofNat, Nat.mod_eq_of_lt hsmall] at this
      simp at this
      omega
    rw [if_neg h52, unpack_subnormal s hy0]
    exact .inr ⟨_, _, _, rfl⟩


/-! ## Positive values by magnitude -/

/-- A positive double as binary64 holds it, whose leading digit is at `lo` or above; positive
infinity counts. -/
def AtLeast (lo : Int) (f : UnpackedFloat) : Prop :=
  f = .infinity .positive ∨
    ∃ m e h, f = .finite .positive m e h ∧ Canonical m e ∧ e ≤ 971 ∧ lo ≤ totalExponent m e

/-- A positive finite double as binary64 holds it, whose leading digit is at `hi` or below. -/
def AtMost (hi : Int) (f : UnpackedFloat) : Prop :=
  ∃ m e h, f = .finite .positive m e h ∧ Canonical m e ∧ e ≤ 971 ∧ totalExponent m e ≤ hi

theorem Canonical.totalExponent_ge {m : Nat} {e : Int} (hc : Canonical m e) :
    -1073 ≤ totalExponent m e := by
  have := hc.exponent_ge
  simp only [totalExponent]
  omega

/-- A canonical value whose leading digit is within binary64's range has an exponent that
fits. -/
theorem Canonical.exponent_le {m : Nat} {e : Int} (hc : Canonical m e)
    (h : totalExponent m e ≤ 1024) : e ≤ 971 := by
  rcases hc.full with hn | hlow
  · have := (Nat.le_log2 (by omega)).2 hn
    simp only [totalExponent] at h
    omega
  · omega

theorem AtLeast.mono {lo lo' : Int} {f : UnpackedFloat} (h : AtLeast lo f) (hle : lo' ≤ lo) :
    AtLeast lo' f := by
  obtain h | ⟨m, e, hm, rfl, hc, he, hlo⟩ := h
  · exact .inl h
  · exact .inr ⟨m, e, hm, rfl, hc, he, by omega⟩

theorem AtMost.mono {hi hi' : Int} {f : UnpackedFloat} (h : AtMost hi f) (hle : hi ≤ hi') :
    AtMost hi' f := by
  obtain ⟨m, e, hm, rfl, hc, he, hhi⟩ := h
  exact ⟨m, e, hm, rfl, hc, he, by omega⟩

theorem AtMost.atLeast {hi : Int} {f : UnpackedFloat} (h : AtMost hi f) : AtLeast (-1073) f := by
  obtain ⟨m, e, hm, rfl, hc, he, -⟩ := h
  exact .inr ⟨m, e, hm, rfl, hc, he, hc.totalExponent_ge⟩

theorem AtLeast.store {lo : Int} {f : UnpackedFloat} (h : AtLeast lo f) : store f = f := by
  obtain rfl | ⟨m, e, hm, rfl, hc, he, -⟩ := h
  · exact store_infinity _
  · exact store_of_canonical hm hc he

theorem AtMost.store {hi : Int} {f : UnpackedFloat} (h : AtMost hi f) : store f = f :=
  h.atLeast.store

/-- Rounding a value above the smallest subnormal that has all the digits binary64 keeps, and
storing it, gives a positive value with its leading digit where it was or one higher. -/
theorem store_roundWithAccuracy (a : Accuracy) {m : Nat} {e : Int} (hm : m ≠ 0)
    (hlo : -1073 ≤ totalExponent m e) (hfull : 52 ≤ m.log2 ∨ e ≤ -1074) :
    AtLeast (totalExponent m e) (store (roundWithAccuracy Format.binary64 .positive m e a)) ∧
      (totalExponent m e + 1 ≤ 1024 →
        AtMost (totalExponent m e + 1)
          (store (roundWithAccuracy Format.binary64 .positive m e a))) := by
  obtain ⟨m', e', hm', hround, hc, hge, hle⟩ :=
    roundWithAccuracy_of_magnitude .positive a hm hlo hfull
  rw [hround]
  constructor
  · by_cases hover : 971 < e'
    · exact .inl (store_of_overflow hm' hover)
    · rw [store_of_canonical hm' hc (by omega)]
      exact .inr ⟨m', e', hm', rfl, hc, by omega, hge⟩
  · intro hfit
    have he' := hc.exponent_le (by omega)
    rw [store_of_canonical hm' hc he']
    exact ⟨m', e', hm', rfl, hc, he', hle⟩

/-- How far rounding first widens a value, to all the digits binary64 keeps. -/
def widened (m : Nat) (e : Int) : Nat :=
  (e - Format.binary64.targetExponent (totalExponent m e)).toNat

theorem log2_mul_two_pow {m : Nat} (hm : m ≠ 0) (k : Nat) : (m * 2 ^ k).log2 = m.log2 + k := by
  have hpos : 0 < 2 ^ k := Nat.two_pow_pos k
  rw [Nat.log2_eq_iff (Nat.mul_ne_zero hm (by omega)), Nat.pow_add,
    show m.log2 + k + 1 = (m.log2 + 1) + k by omega, Nat.pow_add]
  exact ⟨Nat.mul_le_mul_right _ (Nat.log2_self_le hm),
    Nat.mul_lt_mul_of_pos_right Nat.lt_log2_self hpos⟩

theorem round_eq (s : Sign) (m : Nat) (e : Int) :
    UnpackedFloat.round Format.binary64 s m e =
      roundWithAccuracy Format.binary64 s (m * 2 ^ widened m e) (e - widened m e) .exact := by
  simp only [UnpackedFloat.round, decreaseExponent, Nat.shiftLeft_eq]
  rfl

/-- Rounding a whole mantissa at an exponent, and storing it, gives a positive value with its
leading digit where it was or one higher. -/
theorem store_round {m : Nat} {e : Int} (hm : m ≠ 0) (hlo : -1073 ≤ totalExponent m e) :
    AtLeast (totalExponent m e) (store (UnpackedFloat.round Format.binary64 .positive m e)) ∧
      (totalExponent m e + 1 ≤ 1024 →
        AtMost (totalExponent m e + 1)
          (store (UnpackedFloat.round Format.binary64 .positive m e))) := by
  have hw : 2 ^ widened m e ≠ 0 := Nat.pos_iff_ne_zero.1 (Nat.two_pow_pos _)
  -- widening keeps the leading digit and brings in all the digits binary64 keeps
  have hlog := log2_mul_two_pow hm (widened m e)
  have htotal : totalExponent (m * 2 ^ widened m e) (e - widened m e) = totalExponent m e := by
    simp only [totalExponent, hlog]
    omega
  have hfull : 52 ≤ (m * 2 ^ widened m e).log2 ∨ e - widened m e ≤ -1074 := by
    rw [hlog]
    simp only [widened, targetExponent_eq, totalExponent]
    omega
  rw [round_eq, ← htotal]
  exact store_roundWithAccuracy .exact (Nat.mul_ne_zero hm hw) (htotal ▸ hlo) hfull


/-! ## Quotients -/

/-- How far division shifts the dividend's mantissa up before it divides. -/
def quotientShift (m₁ : Nat) (e₁ : Int) (m₂ : Nat) (e₂ : Int) : Nat :=
  (e₁ - e₂ - min (e₁ - e₂)
    (Format.binary64.targetExponent (totalExponent m₁ e₁ - totalExponent m₂ e₂))).toNat

theorem divCore_eq (m₁ : Nat) (e₁ : Int) (m₂ : Nat) (e₂ : Int) :
    divCore Format.binary64 m₁ e₁ m₂ e₂ =
      (m₁ * 2 ^ quotientShift m₁ e₁ m₂ e₂ / m₂, e₁ - e₂ - quotientShift m₁ e₁ m₂ e₂,
        accuracyOfFraction (m₁ * 2 ^ quotientShift m₁ e₁ m₂ e₂ % m₂) m₂) := by
  simp only [divCore, quotientShift, Nat.shiftLeft_eq]
  congr 2
  omega

/-- A quotient bounded below by a power of two. -/
theorem two_pow_le_div {a b k : Nat} (hb : b ≠ 0) (ha : 2 ^ (k + b.log2 + 1) ≤ a) :
    2 ^ k ≤ a / b := by
  refine (Nat.le_div_iff_mul_le (by omega)).2 (Nat.le_trans ?_ ha)
  rw [Nat.add_assoc, Nat.pow_add]
  exact Nat.mul_le_mul_left _ (Nat.le_of_lt Nat.lt_log2_self)

/-- Before rounding, the quotient of two finite values has at least 53 digits and its leading
digit at the difference of theirs or one above, unless it lies far below one. -/
theorem divCore_magnitude {m₁ m₂ : Nat} {e₁ e₂ : Int} (h₁ : m₁ ≠ 0) (h₂ : m₂ ≠ 0)
    (hD : -1020 ≤ totalExponent m₁ e₁ - totalExponent m₂ e₂) :
    m₁ * 2 ^ quotientShift m₁ e₁ m₂ e₂ / m₂ ≠ 0 ∧
      52 ≤ (m₁ * 2 ^ quotientShift m₁ e₁ m₂ e₂ / m₂).log2 ∧
      totalExponent m₁ e₁ - totalExponent m₂ e₂ ≤
        totalExponent (m₁ * 2 ^ quotientShift m₁ e₁ m₂ e₂ / m₂)
          (e₁ - e₂ - quotientShift m₁ e₁ m₂ e₂) ∧
      totalExponent (m₁ * 2 ^ quotientShift m₁ e₁ m₂ e₂ / m₂)
          (e₁ - e₂ - quotientShift m₁ e₁ m₂ e₂) ≤
        totalExponent m₁ e₁ - totalExponent m₂ e₂ + 1 := by
  -- the shift puts the dividend at least 53 digits above the divisor
  have hsh : m₂.log2 + 53 ≤ m₁.log2 + quotientShift m₁ e₁ m₂ e₂ := by
    simp only [quotientShift, targetExponent_eq, totalExponent] at hD ⊢
    omega
  have hsh' :
      (quotientShift m₁ e₁ m₂ e₂ : Int) ≤ e₁ - e₂ - (e₁ - e₂ - quotientShift m₁ e₁ m₂ e₂) := by
    omega
  generalize quotientShift m₁ e₁ m₂ e₂ = k at hsh hsh' ⊢
  have hlo : 2 ^ (m₁.log2 + k - m₂.log2 - 1) ≤ m₁ * 2 ^ k / m₂ := by
    refine two_pow_le_div h₂ ?_
    rw [show m₁.log2 + k - m₂.log2 - 1 + m₂.log2 + 1 = m₁.log2 + k by omega, Nat.pow_add]
    exact Nat.mul_le_mul_right _ (Nat.log2_self_le h₁)
  have hhi : m₁ * 2 ^ k / m₂ < 2 ^ (m₁.log2 + k - m₂.log2 + 1) := by
    refine (Nat.div_lt_iff_lt_mul (by omega)).2 (Nat.lt_of_lt_of_le ?_
      (Nat.mul_le_mul_left _ (Nat.log2_self_le h₂)))
    rw [← Nat.pow_add, show m₁.log2 + k - m₂.log2 + 1 + m₂.log2 = (m₁.log2 + 1) + k by omega,
      Nat.pow_add]
    exact Nat.mul_lt_mul_of_pos_right Nat.lt_log2_self (Nat.two_pow_pos k)
  have hq : m₁ * 2 ^ k / m₂ ≠ 0 := by
    have := Nat.two_pow_pos (m₁.log2 + k - m₂.log2 - 1)
    omega
  have hlog_lo := (Nat.le_log2 hq).2 hlo
  have hlog_hi := (Nat.log2_lt hq).2 hhi
  refine ⟨hq, by omega, ?_, ?_⟩ <;> simp only [totalExponent] <;> omega


theorem div_finite (s₁ s₂ : Sign) {m₁ m₂ : Nat} {e₁ e₂ : Int} (h₁ : 0 < m₁) (h₂ : 0 < m₂) :
    UnpackedFloat.div Format.binary64 (.finite s₁ m₁ e₁ h₁) (.finite s₂ m₂ e₂ h₂) =
      roundWithAccuracy Format.binary64 (s₁ / s₂) (m₁ * 2 ^ quotientShift m₁ e₁ m₂ e₂ / m₂)
        (e₁ - e₂ - quotientShift m₁ e₁ m₂ e₂)
        (accuracyOfFraction (m₁ * 2 ^ quotientShift m₁ e₁ m₂ e₂ % m₂) m₂) := by
  simp only [UnpackedFloat.div, divCore_eq]

/-- The stored quotient of two positive finite values, unless it lies far below one, has its
leading digit at the difference of theirs or up to two above. -/
theorem store_div_finite {m₁ m₂ : Nat} {e₁ e₂ : Int} (h₁ : 0 < m₁) (h₂ : 0 < m₂)
    (hD : -1020 ≤ totalExponent m₁ e₁ - totalExponent m₂ e₂) :
    AtLeast (totalExponent m₁ e₁ - totalExponent m₂ e₂)
        (store (UnpackedFloat.div Format.binary64 (.finite .positive m₁ e₁ h₁)
          (.finite .positive m₂ e₂ h₂))) ∧
      (totalExponent m₁ e₁ - totalExponent m₂ e₂ + 2 ≤ 1024 →
        AtMost (totalExponent m₁ e₁ - totalExponent m₂ e₂ + 2)
          (store (UnpackedFloat.div Format.binary64 (.finite .positive m₁ e₁ h₁)
            (.finite .positive m₂ e₂ h₂)))) := by
  obtain ⟨hq, hfull, hlo, hhi⟩ := divCore_magnitude (by omega) (by omega) hD
  rw [div_finite]
  obtain ⟨hat, hmost⟩ := store_roundWithAccuracy
    (accuracyOfFraction (m₁ * 2 ^ quotientShift m₁ e₁ m₂ e₂ % m₂) m₂)
    (e := e₁ - e₂ - quotientShift m₁ e₁ m₂ e₂) hq (by omega) (.inl hfull)
  exact ⟨hat.mono hlo, fun hfit => (hmost (by omega)).mono (by omega)⟩

/-- A positive value over a positive finite value no more than about `2^1020` times larger is
positive, with its leading digit no lower than the difference of the bounds. -/
theorem div_atLeast {lo hi : Int} {x y : UnpackedFloat} (hx : AtLeast lo x) (hy : AtMost hi y)
    (hD : -1020 ≤ lo - hi) : AtLeast (lo - hi) (store (UnpackedFloat.div Format.binary64 x y)) := by
  obtain ⟨m₂, e₂, h₂, rfl, -, -, hhi⟩ := hy
  obtain rfl | ⟨m₁, e₁, h₁, rfl, -, -, hlo⟩ := hx
  · rw [show UnpackedFloat.div Format.binary64 (.infinity .positive) (.finite .positive m₂ e₂ h₂) =
      .infinity .positive from rfl, store_infinity]
    exact .inl rfl
  · exact (store_div_finite h₁ h₂ (by omega)).1.mono (by omega)

/-- A positive finite value over a positive finite value within a range has its leading digit
no higher than two above the difference of the bounds. -/
theorem div_atMost {lo₁ hi₁ lo₂ hi₂ : Int} {x y : UnpackedFloat} (hx : AtLeast lo₁ x)
    (hx' : AtMost hi₁ x) (hy : AtLeast lo₂ y) (hy' : AtMost hi₂ y) (hD : -1020 ≤ lo₁ - hi₂)
    (hfit : hi₁ - lo₂ + 2 ≤ 1024) :
    AtMost (hi₁ - lo₂ + 2) (store (UnpackedFloat.div Format.binary64 x y)) := by
  obtain ⟨m₁, e₁, h₁, rfl, -, -, hhi₁⟩ := hx'
  obtain ⟨m₂, e₂, h₂, rfl, -, -, hhi₂⟩ := hy'
  obtain h | ⟨_, _, _, h, -, -, hlo₁⟩ := hx
  · cases h
  obtain h | ⟨_, _, _, h', -, -, hlo₂⟩ := hy
  · cases h
  cases h
  cases h'
  exact ((store_div_finite h₁ h₂ (by omega)).2 (by omega)).mono (by omega)

theorem store_div_zero {lo : Int} {y : UnpackedFloat} (hy : AtLeast lo y) :
    store (UnpackedFloat.div Format.binary64 (.zero .positive) y) = .zero .positive := by
  obtain rfl | ⟨m, e, h, rfl, -⟩ := hy <;> exact store_zero _


/-! ## Sums -/

theorem normalize_of_pos {n : Int} (E : Int) (zs : Sign) (h : 0 < n) :
    UnpackedFloat.normalize Format.binary64 n E zs =
      UnpackedFloat.round Format.binary64 .positive n.toNat E := by
  unfold UnpackedFloat.normalize
  rw [Int.compare_eq_gt.2 h]

/-- Two positive finite values are added at the lower of their exponents. -/
theorem add_finite {m₁ m₂ : Nat} {e₁ e₂ : Int} (h₁ : 0 < m₁) (h₂ : 0 < m₂) :
    UnpackedFloat.add Format.binary64 (.finite .positive m₁ e₁ h₁) (.finite .positive m₂ e₂ h₂) =
      UnpackedFloat.round Format.binary64 .positive
        (m₁ * 2 ^ (e₁ - min e₁ e₂).toNat + m₂ * 2 ^ (e₂ - min e₁ e₂).toNat) (min e₁ e₂) := by
  have hsum : UnpackedFloat.add Format.binary64 (.finite .positive m₁ e₁ h₁)
      (.finite .positive m₂ e₂ h₂) = UnpackedFloat.normalize Format.binary64
        ((m₁ * 2 ^ (e₁ - min e₁ e₂).toNat + m₂ * 2 ^ (e₂ - min e₁ e₂).toNat : Nat) : Int)
        (min e₁ e₂) .positive := by
    simp only [UnpackedFloat.add, decreaseExponent, Nat.shiftLeft_eq, Sign.apply]
    push_cast
    rfl
  rw [hsum, normalize_of_pos _ _ (by
    have := Nat.mul_pos h₁ (Nat.two_pow_pos (e₁ - min e₁ e₂).toNat)
    omega), Int.toNat_natCast]

theorem log2_add_le {a b : Nat} (ha : a ≠ 0) : (a + b).log2 ≤ max a.log2 b.log2 + 1 := by
  have hA : a < 2 ^ (max a.log2 b.log2 + 1) :=
    Nat.lt_of_lt_of_le Nat.lt_log2_self (Nat.pow_le_pow_right (by decide) (by omega))
  have hB : b < 2 ^ (max a.log2 b.log2 + 1) :=
    Nat.lt_of_lt_of_le Nat.lt_log2_self (Nat.pow_le_pow_right (by decide) (by omega))
  have hAB : a + b < 2 ^ (max a.log2 b.log2 + 1 + 1) := by
    rw [Nat.pow_succ]
    omega
  exact Nat.lt_succ_iff.1 ((Nat.log2_lt (by omega)).2 hAB)

/-- The stored sum of two positive finite values has its leading digit at the higher of theirs,
or up to two above. -/
theorem store_add_finite {m₁ m₂ : Nat} {e₁ e₂ : Int} (h₁ : 0 < m₁) (h₂ : 0 < m₂)
    (hlo : -1073 ≤ totalExponent m₁ e₁) :
    AtLeast (max (totalExponent m₁ e₁) (totalExponent m₂ e₂))
        (store (UnpackedFloat.add Format.binary64 (.finite .positive m₁ e₁ h₁)
          (.finite .positive m₂ e₂ h₂))) ∧
      (max (totalExponent m₁ e₁) (totalExponent m₂ e₂) + 2 ≤ 1024 →
        AtMost (max (totalExponent m₁ e₁) (totalExponent m₂ e₂) + 2)
          (store (UnpackedFloat.add Format.binary64 (.finite .positive m₁ e₁ h₁)
            (.finite .positive m₂ e₂ h₂)))) := by
  rw [add_finite]
  -- both mantissas, brought to the lower exponent, keep their leading digits
  have ha := log2_mul_two_pow (Nat.pos_iff_ne_zero.1 h₁) (e₁ - min e₁ e₂).toNat
  have hb := log2_mul_two_pow (Nat.pos_iff_ne_zero.1 h₂) (e₂ - min e₁ e₂).toNat
  have hane : m₁ * 2 ^ (e₁ - min e₁ e₂).toNat ≠ 0 :=
    Nat.mul_ne_zero (by omega) (Nat.pos_iff_ne_zero.1 (Nat.two_pow_pos _))
  have hbne : m₂ * 2 ^ (e₂ - min e₁ e₂).toNat ≠ 0 :=
    Nat.mul_ne_zero (by omega) (Nat.pos_iff_ne_zero.1 (Nat.two_pow_pos _))
  have hup := log2_add_le (b := m₂ * 2 ^ (e₂ - min e₁ e₂).toNat) hane
  have hdown₁ := log2_le_log2 hane (Nat.le_add_right _ (m₂ * 2 ^ (e₂ - min e₁ e₂).toNat))
  have hdown₂ := log2_le_log2 hbne (Nat.le_add_left _ (m₁ * 2 ^ (e₁ - min e₁ e₂).toNat))
  have hn : m₁ * 2 ^ (e₁ - min e₁ e₂).toNat + m₂ * 2 ^ (e₂ - min e₁ e₂).toNat ≠ 0 := by omega
  generalize m₁ * 2 ^ (e₁ - min e₁ e₂).toNat + m₂ * 2 ^ (e₂ - min e₁ e₂).toNat = n at *
  have htot : max (totalExponent m₁ e₁) (totalExponent m₂ e₂) ≤ totalExponent n (min e₁ e₂) ∧
      totalExponent n (min e₁ e₂) ≤ max (totalExponent m₁ e₁) (totalExponent m₂ e₂) + 1 := by
    simp only [ha, hb] at hup hdown₁ hdown₂
    simp only [totalExponent] at hlo ⊢
    omega
  obtain ⟨hat, hmost⟩ := store_round (m := n) (e := min e₁ e₂) hn (by omega)
  exact ⟨hat.mono htot.1, fun hfit => (hmost (by omega)).mono (by omega)⟩

/-- Adding zero or a positive value to a positive value keeps it positive, with its leading
digit no lower. -/
theorem add_atLeast {lo : Int} {x y : UnpackedFloat} (hx : AtLeast lo x)
    (hy : y = .zero .positive ∨ ∃ lo', AtLeast lo' y) :
    AtLeast lo (store (UnpackedFloat.add Format.binary64 x y)) := by
  obtain rfl | ⟨m₁, e₁, h₁, rfl, hc₁, he₁, hlo₁⟩ := hx
  · -- infinity absorbs zero, infinity and every finite value
    rcases hy with rfl | ⟨lo', rfl | ⟨m₂, e₂, h₂, rfl, -⟩⟩ <;>
      (change AtLeast lo (store (.infinity .positive)); rw [store_infinity]; exact .inl rfl)
  · rcases hy with rfl | ⟨lo', rfl | ⟨m₂, e₂, h₂, rfl, -⟩⟩
    · rw [show UnpackedFloat.add Format.binary64 (.finite .positive m₁ e₁ h₁) (.zero .positive) =
        .finite .positive m₁ e₁ h₁ from rfl, store_of_canonical h₁ hc₁ he₁]
      exact .inr ⟨m₁, e₁, h₁, rfl, hc₁, he₁, hlo₁⟩
    · rw [show UnpackedFloat.add Format.binary64 (.finite .positive m₁ e₁ h₁)
        (.infinity .positive) = .infinity .positive from rfl, store_infinity]
      exact .inl rfl
    · exact (store_add_finite h₁ h₂ hc₁.totalExponent_ge).1.mono (by omega)

/-- Adding zero or a positive finite value to a positive finite value keeps its leading digit
no higher than two above the higher bound. -/
theorem add_atMost {hi hi' : Int} {x y : UnpackedFloat} (hx : AtMost hi x)
    (hy : y = .zero .positive ∨ AtMost hi' y) (hfit : max hi hi' + 2 ≤ 1024) :
    AtMost (max hi hi' + 2) (store (UnpackedFloat.add Format.binary64 x y)) := by
  obtain ⟨m₁, e₁, h₁, rfl, hc₁, he₁, hhi₁⟩ := hx
  rcases hy with rfl | ⟨m₂, e₂, h₂, rfl, -, -, hhi₂⟩
  · rw [show UnpackedFloat.add Format.binary64 (.finite .positive m₁ e₁ h₁) (.zero .positive) =
      .finite .positive m₁ e₁ h₁ from rfl, store_of_canonical h₁ hc₁ he₁]
    exact ⟨m₁, e₁, h₁, rfl, hc₁, he₁, by omega⟩
  · exact ((store_add_finite h₁ h₂ hc₁.totalExponent_ge).2 (by omega)).mono (by omega)

theorem add_zero_left {y : UnpackedFloat} (hy : y = .zero .positive ∨ ∃ lo, AtLeast lo y) :
    store (UnpackedFloat.add Format.binary64 (.zero .positive) y) = y := by
  rcases hy with rfl | ⟨lo, rfl | ⟨m, e, h, rfl, hc, he, -⟩⟩
  · exact store_zero _
  · exact store_infinity _
  · exact store_of_canonical h hc he


/-! ## Whole numbers -/

theorem AtLeast.le_totalExponent {lo : Int} {m : Nat} {e : Int} {h : 0 < m}
    (hf : AtLeast lo (.finite .positive m e h)) : lo ≤ totalExponent m e := by
  obtain hf | ⟨m', e', h', heq, -, -, hlo⟩ := hf
  · cases hf
  · cases heq
    exact hlo

theorem mul_finite (s₁ s₂ : Sign) {m₁ m₂ : Nat} (e₁ e₂ : Int) (h₁ : 0 < m₁) (h₂ : 0 < m₂) :
    UnpackedFloat.mul Format.binary64 (.finite s₁ m₁ e₁ h₁) (.finite s₂ m₂ e₂ h₂) =
      roundWithAccuracy Format.binary64 (s₁ * s₂) (m₁ * m₂) (e₁ + e₂) .exact := rfl

theorem ofNat_eq_round {n : Nat} (hn : n ≠ 0) :
    UnpackedFloat.ofNat Format.binary64 n = UnpackedFloat.round Format.binary64 .positive n 0 := by
  unfold UnpackedFloat.ofNat UnpackedFloat.ofInt
  rw [normalize_of_pos _ _ (by omega), Int.toNat_natCast]

/-- The double for one, by which a small whole number is multiplied on its way in. -/
theorem unpack_powerOfTen_zero :
    (getElem Float.exactlyRepresentablePowersOfTen 0 (by decide)).toModel.unpack =
      .finite .positive (2 ^ 52) (-52) (Nat.two_pow_pos 52) := by
  show (Float.ofBits 0x3FF0000000000000).toModel.unpack = _
  rfl

/-- A whole number below `2^53` becomes a double exactly, then is multiplied by one. -/
theorem unpack_ofNat_of_lt {n : Nat} (h : n < 2 ^ 53) :
    n.toFloat.toModel.unpack =
      store (UnpackedFloat.mul Format.binary64 (store (UnpackedFloat.ofNat Format.binary64 n))
        (.finite .positive (2 ^ 52) (-52) (Nat.two_pow_pos 52))) := by
  show (Float.ofScientific n false 0).toModel.unpack = _
  unfold Float.ofScientific
  rw [dif_pos ⟨h, by decide⟩]
  have hn : n.toUInt64.toNat = n := UInt64.toNat_ofNat_of_lt' (by
    have : (2 : Nat) ^ 53 < UInt64.size := by decide
    omega)
  show store (UnpackedFloat.mul Format.binary64
    (store (UnpackedFloat.ofNat Format.binary64 n.toUInt64.toNat))
    (getElem Float.exactlyRepresentablePowersOfTen 0 (by decide)).toModel.unpack) = _
  rw [hn, unpack_powerOfTen_zero]

/-- A larger whole number is rounded from `n * 2^53` at exponent `-53`. -/
theorem unpack_ofNat_of_ge {n : Nat} (h : 2 ^ 53 ≤ n) :
    n.toFloat.toModel.unpack =
      store (roundWithAccuracy Format.binary64 .positive (n * 2 ^ 53) (-53) .exact) := by
  show (Float.ofScientific n false 0).toModel.unpack = _
  unfold Float.ofScientific
  rw [dif_neg (by omega)]
  show store (UnpackedFloat.ofScientific Format.binary64 n 0) = _
  have h11 : (2 : Int) ^ Format.binary64.exponentBits = 2048 := by decide
  unfold UnpackedFloat.ofScientific
  rw [dif_neg (by omega), if_neg (by decide), if_neg (by rw [h11]; omega), if_pos (by decide),
    mul_finite]
  have hm : n <<< Format.binary64.mantissaBits * 10 ^ Int.toNat 0 = n * 2 ^ 53 := by
    rw [show Int.toNat 0 = 0 from rfl, Nat.pow_zero, Nat.mul_one, Nat.shiftLeft_eq]
    rfl
  have he : -(Format.binary64.mantissaBits : Int) + 0 = -53 := rfl
  rw [hm, he]
  rfl

/-- A whole number other than zero is a positive double with its leading digit at its binary
length, or up to two above. -/
theorem ofNat_magnitude {n : Nat} (hn : n ≠ 0) :
    AtLeast (n.log2 + 1) n.toFloat.toModel.unpack ∧
      (n.log2 + 3 ≤ 1024 → AtMost (n.log2 + 3) n.toFloat.toModel.unpack) := by
  have hpos : Sign.positive * Sign.positive = .positive := rfl
  by_cases hsmall : n < 2 ^ 53
  · -- rounded exactly, then multiplied by one, which keeps the leading digit
    have hL : n.log2 ≤ 52 := Nat.lt_succ_iff.1 ((Nat.log2_lt hn).2 hsmall)
    have ht : totalExponent n 0 = n.log2 + 1 := by simp only [totalExponent]; omega
    obtain ⟨hat, hmost⟩ := store_round (m := n) (e := 0) hn (by omega)
    obtain ⟨m₁, e₁, h₁, heq, -, -, hhi⟩ := hmost (by omega)
    rw [heq] at hat
    have hlo := hat.le_totalExponent
    have hc : m₁ * 2 ^ 52 ≠ 0 := Nat.mul_ne_zero (by omega) (by decide)
    have hlog := log2_mul_two_pow (m := m₁) (by omega) 52
    have htot : totalExponent (m₁ * 2 ^ 52) (e₁ + -52) = totalExponent m₁ e₁ := by
      simp only [totalExponent, hlog]
      omega
    rw [unpack_ofNat_of_lt hsmall, ofNat_eq_round hn, heq, mul_finite, hpos]
    obtain ⟨hat', hmost'⟩ :=
      store_roundWithAccuracy .exact (e := e₁ + -52) hc (by omega) (.inl (by omega))
    exact ⟨hat'.mono (by omega), fun hfit => (hmost' (by omega)).mono (by omega)⟩
  · -- rounded from `n * 2^53` at exponent `-53`
    have hc : n * 2 ^ 53 ≠ 0 := Nat.mul_ne_zero hn (by decide)
    have hlog := log2_mul_two_pow hn 53
    have htot : totalExponent (n * 2 ^ 53) (-53) = n.log2 + 1 := by
      simp only [totalExponent, hlog]
      omega
    rw [unpack_ofNat_of_ge (by omega)]
    obtain ⟨hat, hmost⟩ :=
      store_roundWithAccuracy .exact (e := -53) hc (by omega) (.inl (by omega))
    exact ⟨hat.mono (by omega), fun hfit => (hmost (by omega)).mono (by omega)⟩

theorem unpack_ofNat_zero : (0 : Nat).toFloat.toModel.unpack = .zero .positive := rfl


/-! ## Signs and comparisons with zero -/

/-- Whether a double lies below zero. -/
def Negative : UnpackedFloat → Prop
  | .finite .negative .. => True
  | .infinity .negative => True
  | _ => False

/-- A stored quotient of zero or a positive value by a positive value never lies below zero:
zero, positive, positive infinity, or, for infinity over infinity, not a number. -/
theorem not_negative_store_div {lo lo' : Int} {x y : UnpackedFloat}
    (hx : x = .zero .positive ∨ AtLeast lo x) (hy : AtLeast lo' y) :
    ¬ Negative (store (UnpackedFloat.div Format.binary64 x y)) := by
  rcases hx with rfl | rfl | ⟨m₁, e₁, h₁, rfl, -⟩
  · rw [store_div_zero hy]
    exact id
  · obtain rfl | ⟨m₂, e₂, h₂, rfl, -⟩ := hy
    · exact id
    · change ¬ Negative (store (.infinity .positive))
      rw [store_infinity]
      exact id
  · obtain rfl | ⟨m₂, e₂, h₂, rfl, -⟩ := hy
    · change ¬ Negative (store (.zero .positive))
      rw [store_zero]
      exact id
    · rw [div_finite]
      rcases roundWithAccuracy_shape (.positive / .positive) _ _ _ with
        h | ⟨m', e', h', h, hlt, hge⟩
      · rw [h]
        change ¬ Negative (store (.zero .positive))
        rw [store_zero]
        exact id
      · rw [h]
        change ¬ Negative (store (.finite .positive m' e' h'))
        rcases store_finite_shape h' hlt hge with hs | ⟨m'', e'', h'', hs⟩ <;> rw [hs] <;> exact id

theorem unpack_zero : (0 : Float).toModel.unpack = .zero .positive := rfl

theorem unpack_div (x y : Float) :
    (x / y).toModel.unpack =
      store (UnpackedFloat.div Format.binary64 x.toModel.unpack y.toModel.unpack) := rfl

theorem unpack_add (x y : Float) :
    (x + y).toModel.unpack =
      store (UnpackedFloat.add Format.binary64 x.toModel.unpack y.toModel.unpack) := rfl

theorem lt_iff_compare (x y : Float) :
    x < y ↔ x.toModel.unpack.compare y.toModel.unpack = some .lt := by
  show Float.lt x y = true ↔ _
  unfold Float.lt
  rw [decide_eq_true_iff]
  show Float.Model.lt _ _ = true ↔ _
  unfold Float.Model.lt UnpackedFloat.lt
  simp

theorem le_iff_compare (x y : Float) :
    x ≤ y ↔ (x.toModel.unpack.compare y.toModel.unpack).any (·.isLE) := by
  show Float.le x y = true ↔ _
  unfold Float.le
  rw [decide_eq_true_iff]
  show Float.Model.le _ _ = true ↔ _
  unfold Float.Model.le UnpackedFloat.le
  rfl

/-- A double lies below zero exactly when it is a negative finite value or negative infinity. -/
theorem lt_zero_iff (x : Float) : x < 0 ↔ Negative x.toModel.unpack := by
  rw [lt_iff_compare, unpack_zero]
  rcases x.toModel.unpack with (_ | _) | _ | (_ | _) | ⟨_ | _, _, _, _⟩ <;>
    simp [UnpackedFloat.compare, Negative]

theorem zero_lt_of_atLeast {lo : Int} {x : Float} (h : AtLeast lo x.toModel.unpack) : 0 < x := by
  rw [lt_iff_compare, unpack_zero]
  obtain h | ⟨m, e, hm, h, -⟩ := h <;> rw [h] <;> rfl

theorem not_le_zero_of_atLeast {lo : Int} {x : Float} (h : AtLeast lo x.toModel.unpack) :
    ¬ x ≤ 0 := by
  rw [le_iff_compare, unpack_zero]
  obtain h | ⟨m, e, hm, h, -⟩ := h <;> rw [h] <;> simp [UnpackedFloat.compare]

theorem le_zero_of_unpack_zero {x : Float} (h : x.toModel.unpack = .zero .positive) : x ≤ 0 := by
  rw [le_iff_compare, unpack_zero, h]
  decide

end DownloadEngine.Binary64
