import DownloadEngine.Retry.Policy

/-!
# Backoff delays

After attempt `n` failed in a way another attempt may mend, and below the attempt limit, a policy
waits `min(max_delay, base_delay * 2^min(n - 1, 8))`, the product saturating at the longest
duration. Every other failure, and every failure at the limit, ends the retries.

The policy's documentation describes plain doubling, `base_delay * 2^(n - 1)` capped at
`max_delay`. The exponent stops at eight, so from the tenth attempt on the delay stays at
`base_delay * 256`: the documented doubling holds up to the ninth attempt, and after it only for
a zero base delay, or once the capped product has reached `max_delay` or saturated.

## Main statements

* `Policy.decide_eq_noRetry_iff`, `Policy.decide_eq_retryAfter_iff`: what the policy decides.
* `Policy.delay_mono`: a later attempt never waits less.
* `Policy.delay_eq_documentedDelay_iff`: exactly when the delay is the documented one.
* `Policy.backoff_law`: the decision, its delay and how the delays grow, for every policy.
* `Policy.decide_tenth_attempt_stops_doubling`: a policy whose tenth delay is half the
  documented one.
-/

namespace DownloadEngine

theorem Duration.eq_iff_nanos {a b : Duration} : a = b ↔ a.nanos = b.nanos := by
  cases a
  cases b
  simp

@[simp] theorem Duration.satMul_nanos_eq (d : Duration) (k : Nat) :
    (d.satMul k).nanos = Min.min (d.nanos * k) Duration.max.nanos := by
  unfold Duration.satMul
  by_cases h : d.nanos * k ≤ Duration.max.nanos
  · rw [if_pos h]
    exact (Nat.min_eq_left h).symm
  · rw [if_neg h]
    exact (Nat.min_eq_right (by omega)).symm

@[simp] theorem Duration.min_nanos (a b : Duration) :
    (a.min b).nanos = Min.min a.nanos b.nanos := by
  unfold Duration.min
  split <;> omega

namespace Retry

@[simp] theorem Kind.retryable_eq_false_iff (k : Kind) : k.retryable = false ↔ k = .other := by
  cases k <;> simp [Kind.retryable]

theorem Kind.retryable_eq_true_iff (k : Kind) : k.retryable = true ↔ k ≠ .other := by
  cases k <;> simp [Kind.retryable]

namespace Policy

/-- The delay the policy's documentation gives after attempt `n`: `base_delay * 2^(n - 1)`,
saturating at the longest duration, and no longer than `max_delay`. -/
def documentedDelay (p : Policy) (n : Nat) : Duration :=
  (p.baseDelay.satMul (Nat.pow 2 (n - 1))).min p.maxDelay

theorem factor_mono {n m : Nat} (h : n ≤ m) : factor n ≤ factor m :=
  Nat.pow_le_pow_right (by decide) (by omega)

/-- Up to the ninth attempt the factor doubles with every attempt. -/
theorem factor_of_le {n : Nat} (h : n ≤ 9) : factor n = Nat.pow 2 (n - 1) := by
  rw [factor, Nat.min_eq_left (by omega)]

/-- From the ninth attempt on the factor stays at `2^8`. -/
theorem factor_of_ge {n : Nat} (h : 9 ≤ n) : factor n = 256 := by
  rw [factor, Nat.min_eq_right (by omega)]

theorem delay_nanos (p : Policy) (n : Nat) :
    (p.delay n).nanos =
      min (min (p.baseDelay.nanos * factor n) Duration.max.nanos) p.maxDelay.nanos := by
  simp only [delay, Duration.min_nanos, Duration.satMul_nanos_eq]

/-- A later attempt never waits less. -/
theorem delay_mono (p : Policy) {n m : Nat} (h : n ≤ m) :
    (p.delay n).nanos ≤ (p.delay m).nanos := by
  have hf : p.baseDelay.nanos * factor n ≤ p.baseDelay.nanos * factor m :=
    Nat.mul_le_mul_left _ (factor_mono h)
  rw [delay_nanos, delay_nanos]
  omega

theorem decide_eq_noRetry_iff (p : Policy) (n : Nat) (kind : Kind) :
    p.decide n kind = .noRetry ↔ p.maxAttempts ≤ n ∨ kind = .other := by
  unfold decide
  by_cases hm : p.maxAttempts ≤ n
  · simp [hm]
  · cases hk : kind.retryable
    · simp [hm, (Kind.retryable_eq_false_iff kind).1 hk]
    · simp [hm, (Kind.retryable_eq_true_iff kind).1 hk]

/-- A retry follows exactly a failure of a retryable kind below the attempt limit, after the
policy's delay. -/
theorem decide_eq_retryAfter_iff (p : Policy) (n : Nat) (kind : Kind) (d : Duration) :
    p.decide n kind = .retryAfter d ↔ n < p.maxAttempts ∧ kind ≠ .other ∧ d = p.delay n := by
  unfold decide
  by_cases hm : p.maxAttempts ≤ n
  · simp [hm, Nat.not_lt.2 hm]
  · cases hk : kind.retryable
    · simp [hm, (Kind.retryable_eq_false_iff kind).1 hk]
    · simp [hm, (Kind.retryable_eq_true_iff kind).1 hk, eq_comm]
      omega

/-- Up to the ninth attempt the delay is the documented one. -/
theorem delay_eq_documentedDelay_of_le (p : Policy) {n : Nat} (h : n ≤ 9) :
    p.delay n = p.documentedDelay n := by
  rw [delay, documentedDelay, factor_of_le h]

/-- The delay is the documented one exactly up to the ninth attempt, for a zero base delay, or
when the product at the capped exponent already reaches `max_delay` or saturates. -/
theorem delay_eq_documentedDelay_iff (p : Policy) (n : Nat) :
    p.delay n = p.documentedDelay n ↔
      n ≤ 9 ∨ p.baseDelay.nanos = 0 ∨ p.maxDelay.nanos ≤ (p.baseDelay.satMul 256).nanos ∨
        p.baseDelay.satMul 256 = Duration.max := by
  by_cases hn : n ≤ 9
  · simp [hn, delay_eq_documentedDelay_of_le p hn]
  · -- past the cap the documented factor is at least twice the one the policy uses
    have hpow : 512 ≤ Nat.pow 2 (n - 1) :=
      Nat.pow_le_pow_right (n := 2) (by decide) (show 9 ≤ n - 1 by omega)
    have hmul : p.baseDelay.nanos * 512 ≤ p.baseDelay.nanos * Nat.pow 2 (n - 1) :=
      Nat.mul_le_mul_left _ hpow
    have hzero : p.baseDelay.nanos = 0 → p.baseDelay.nanos * Nat.pow 2 (n - 1) = 0 := by
      intro h
      rw [h, Nat.zero_mul]
    simp only [Duration.eq_iff_nanos, delay, documentedDelay, factor_of_ge (show 9 ≤ n by omega),
      Duration.min_nanos, Duration.satMul_nanos_eq, hn, false_or]
    generalize p.baseDelay.nanos * Nat.pow 2 (n - 1) = doubled at hmul hzero
    omega

/-- The backoff of a policy. A failure gets no retry exactly at the attempt limit or when its
kind is final. A retry waits `min(max_delay, base_delay * 2^min(n - 1, 8))`, the product
saturating at the longest duration; that is the documented `base_delay * 2^(n - 1)` capped at
`max_delay` exactly when `delay_eq_documentedDelay_iff` says so. For a fixed kind, a later
retry never waits less, and no retry waits longer than `max_delay`. -/
theorem backoff_law (p : Policy) (kind : Kind) (n : Nat) :
    (p.decide n kind = .noRetry ↔ p.maxAttempts ≤ n ∨ kind = .other) ∧
    ∀ d, p.decide n kind = .retryAfter d →
      d.nanos = min (min (p.baseDelay.nanos * Nat.pow 2 (min (n - 1) 8)) Duration.max.nanos)
        p.maxDelay.nanos ∧
      (d = p.documentedDelay n ↔
        n ≤ 9 ∨ p.baseDelay.nanos = 0 ∨ p.maxDelay.nanos ≤ (p.baseDelay.satMul 256).nanos ∨
          p.baseDelay.satMul 256 = Duration.max) ∧
      ∀ m d', n ≤ m → p.decide m kind = .retryAfter d' →
        d.nanos ≤ d'.nanos ∧ d'.nanos ≤ p.maxDelay.nanos := by
  refine ⟨decide_eq_noRetry_iff p n kind, fun d hd => ?_⟩
  obtain ⟨-, -, rfl⟩ := (decide_eq_retryAfter_iff p n kind d).1 hd
  refine ⟨delay_nanos p n, delay_eq_documentedDelay_iff p n, fun m d' hnm hd' => ?_⟩
  obtain ⟨-, -, rfl⟩ := (decide_eq_retryAfter_iff p m kind d').1 hd'
  exact ⟨delay_mono p hnm, Duration.min_le_right _ _⟩

/-- With a base delay of one and a half seconds and at most a thousand, the tenth failure waits
384 seconds, where the documented doubling gives 768. -/
theorem decide_tenth_attempt_stops_doubling :
    (⟨50, Duration.ofParts 1 500000000, Duration.ofSecs 1000⟩ : Policy).decide 10 (.http5xx 599) =
        .retryAfter (Duration.ofSecs 384) ∧
      (⟨50, Duration.ofParts 1 500000000, Duration.ofSecs 1000⟩ : Policy).documentedDelay 10 =
        Duration.ofSecs 768 := by
  decide

end Policy

end Retry

end DownloadEngine
