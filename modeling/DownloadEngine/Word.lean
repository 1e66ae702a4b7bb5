import DownloadEngine.Fault

/-!
# Unsigned words

Byte counts, offsets and thread counts are unsigned 64-bit words; attempt counters are 32-bit.
Values are natural numbers kept below a bound. Checked addition and subtraction report a
fault when the result leaves the word's range; the saturating forms stop at the bound.
-/

namespace DownloadEngine

/-- The largest unsigned 64-bit word, `2^64 - 1`. -/
def u64Max : Nat := 18446744073709551615

/-- The largest unsigned 32-bit word, `2^32 - 1`. -/
def u32Max : Nat := 4294967295

/-- The largest unsigned 16-bit word, `2^16 - 1`. -/
def u16Max : Nat := 65535

/-- Sum of two 64-bit words; leaving the range is the addition fault. -/
def addWord (a b : Nat) : Except Fault Nat :=
  if a + b ≤ u64Max then .ok (a + b) else .error .addOverflow

/-- Difference of two words; a negative result is the subtraction fault. -/
def subWord (a b : Nat) : Except Fault Nat :=
  if b ≤ a then .ok (a - b) else .error .subOverflow

/-- Sum of two 64-bit words, capped at the largest word. -/
def satAdd (a b : Nat) : Nat := min (a + b) u64Max

/-- Product of two 64-bit words, capped at the largest word. -/
def satMul (a b : Nat) : Nat := min (a * b) u64Max

@[simp] theorem addWord_ok_iff (a b c : Nat) :
    addWord a b = .ok c ↔ a + b ≤ u64Max ∧ c = a + b := by
  unfold addWord
  by_cases h : a + b ≤ u64Max
  · simp [h, eq_comm]
  · simp [h]

@[simp] theorem subWord_ok_iff (a b c : Nat) : subWord a b = .ok c ↔ b ≤ a ∧ c = a - b := by
  unfold subWord
  by_cases h : b ≤ a
  · simp [h, eq_comm]
  · simp [h]

theorem satAdd_le (a b : Nat) : satAdd a b ≤ u64Max := Nat.min_le_right _ _

theorem satMul_le (a b : Nat) : satMul a b ≤ u64Max := Nat.min_le_right _ _

end DownloadEngine
