/-!
# Hexadecimal digits

The sixteen digits `0` to `9` and `a` to `f`, letters in either case, and numbers written
with them.

## Main statements

* `hexDigitValue?_lt`: a digit's value is below sixteen.
-/

namespace DownloadEngine.Text

/-- The value of a hexadecimal digit, letters in either case. -/
def hexDigitValue? (c : Char) : Option Nat :=
  if '0' ≤ c ∧ c ≤ '9' then some (c.toNat - '0'.toNat)
  else if 'a' ≤ c ∧ c ≤ 'f' then some (c.toNat - 'a'.toNat + 10)
  else if 'A' ≤ c ∧ c ≤ 'F' then some (c.toNat - 'A'.toNat + 10)
  else none

/-- The number written in hexadecimal digits, or `none` if a character is not one; no digits
read as zero. -/
def readHex? (cs : List Char) : Option Nat :=
  cs.foldlM (fun acc c => (hexDigitValue? c).map (acc * 16 + ·)) 0

theorem toNat_le_of_le {c d : Char} (h : c ≤ d) : c.toNat ≤ d.toNat :=
  UInt32.le_iff_toNat_le.mp (Char.le_def.mp h)

theorem hexDigitValue?_lt (c : Char) (n : Nat) (h : hexDigitValue? c = some n) : n < 16 := by
  have h9 : '9'.toNat = 57 := rfl
  have hf : 'f'.toNat = 102 := rfl
  have hF : 'F'.toNat = 70 := rfl
  have h0 : '0'.toNat = 48 := rfl
  have ha : 'a'.toNat = 97 := rfl
  have hA : 'A'.toNat = 65 := rfl
  unfold hexDigitValue? at h
  split at h
  · rename_i hc
    cases h
    have := toNat_le_of_le hc.2
    omega
  · split at h
    · rename_i _ hc
      cases h
      have := toNat_le_of_le hc.2
      omega
    · split at h
      · rename_i _ _ hc
        cases h
        have := toNat_le_of_le hc.2
        omega
      · cases h

end DownloadEngine.Text
