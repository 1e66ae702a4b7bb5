import DownloadEngine.Text.Percent

/-!
# Percent decoding inverts percent-encoding

Reading UTF-8 back is exact on the bytes of a text: every character's encoding reads back as
that character, and reading resumes right after it (`decodeLossy_utf8`). Percent-encoding is
described by the relation `Spells enc b`: `enc` writes each byte of `b` either as itself, when
it is not `%`, or as `%` and the two hexadecimal digits of its value, in either case. Decoding
undoes every such spelling, and a `%` that two hexadecimal digits do not follow, also one among
the last two bytes, stands for itself.

## Main statements

* `decodeLossy_utf8`: the UTF-8 bytes of a text read back as the text.
* `percentDecodeBytes_of_spells`: decoding a spelling of `b` gives `b`.
* `percent_decoding_inverts_encoding`: decoding a text that spells `b` reads `b` as UTF-8; a
  text without `%` decodes to itself; a `%` with no escape after it is kept.
-/

namespace DownloadEngine.Text

/-! ## Reading UTF-8 back -/

theorem toNat_toUInt8 {n : Nat} (h : n < 256) : n.toUInt8.toNat = n := by
  simp
  omega

theorem isTrailing_iff {b : UInt8} : isTrailing b = true ↔ 0x80 ≤ b.toNat ∧ b.toNat ≤ 0xBF := by
  simp [isTrailing, UInt8.le_iff_toNat_le]

/-- The second byte of a sequence is a continuation byte, narrowed after `E0`, `ED`, `F0` and
`F4` so that no overlong form, surrogate or code point past U+10FFFF is read. -/
theorem fitsSecond_iff {b c : UInt8} :
    fitsSecond b c = true ↔
      0x80 ≤ c.toNat ∧ c.toNat ≤ 0xBF ∧ (b.toNat = 0xE0 → 0xA0 ≤ c.toNat) ∧
      (b.toNat = 0xED → c.toNat ≤ 0x9F) ∧ (b.toNat = 0xF0 → 0x90 ≤ c.toNat) ∧
      (b.toNat = 0xF4 → c.toNat ≤ 0x8F) := by
  simp only [fitsSecond, secondRange]
  repeat' split
  all_goals simp_all [UInt8.le_iff_toNat_le, ← UInt8.toNat_inj]
  all_goals omega

theorem decodeStep_one {b : UInt8} (rest : List UInt8) (hb : b.toNat < 0x80) :
    decodeStep b rest = (charOf b.toNat, rest) := by
  rw [decodeStep.eq_def, if_pos (UInt8.lt_iff_toNat_lt.mpr hb)]

theorem decodeStep_two {b c : UInt8} (rest : List UInt8) (hb : 0xC2 ≤ b.toNat ∧ b.toNat ≤ 0xDF)
    (hc : isTrailing c = true) :
    decodeStep b (c :: rest) = (charOf ((b.toNat - 0xC0) * 64 + (c.toNat - 0x80)), rest) := by
  have n1 : ¬ b < 0x80 := by rw [UInt8.lt_iff_toNat_lt]; simp; omega
  have p2 : (0xC2 ≤ b && b ≤ 0xDF) = true := by simp [UInt8.le_iff_toNat_le]; omega
  rw [decodeStep.eq_def, if_neg n1, if_pos p2]
  simp only [hc, if_true]

theorem decodeStep_three {b c1 c2 : UInt8} (rest : List UInt8)
    (hb : 0xE0 ≤ b.toNat ∧ b.toNat ≤ 0xEF) (h1 : fitsSecond b c1 = true)
    (h2 : isTrailing c2 = true) :
    decodeStep b (c1 :: c2 :: rest) =
      (charOf ((b.toNat - 0xE0) * 4096 + (c1.toNat - 0x80) * 64 + (c2.toNat - 0x80)), rest) := by
  have n1 : ¬ b < 0x80 := by rw [UInt8.lt_iff_toNat_lt]; simp; omega
  have n2 : (0xC2 ≤ b && b ≤ 0xDF) = false := by simp [UInt8.le_iff_toNat_le]; omega
  have p3 : (0xE0 ≤ b && b ≤ 0xEF) = true := by simp [UInt8.le_iff_toNat_le]; omega
  rw [decodeStep.eq_def, if_neg n1, if_neg (by simp [n2]), if_pos p3]
  simp only [h1, h2, if_true]

theorem decodeStep_four {b c1 c2 c3 : UInt8} (rest : List UInt8)
    (hb : 0xF0 ≤ b.toNat ∧ b.toNat ≤ 0xF4) (h1 : fitsSecond b c1 = true)
    (h2 : isTrailing c2 = true) (h3 : isTrailing c3 = true) :
    decodeStep b (c1 :: c2 :: c3 :: rest) =
      (charOf ((b.toNat - 0xF0) * 262144 + (c1.toNat - 0x80) * 4096 + (c2.toNat - 0x80) * 64 +
        (c3.toNat - 0x80)), rest) := by
  have n1 : ¬ b < 0x80 := by rw [UInt8.lt_iff_toNat_lt]; simp; omega
  have n2 : (0xC2 ≤ b && b ≤ 0xDF) = false := by simp [UInt8.le_iff_toNat_le]; omega
  have n3 : (0xE0 ≤ b && b ≤ 0xEF) = false := by simp [UInt8.le_iff_toNat_le]; omega
  have p4 : (0xF0 ≤ b && b ≤ 0xF4) = true := by simp [UInt8.le_iff_toNat_le]; omega
  rw [decodeStep.eq_def, if_neg n1, if_neg (by simp [n2]), if_neg (by simp [n3]), if_pos p4]
  simp only [h1, h2, h3, if_true]

theorem decodeLossyList_cons (b : UInt8) (rest : List UInt8) :
    decodeLossyList (b :: rest) =
      (decodeStep b rest).1 :: decodeLossyList (decodeStep b rest).2 := by
  rw [decodeLossyList]

/-- A character's encoding reads back as the character, and reading goes on right after it. -/
theorem decodeLossyList_utf8Bytes_append (c : Char) (rest : List UInt8) :
    decodeLossyList (utf8Bytes c ++ rest) = c :: decodeLossyList rest := by
  have hvalid := c.valid
  simp only [UInt32.isValidChar, Nat.isValidChar] at hvalid
  have hc : charOf c.val.toNat = c := Char.ofNat_toNat c
  have hmax : c.val.toNat < 0x110000 := by omega
  generalize hv : c.val.toNat = v at hvalid hc hmax
  -- one case per length of the encoding; the surrogate gap keeps `ED` sequences below `A0`
  by_cases h1 : v < 0x80
  · rw [utf8Bytes, hv, if_pos h1, List.singleton_append, decodeLossyList_cons,
      decodeStep_one rest (by rw [toNat_toUInt8 (by omega)]; omega), toNat_toUInt8 (by omega), hc]
  by_cases h2 : v < 0x800
  · have b0 := toNat_toUInt8 (n := 0xC0 + v / 64) (by omega)
    have b1 := toNat_toUInt8 (n := 0x80 + v % 64) (by omega)
    rw [utf8Bytes, hv, if_neg h1, if_pos h2, List.cons_append, List.singleton_append,
      decodeLossyList_cons, decodeStep_two _ (by omega) (isTrailing_iff.mpr (by omega)), b0, b1,
      show (0xC0 + v / 64 - 0xC0) * 64 + (0x80 + v % 64 - 0x80) = v by omega, hc]
  by_cases h3 : v < 0x10000
  · have b0 := toNat_toUInt8 (n := 0xE0 + v / 4096) (by omega)
    have b1 := toNat_toUInt8 (n := 0x80 + v / 64 % 64) (by omega)
    have b2 := toNat_toUInt8 (n := 0x80 + v % 64) (by omega)
    rw [utf8Bytes, hv, if_neg h1, if_neg h2, if_pos h3, List.cons_append, List.cons_append,
      List.singleton_append, decodeLossyList_cons,
      decodeStep_three _ (by omega) (fitsSecond_iff.mpr (by omega)) (isTrailing_iff.mpr (by omega)),
      b0, b1, b2,
      show (0xE0 + v / 4096 - 0xE0) * 4096 + (0x80 + v / 64 % 64 - 0x80) * 64 +
        (0x80 + v % 64 - 0x80) = v by omega, hc]
  · have b0 := toNat_toUInt8 (n := 0xF0 + v / 262144) (by omega)
    have b1 := toNat_toUInt8 (n := 0x80 + v / 4096 % 64) (by omega)
    have b2 := toNat_toUInt8 (n := 0x80 + v / 64 % 64) (by omega)
    have b3 := toNat_toUInt8 (n := 0x80 + v % 64) (by omega)
    rw [utf8Bytes, hv, if_neg h1, if_neg h2, if_neg h3, List.cons_append, List.cons_append,
      List.cons_append, List.singleton_append, decodeLossyList_cons,
      decodeStep_four _ (by omega) (fitsSecond_iff.mpr (by omega)) (isTrailing_iff.mpr (by omega))
        (isTrailing_iff.mpr (by omega)),
      b0, b1, b2, b3,
      show (0xF0 + v / 262144 - 0xF0) * 262144 + (0x80 + v / 4096 % 64 - 0x80) * 4096 +
        (0x80 + v / 64 % 64 - 0x80) * 64 + (0x80 + v % 64 - 0x80) = v by omega, hc]

theorem decodeLossyList_flatMap_utf8Bytes (cs : List Char) :
    decodeLossyList (cs.flatMap utf8Bytes) = cs := by
  induction cs with
  | nil => simp [decodeLossyList]
  | cons c cs ih => rw [List.flatMap_cons, decodeLossyList_utf8Bytes_append, ih]

@[simp] theorem decodeLossy_utf8 (s : String) : decodeLossy (utf8 s) = s := by
  rw [decodeLossy, utf8, decodeLossyList_flatMap_utf8Bytes, String.ofList_toList]

@[simp] theorem utf8_ofList (cs : List Char) : utf8 (String.ofList cs) = cs.flatMap utf8Bytes := by
  simp [utf8]

/-! ## ASCII bytes -/

/-- An ASCII byte stands in a character's encoding only as that character: every byte of a
longer form has its top bit set. -/
theorem mem_utf8Bytes_of_lt {x : UInt8} (hx : x.toNat < 0x80) (c : Char) :
    x ∈ utf8Bytes c ↔ c.toNat = x.toNat := by
  have hv : c.toNat = c.val.toNat := rfl
  have hlt : c.val.toNat < 0x110000 := by
    have h := c.valid
    simp [UInt32.isValidChar, Nat.isValidChar] at h
    omega
  rw [hv]
  dsimp only [utf8Bytes]
  split
  · simp [← UInt8.toNat_inj]
    omega
  · split
    · simp [← UInt8.toNat_inj]
      omega
    · split <;> simp [← UInt8.toNat_inj] <;> omega

theorem percentByte_mem_utf8 (s : String) : percentByte ∈ utf8 s ↔ '%' ∈ s.toList := by
  have hc : ∀ c : Char, c.toNat = percentByte.toNat ↔ c = '%' := fun c =>
    ⟨fun h => Char.ext (UInt32.toNat_inj.1 (by simpa [percentByte] using h)), fun h => h ▸ rfl⟩
  simp [utf8, mem_utf8Bytes_of_lt (by decide : percentByte.toNat < 0x80), hc]

/-! ## Hexadecimal digits -/

/-- `d` is an ASCII hexadecimal digit of value `n`: `0`–`9`, or `A`–`F` or `a`–`f` for ten to
fifteen. -/
def IsHexDigit (d : UInt8) (n : Nat) : Prop :=
  (n < 10 ∧ d.toNat = 0x30 + n) ∨
    (10 ≤ n ∧ n < 16 ∧ (d.toNat = 0x41 + (n - 10) ∨ d.toNat = 0x61 + (n - 10)))

instance (d : UInt8) (n : Nat) : Decidable (IsHexDigit d n) :=
  inferInstanceAs (Decidable (_ ∨ _))

theorem hexValue?_eq_some_iff {d : UInt8} {n : Nat} : hexValue? d = some n ↔ IsHexDigit d n := by
  unfold hexValue? IsHexDigit
  repeat' split
  all_goals simp_all [UInt8.le_iff_toNat_le]
  all_goals omega

/-! ## Spellings -/

/-- `enc` spells the bytes `b`: it writes each byte as itself, unless the byte is `%`, or as `%`
followed by the two hexadecimal digits of its value, in either case. -/
inductive Spells : List UInt8 → List UInt8 → Prop
  | nil : Spells [] []
  | literal {enc b : List UInt8} {x : UInt8} :
      x ≠ percentByte → Spells enc b → Spells (x :: enc) (x :: b)
  | escape {enc b : List UInt8} {x hi lo : UInt8} :
      IsHexDigit hi (x.toNat / 16) → IsHexDigit lo (x.toNat % 16) → Spells enc b →
        Spells (percentByte :: hi :: lo :: enc) (x :: b)

/-- Bytes without `%` spell themselves. -/
theorem spells_self {bs : List UInt8} (h : percentByte ∉ bs) : Spells bs bs := by
  induction bs with
  | nil => exact .nil
  | cons x bs ih =>
    rw [List.mem_cons, not_or] at h
    exact .literal (Ne.symm h.1) (ih h.2)

theorem percentDecodeBytes_cons_of_ne {x : UInt8} (hx : x ≠ percentByte) (rest : List UInt8) :
    percentDecodeBytes (x :: rest) = x :: percentDecodeBytes rest := by
  match rest with
  | [] => simp [percentDecodeBytes]
  | [_] => simp [percentDecodeBytes]
  | _ :: _ :: _ => rw [percentDecodeBytes, if_neg hx]

theorem percentDecodeBytes_escape {hi lo : UInt8} {a b : Nat} (ha : hexValue? hi = some a)
    (hb : hexValue? lo = some b) (rest : List UInt8) :
    percentDecodeBytes (percentByte :: hi :: lo :: rest) =
      (a * 16 + b).toUInt8 :: percentDecodeBytes rest := by
  simp [percentDecodeBytes, ha, hb]

/-- A `%` that two hexadecimal digits do not follow stands for itself, and decoding goes on at
the next byte; with fewer than two bytes after it nothing past the end is read. -/
theorem percentDecodeBytes_percent_of_not_escape {rest : List UInt8}
    (h : ¬ ∃ hi lo t a b, rest = hi :: lo :: t ∧ IsHexDigit hi a ∧ IsHexDigit lo b) :
    percentDecodeBytes (percentByte :: rest) = percentByte :: percentDecodeBytes rest := by
  match rest with
  | [] => simp [percentDecodeBytes]
  | [_] => simp [percentDecodeBytes]
  | hi :: lo :: t =>
    rw [percentDecodeBytes, if_pos rfl]
    cases ha : hexValue? hi with
    | none => rfl
    | some a =>
      cases hb : hexValue? lo with
      | none => rfl
      | some b =>
        exact absurd ⟨hi, lo, t, a, b, rfl, hexValue?_eq_some_iff.mp ha,
          hexValue?_eq_some_iff.mp hb⟩ h

/-- Decoding undoes every spelling. -/
theorem percentDecodeBytes_of_spells {enc b : List UInt8} (h : Spells enc b) :
    percentDecodeBytes enc = b := by
  induction h with
  | nil => simp [percentDecodeBytes]
  | literal hx _ ih => rw [percentDecodeBytes_cons_of_ne hx, ih]
  | @escape _ _ x _ _ hhi hlo _ ih =>
    rw [percentDecodeBytes_escape (hexValue?_eq_some_iff.mpr hhi) (hexValue?_eq_some_iff.mpr hlo),
      ih, show x.toNat / 16 * 16 + x.toNat % 16 = x.toNat by omega]
    simp

/-- A text without `%` decodes to itself. -/
theorem percentDecodeLossy_of_not_mem {s : String} (h : '%' ∉ s.toList) :
    percentDecodeLossy s = s := by
  rw [percentDecodeLossy, percentDecodeBytes_of_spells (spells_self (mt (percentByte_mem_utf8 s).mp h)),
    decodeLossy_utf8]

/-- Percent decoding inverts percent-encoding. A text whose bytes spell `b` decodes to `b` read
as UTF-8; a text without `%` decodes to itself; and a `%` that two hexadecimal digits do not
follow is kept, decoding going on at the next byte. -/
theorem percent_decoding_inverts_encoding :
    (∀ (b : List UInt8) (e : String), Spells (utf8 e) b → percentDecodeLossy e = decodeLossy b) ∧
    (∀ s : String, '%' ∉ s.toList → percentDecodeLossy s = s) ∧
    (∀ rest : List UInt8,
      (¬ ∃ hi lo t a b, rest = hi :: lo :: t ∧ IsHexDigit hi a ∧ IsHexDigit lo b) →
        percentDecodeBytes (percentByte :: rest) = percentByte :: percentDecodeBytes rest) := by
  refine ⟨fun b e h => ?_, fun s hs => percentDecodeLossy_of_not_mem hs,
    fun rest h => percentDecodeBytes_percent_of_not_escape h⟩
  rw [percentDecodeLossy, percentDecodeBytes_of_spells h]

/-- The escapes of `é` in `caf%C3%A9` decode to it, a text without `%` decodes to itself, and the
`%` before `zz` stays. -/
theorem percent_decoding_inverts_encoding_at_cafe :
    (Spells (utf8 "caf%C3%A9") (utf8 "café") ∧
      percentDecodeLossy "caf%C3%A9" = decodeLossy (utf8 "café")) ∧
    ('%' ∉ "café".toList ∧ percentDecodeLossy "café" = "café") ∧
    ((¬ ∃ hi lo t a b, [0x7A, 0x7A] = hi :: lo :: t ∧ IsHexDigit hi a ∧ IsHexDigit lo b) ∧
      percentDecodeBytes [percentByte, 0x7A, 0x7A] =
        percentByte :: percentDecodeBytes [0x7A, 0x7A]) := by
  have hspells : Spells (utf8 "caf%C3%A9") (utf8 "café") := by
    have e : utf8 "caf%C3%A9" = [0x63, 0x61, 0x66, percentByte, 0x43, 0x33, percentByte, 0x41, 0x39] := by
      decide
    have b : utf8 "café" = [0x63, 0x61, 0x66, 0xC3, 0xA9] := by decide
    rw [e, b]
    exact .literal (by decide) <| .literal (by decide) <| .literal (by decide) <|
      .escape (by decide) (by decide) <| .escape (by decide) (by decide) .nil
  have hnone : '%' ∉ "café".toList := by decide
  have hzz : ¬ ∃ hi lo t a b, ([0x7A, 0x7A] : List UInt8) = hi :: lo :: t ∧ IsHexDigit hi a ∧
      IsHexDigit lo b := by
    rintro ⟨hi, lo, t, a, b, he, hh, -⟩
    obtain ⟨rfl, -, -⟩ : 0x7A = hi ∧ 0x7A = lo ∧ [] = t := by simpa using he
    unfold IsHexDigit at hh
    have : (0x7A : UInt8).toNat = 122 := rfl
    omega
  exact ⟨⟨hspells, percent_decoding_inverts_encoding.1 _ _ hspells⟩,
    ⟨hnone, percent_decoding_inverts_encoding.2.1 _ hnone⟩,
    ⟨hzz, percent_decoding_inverts_encoding.2.2 _ hzz⟩⟩

example : percentDecodeLossy "%zz%41" = "%zzA" := by
  rw [percentDecodeLossy, show percentDecodeBytes (utf8 "%zz%41") = utf8 "%zzA" by
    simp [percentDecodeBytes, utf8, utf8Bytes, hexValue?, percentByte], decodeLossy_utf8]

end DownloadEngine.Text
