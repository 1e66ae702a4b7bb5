/-!
# Punycode

The bootstring encoding of a domain label: the label's ASCII characters in order, then, if
there were any, a `-`, then the other code points as variable-length base-36 deltas in
increasing code point order, with an adaptive bias deciding where each delta ends.
-/

namespace DownloadEngine.Url.Punycode

/-- The character of a base-36 digit: `a` to `z`, then `0` to `9`. -/
def digitChar (d : Nat) : Char :=
  if d < 26 then Char.ofNat ('a'.toNat + d) else Char.ofNat ('0'.toNat + d - 26)

/-- The value of a base-36 digit, letters in either case. -/
def digitValue? (c : Char) : Option Nat :=
  if 'a' ≤ c ∧ c ≤ 'z' then some (c.toNat - 'a'.toNat)
  else if 'A' ≤ c ∧ c ≤ 'Z' then some (c.toNat - 'A'.toNat)
  else if '0' ≤ c ∧ c ≤ '9' then some (c.toNat - '0'.toNat + 26)
  else none

/-- The digit threshold at position `k` for `bias`, between 1 and 26. -/
def threshold (k bias : Nat) : Nat :=
  if k ≤ bias then 1 else if k ≥ bias + 26 then 26 else k - bias

theorem threshold_pos (k bias : Nat) : 1 ≤ threshold k bias := by
  unfold threshold; split <;> (try split) <;> omega

theorem threshold_le (k bias : Nat) : threshold k bias ≤ 26 := by
  unfold threshold; split <;> (try split) <;> omega

/-- Divides the delta by 35 until it is at most 455, counting 36 per division. -/
def scaleDown (delta k : Nat) : Nat × Nat :=
  if delta > 455 then scaleDown (delta / 35) (k + 36) else (delta, k)
termination_by delta
decreasing_by omega

/-- The new bias after a delta, for a label of `points` code points so far. -/
def adapt (delta points : Nat) (first : Bool) : Nat :=
  let delta := if first then delta / 700 else delta / 2
  let delta := delta + delta / points
  let (d, k) := scaleDown delta 0
  k + 36 * d / (d + 38)

/-- The digits of one delta, least significant first. -/
def deltaDigits (bias k q : Nat) : List Char :=
  let t := threshold k bias
  if q < t then [digitChar q]
  else digitChar (t + (q - t) % (36 - t)) :: deltaDigits bias (k + 36) ((q - t) / (36 - t))
termination_by q
decreasing_by
  have := threshold_pos k bias
  have := threshold_le k bias
  have : (q - threshold k bias) / (36 - threshold k bias) ≤ q - threshold k bias :=
    Nat.div_le_self _ _
  omega

/-- What the encoder carries from one code point to the next. -/
structure Encoder where
  out : List Char
  delta : Nat
  bias : Nat
  handled : Nat

/-- Passes over one input code point while emitting the code points of value `m`. -/
def Encoder.visit (basic m : Nat) (e : Encoder) (c : Char) : Encoder :=
  if c.toNat < m then { e with delta := e.delta + 1 }
  else if c.toNat = m then
    { out := e.out ++ deltaDigits e.bias 36 e.delta, delta := 0,
      bias := adapt e.delta (e.handled + 1) (e.handled == basic), handled := e.handled + 1 }
  else e

/-- Emits the code points `todo` (increasing, distinct), `n` being the last one done plus one. -/
def Encoder.run (input : List Char) (basic : Nat) : List Nat → Nat → Encoder → Encoder
  | [], _, e => e
  | m :: rest, n, e =>
    let e := { e with delta := e.delta + (m - n) * (e.handled + 1) }
    let e := input.foldl (Encoder.visit basic m) e
    Encoder.run input basic rest (m + 1) { e with delta := e.delta + 1 }

/-- The code points at or above 128 of a label, increasing and without repeats. -/
def wideCodes (input : List Char) : List Nat :=
  ((input.map Char.toNat).filter (· ≥ 128)).mergeSort (· ≤ ·) |>.eraseDups

/-- The Punycode text of a label. -/
def encode (input : List Char) : String :=
  let basic := input.filter fun c => c.toNat < 128
  let start : Encoder := { out := [], delta := 0, bias := 72, handled := basic.length }
  let tail := (Encoder.run input basic.length (wideCodes input) 128 start).out
  String.ofList (basic ++ (if basic.isEmpty then [] else ['-']) ++ tail)

/-- Reads one delta; gives the grown index and the rest of the input. -/
def readDelta (bias : Nat) : List Char → Nat → Nat → Nat → Option (Nat × List Char)
  | [], _, _, _ => none
  | c :: rest, k, w, i => do
    let d ← digitValue? c
    let i := i + d * w
    let t := threshold k bias
    if d < t then some (i, rest)
    else readDelta bias rest (k + 36) (w * (36 - t)) i

theorem readDelta_shorter (bias : Nat) : ∀ (cs : List Char) (k w i : Nat) (r : Nat × List Char),
    readDelta bias cs k w i = some r → r.2.length < cs.length
  | [], _, _, _, _, h => by simp [readDelta] at h
  | c :: rest, k, w, i, r, h => by
    simp only [readDelta, Option.bind_eq_bind] at h
    cases hd : digitValue? c with
    | none => simp [hd] at h
    | some d =>
      simp only [hd, Option.bind_some] at h
      split at h
      · cases h; simp
      · have := readDelta_shorter bias rest _ _ _ r h
        simp; omega

/-- Whether a number is a Unicode scalar value. -/
def isScalar (n : Nat) : Bool := n < 0xD800 || (0xDFFF < n && n < 0x110000)

/-- Inserts the decoded code points one by one. -/
def insertAll (bias n i : Nat) (out : List Char) (cs : List Char) : Option (List Char) :=
  match cs with
  | [] => some out
  | c :: rest =>
    match h : readDelta bias (c :: rest) 36 1 i with
    | none => none
    | some (i', more) =>
      let points := out.length + 1
      let n' := n + i' / points
      let pos := i' % points
      if isScalar n' then
        insertAll (adapt (i' - i) points (i == 0)) n' (pos + 1) (out.insertIdx pos (Char.ofNat n')) more
      else none
termination_by cs.length
decreasing_by
  have := readDelta_shorter bias (c :: rest) 36 1 i (i', more) h
  simpa using this

/-- Decodes a Punycode text; the part before the last `-` is taken as it is and must be ASCII. -/
def decode (text : List Char) : Option (List Char) :=
  let (basic, ext) :=
    match text.reverse.span (· != '-') with
    | (revExt, []) => ([], revExt.reverse)
    | (revExt, _ :: revBasic) =>
      if revBasic.isEmpty then ([], text) else (revBasic.reverse, revExt.reverse)
  if basic.any (fun c => c.toNat ≥ 128) then none
  else insertAll 72 128 0 basic ext

end DownloadEngine.Url.Punycode
