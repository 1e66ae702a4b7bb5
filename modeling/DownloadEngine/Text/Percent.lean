import DownloadEngine.Text.Utf8

/-!
# Percent decoding

A `%` followed by two hexadecimal digits stands for the byte they spell; every other byte,
a `%` without two digits after it included, stands for itself. Decoding works on the bytes
of a text and reads the result as UTF-8, lossily.
-/

namespace DownloadEngine.Text

/-- The value of an ASCII hexadecimal digit, in either case. -/
def hexValue? (b : UInt8) : Option Nat :=
  if 0x30 ≤ b && b ≤ 0x39 then some (b.toNat - 0x30)
  else if 0x41 ≤ b && b ≤ 0x46 then some (b.toNat - 0x41 + 10)
  else if 0x61 ≤ b && b ≤ 0x66 then some (b.toNat - 0x61 + 10)
  else none

/-- The byte of `%`. -/
def percentByte : UInt8 := 0x25

/-- Replaces each `%` with two hexadecimal digits by the byte they spell. -/
def percentDecodeBytes : List UInt8 → List UInt8
  | [] => []
  | b :: tail@(h :: l :: rest) =>
    if b = percentByte then
      match hexValue? h, hexValue? l with
      | some x, some y => (x * 16 + y).toUInt8 :: percentDecodeBytes rest
      | _, _ => b :: percentDecodeBytes tail
    else b :: percentDecodeBytes tail
  | b :: rest => b :: percentDecodeBytes rest

/-- Percent-decodes a text and reads the bytes as UTF-8, lossily. -/
def percentDecodeLossy (s : String) : String := decodeLossy (percentDecodeBytes (utf8 s))

end DownloadEngine.Text
