/-!
# UTF-8

Characters become one to four bytes. Reading bytes back is lossy: each maximal piece that
does not start a well-formed sequence becomes one U+FFFD replacement character, and reading
resumes at the first byte that does not continue the piece.
-/

namespace DownloadEngine.Text

/-- The UTF-8 bytes of one character. -/
def utf8Bytes (c : Char) : List UInt8 :=
  let v := c.val.toNat
  if v < 0x80 then [v.toUInt8]
  else if v < 0x800 then [(0xC0 + v / 64).toUInt8, (0x80 + v % 64).toUInt8]
  else if v < 0x10000 then
    [(0xE0 + v / 4096).toUInt8, (0x80 + v / 64 % 64).toUInt8, (0x80 + v % 64).toUInt8]
  else
    [(0xF0 + v / 262144).toUInt8, (0x80 + v / 4096 % 64).toUInt8,
      (0x80 + v / 64 % 64).toUInt8, (0x80 + v % 64).toUInt8]

/-- The UTF-8 bytes of a text. -/
def utf8 (s : String) : List UInt8 := s.toList.flatMap utf8Bytes

/-- Number of UTF-8 bytes of a character. -/
def utf8Length (c : Char) : Nat := (utf8Bytes c).length

/-- A continuation byte, `10xxxxxx`. -/
def isTrailing (b : UInt8) : Bool := 0x80 ≤ b && b ≤ 0xBF

/-- The replacement character U+FFFD. -/
def replacement : Char := '�'

/-- The character of a code point known to be valid. -/
def charOf (n : Nat) : Char := Char.ofNat n

/-- Bounds on the second byte of a sequence, by its first byte. -/
def secondRange (b : UInt8) : UInt8 × UInt8 :=
  if b = 0xE0 then (0xA0, 0xBF)
  else if b = 0xED then (0x80, 0x9F)
  else if b = 0xF0 then (0x90, 0xBF)
  else if b = 0xF4 then (0x80, 0x8F)
  else (0x80, 0xBF)

/-- Does `c` fit the second place after `b`? -/
def fitsSecond (b c : UInt8) : Bool :=
  let r := secondRange b
  r.1 ≤ c && c ≤ r.2

/-- The first character read from `b :: rest` and the bytes left after it. -/
def decodeStep (b : UInt8) (rest : List UInt8) : Char × List UInt8 :=
  if b < 0x80 then (charOf b.toNat, rest)
  else if 0xC2 ≤ b && b ≤ 0xDF then
    match rest with
    | c :: rest' =>
      if isTrailing c then (charOf ((b.toNat - 0xC0) * 64 + (c.toNat - 0x80)), rest')
      else (replacement, rest)
    | [] => (replacement, [])
  else if 0xE0 ≤ b && b ≤ 0xEF then
    match rest with
    | c1 :: rest1 =>
      if fitsSecond b c1 then
        match rest1 with
        | c2 :: rest2 =>
          if isTrailing c2 then
            (charOf ((b.toNat - 0xE0) * 4096 + (c1.toNat - 0x80) * 64 + (c2.toNat - 0x80)), rest2)
          else (replacement, rest1)
        | [] => (replacement, [])
      else (replacement, rest)
    | [] => (replacement, [])
  else if 0xF0 ≤ b && b ≤ 0xF4 then
    match rest with
    | c1 :: rest1 =>
      if fitsSecond b c1 then
        match rest1 with
        | c2 :: rest2 =>
          if isTrailing c2 then
            match rest2 with
            | c3 :: rest3 =>
              if isTrailing c3 then
                (charOf ((b.toNat - 0xF0) * 262144 + (c1.toNat - 0x80) * 4096 +
                  (c2.toNat - 0x80) * 64 + (c3.toNat - 0x80)), rest3)
              else (replacement, rest2)
            | [] => (replacement, [])
          else (replacement, rest1)
        | [] => (replacement, [])
      else (replacement, rest)
    | [] => (replacement, [])
  else (replacement, rest)

theorem decodeStep_length (b : UInt8) (rest : List UInt8) :
    (decodeStep b rest).2.length ≤ rest.length := by
  unfold decodeStep
  repeat' split
  all_goals simp
  all_goals omega

/-- Reads bytes as UTF-8, replacing each maximal ill-formed piece by U+FFFD. -/
def decodeLossyList : List UInt8 → List Char
  | [] => []
  | b :: rest => (decodeStep b rest).1 :: decodeLossyList (decodeStep b rest).2
termination_by bs => bs.length
decreasing_by
  have := decodeStep_length b rest
  simp
  omega

/-- Reads bytes as UTF-8 text, lossily. -/
def decodeLossy (bs : List UInt8) : String := String.ofList (decodeLossyList bs)

end DownloadEngine.Text
