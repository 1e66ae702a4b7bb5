import DownloadEngine.Text.Hex

/-!
# Numeric host addresses

An IPv4 host may be written with one to four dotted parts, each decimal, `0x` hexadecimal or
`0`-led octal, and the last part fills all the bytes the others leave. An IPv6 host is eight
groups of up to four hexadecimal digits, one run of groups may be left out as `::`, and the
last two groups may be written as a dotted IPv4 address. Written back, an IPv6 address leaves
out its first longest run of two or more zero groups.
-/

namespace DownloadEngine.Url

/-! ## IPv4 -/

/-- The value of digits in `radix` (8, 10 or 16); the empty text is zero. -/
def radixValue (radix : Nat) (digits : List Char) : Option Nat :=
  digits.foldl (fun acc c => do
    let v ← acc
    let d ← Text.hexDigitValue? c
    if d < radix then pure (v * radix + d) else none) (some 0)

/-- The value of one dotted part, of any size: `0x` or `0X` reads hexadecimal, another leading
`0` octal, and anything else decimal. -/
def ipv4Part? : List Char → Option Nat
  | [] => none
  | ['0'] => some 0
  | '0' :: x :: rest =>
    if x = 'x' ∨ x = 'X' then radixValue 16 rest else radixValue 8 (x :: rest)
  | cs => radixValue 10 cs

/-- The largest 32-bit value. -/
def ipv4Max : Nat := 4294967295

/-- A domain whose last label (a final empty label apart) is digits or a dotted part value is
to be read as an IPv4 address. -/
def endsInNumber (domain : String) : Bool :=
  match (domain.splitOn ".").reverse with
  | "" :: last :: _ => isNumberLabel last
  | [""] => false
  | last :: _ => isNumberLabel last
  | [] => false
where
  isNumberLabel (label : String) : Bool :=
    (label ≠ "" ∧ label.toList.all Char.isDigit) || (ipv4Part? label.toList).isSome

/-- Joins the part values: every part but the last is one byte, and the last fills the rest. -/
def ipv4Combine (front : List Nat) (last : Nat) : Option Nat :=
  if last > ipv4Max / Nat.pow 256 front.length then none
  else if front.any (· > 255) then none
  else some ((front.zipIdx.map fun (n, i) => n * Nat.pow 256 (3 - i)).foldl (· + ·) 0 + last)

/-- Reads an IPv4 address out of a domain that ends in a number. -/
def parseIpv4 (domain : String) : Option Nat := do
  let parts := domain.splitOn "."
  let parts := if parts.getLast? = some "" then parts.dropLast else parts
  if parts.length > 4 then none
  let values ← parts.mapM fun p => ipv4Part? p.toList
  if values.any (· > ipv4Max) then none
  match values.reverse with
  | last :: front => ipv4Combine front.reverse last
  | [] => none

/-- The dotted decimal text of an IPv4 address. -/
def ipv4Text (address : Nat) : String :=
  ".".intercalate ([3, 2, 1, 0].map fun i => toString (address / Nat.pow 256 i % 256))

/-! ## IPv6 -/

/-- Up to four hexadecimal digits at the front of a text, and what follows them. -/
def hexGroup (cs : List Char) : List Char × List Char :=
  let digits := (cs.take 4).takeWhile fun c => (Text.hexDigitValue? c).isSome
  (digits, cs.drop digits.length)

theorem hexGroup_rest_length (cs : List Char) :
    (hexGroup cs).2.length ≤ cs.length := by
  simp [hexGroup]

/-- A dotted IPv4 address inside an IPv6 one: exactly four decimal parts of at most 255, none
with a leading zero. -/
def embeddedIpv4? (cs : List Char) : Option (Nat × Nat) :=
  match (String.ofList cs).splitOn "." with
  | [a, b, c, d] => do
    let part (p : String) : Option Nat :=
      match p.toList with
      | [] => none
      | '0' :: _ :: _ => none
      | ds => if ds.all Char.isDigit then
          (let v := radixValue 10 ds
           match v with
           | some n => if n ≤ 255 then some n else none
           | none => none)
        else none
    let a ← part a
    let b ← part b
    let c ← part c
    let d ← part d
    pure (a * 256 + b, c * 256 + d)
  | _ => none

/-- The number of groups read so far, an elided run counting as one. -/
def groupCount (front : List Nat) (back : Option (List Nat)) : Nat :=
  front.length + match back with
    | none => 0
    | some b => b.length + 1

/-- Places the groups: without `::` there must be eight, with it the gap is zeros. -/
def ipv6Finish (front : List Nat) : Option (List Nat) → Option (List Nat)
  | none => if front.length = 8 then some front else none
  | some b => some (front ++ List.replicate (8 - front.length - b.length) 0 ++ b)

/-- Adds one group after those read. -/
def pushGroup (front : List Nat) (back : Option (List Nat)) (v : Nat) :
    List Nat × Option (List Nat) :=
  match back with
  | none => (front ++ [v], none)
  | some b => (front, some (b ++ [v]))

/-- Reads the groups of an IPv6 address after its leading `::`, if any. `front` holds the
groups before `::` and `back` those after it, once it has been seen. -/
def ipv6Groups (cs : List Char) (front : List Nat) (back : Option (List Nat)) :
    Option (List Nat) :=
  match cs with
  | [] => ipv6Finish front back
  | ':' :: rest =>
    if groupCount front back = 8 then none
    else match back with
      | some _ => none
      | none => ipv6Groups rest front (some [])
  | c :: more =>
    if groupCount front back = 8 then none
    else
      match _h : hexGroup (c :: more) with
      | ([], _) => none
      | (_, '.' :: _) =>
        if groupCount front back > 6 then none
        else do
          let (hi, lo) ← embeddedIpv4? (c :: more)
          let (f, b) := pushGroup front back hi
          let (f, b) := pushGroup f b lo
          ipv6Finish f b
      | (digits, ':' :: r) =>
        if r = [] then none
        else
          let (f, b) := pushGroup front back ((radixValue 16 digits).getD 0)
          ipv6Groups r f b
      | (digits, []) =>
        let (f, b) := pushGroup front back ((radixValue 16 digits).getD 0)
        ipv6Finish f b
      | _ => none
termination_by cs.length
decreasing_by
  · simp
  · have hl := hexGroup_rest_length (c :: more)
    rw [_h] at hl
    simp at hl ⊢
    omega

/-- Reads an IPv6 address (the text between the brackets). -/
def parseIpv6 (text : String) : Option (List Nat) :=
  match text.toList with
  | ':' :: ':' :: rest => ipv6Groups rest [] (some [])
  | ':' :: _ => none
  | cs => ipv6Groups cs [] none

/-- The start and length of the first longest run of zero groups. -/
def longestZeroRun (groups : List Nat) : Nat × Nat :=
  let step := fun (acc : (Nat × Nat) × Nat × Nat) (g : Nat × Nat) =>
    let ((bestStart, bestLen), runStart, runLen) := acc
    let (v, i) := g
    if v = 0 then
      let runStart := if runLen = 0 then i else runStart
      let runLen := runLen + 1
      if runLen > bestLen then ((runStart, runLen), runStart, runLen)
      else ((bestStart, bestLen), runStart, runLen)
    else ((bestStart, bestLen), i + 1, 0)
  (groups.zipIdx.foldl step ((0, 0), 0, 0)).1

/-- The lower-case hexadecimal text of a group. -/
def groupText (v : Nat) : String := String.ofList (Nat.toDigits 16 v)

/-- The text of an IPv6 address, without brackets. -/
def ipv6Text (groups : List Nat) : String :=
  let (start, len) := longestZeroRun groups
  if len < 2 then ":".intercalate (groups.map groupText)
  else
    ":".intercalate ((groups.take start).map groupText) ++ "::" ++
      ":".intercalate ((groups.drop (start + len)).map groupText)

end DownloadEngine.Url
