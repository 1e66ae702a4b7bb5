import DownloadEngine.Url.Punycode
import DownloadEngine.Url.IdnaMapping
import DownloadEngine.Text.Utf8
import DownloadEngine.Text.Normalization
import DownloadEngine.Text.GeneralCategory
import DownloadEngine.Text.BidiClass
import DownloadEngine.Text.JoiningType

/-!
# International domain names

A domain is brought to its ASCII form as Unicode Technical Standard 46 describes, processing
not transitional, with joiners and bidirectional text checked, hyphens and lengths not.

1. Each code point is mapped by the IDNA mapping table; a refused one fails the domain.
2. The result is put in Normalization Form C. A code point forbidden in a host (blanks,
   controls, `%`, `#`, `/`, `:`, `<`, `>`, `?`, `@`, `[`, `\`, `]`, `^`, `|`) fails it.
3. It is cut into labels at `.`. A label in `xn--` form must be ASCII, carry at most
   2000 characters after the prefix, and decode to a non-empty label that is not all ASCII, is in Normalization Form C, does not itself start
   with `xn--`, and holds only code points the table keeps as they are.
4. No label may begin with a mark. A zero width joiner must follow a virama; a zero width
   non-joiner must follow a virama or stand between a letter joining to the right and a letter
   joining to the left, with only transparent letters between.
5. If a label holds a right-to-left letter or an Arabic digit, every label must follow the
   bidirectional rule: a right-to-left label starts right-to-left, holds no left-to-right
   letter, ends in a right-to-left letter or a digit before marks, and does not mix European
   and Arabic digits; a left-to-right label starts left-to-right, holds no right-to-left letter
   or Arabic digit, and ends in a left-to-right letter or a European digit before marks.
6. A label with a code point beyond ASCII is written as `xn--` and its Punycode; such a label
   may have at most 1000 code points.
-/

namespace DownloadEngine.Url.Idna

open Text

/-- Maps every code point, or fails at a refused one. -/
def mapAll (cs : List Char) : Option (List Char) :=
  cs.foldr (fun c acc => do
    let rest ← acc
    match idnaMapping c with
    | .valid => some (c :: rest)
    | .deviation => some (c :: rest)
    | .mapped chars => some (chars ++ rest)
    | .ignored => some rest
    | .disallowed => none) (some [])

/-- ASCII code points that may not stand in a host. -/
def isForbiddenAscii (c : Char) : Bool :=
  c.toNat ≤ 0x20 || c.toNat = 0x7F || "%#/:<>?@[\\]^|".toList.contains c

/-- Whether the table keeps a code point as it is. -/
def isValid (c : Char) : Bool :=
  match idnaMapping c with
  | .valid => true
  | .deviation => true
  | _ => false

/-- The zero width non-joiner. -/
def zeroWidthNonJoiner : Char := Char.ofNat 0x200C

/-- The zero width joiner. -/
def zeroWidthJoiner : Char := Char.ofNat 0x200D

/-- Whether the nearest letter, skipping transparent ones, joins towards the joiner: `sides`
lists the joining types that do. -/
def joinsToward (sides : List JoiningType) (cs : List Char) : Bool :=
  match cs.dropWhile (joiningType · == .transparent) with
  | c :: _ => sides.contains (joiningType c)
  | [] => false

/-- Whether the joiner at position `i` of a label stands where joiners are allowed; every other
code point does. -/
def joinerAllowed (label : List Char) (i : Nat) : Bool :=
  let before := label.take i
  let afterVirama := (before.getLast?.map combiningClass) == some viramaClass
  match label[i]? with
  | some c =>
    if c = zeroWidthJoiner then afterVirama
    else if c = zeroWidthNonJoiner then
      afterVirama || (joinsToward [.left, .dual] before.reverse &&
        joinsToward [.right, .dual] (label.drop (i + 1)))
    else true
  | none => true

/-- Whether every joiner of a label is allowed. -/
def joinersAllowed (label : List Char) : Bool :=
  (List.range label.length).all (joinerAllowed label)

/-- Whether a bidirectional class makes a label right-to-left. -/
def isRightToLeft (k : BidiClass) : Bool := k == .r || k == .al || k == .an

/-- The last class of a label that is not a nonspacing mark. -/
def lastBeforeMarks (classes : List BidiClass) : Option BidiClass :=
  (classes.reverse.dropWhile (· == .nsm)).head?

/-- The bidirectional rule for one label of a domain with right-to-left text. -/
def bidiRule (label : List Char) : Bool :=
  let classes := label.map bidiClass
  match classes with
  | [] => true
  | first :: _ =>
    if first == .r || first == .al then
      classes.all (fun k => [.r, .al, .an, .en, .es, .cs, .et, .on, .bn, .nsm].contains k) &&
        [.r, .al, .en, .an].contains ((lastBeforeMarks classes).getD .on) &&
        !(classes.contains .en && classes.contains .an)
    else if first == .l then
      classes.all (fun k => [.l, .en, .es, .cs, .et, .on, .bn, .nsm].contains k) &&
        [.l, .en].contains ((lastBeforeMarks classes).getD .on)
    else false

/-- Whether a label may stand once mapped: it does not begin with a mark and its joiners are
allowed. -/
def validLabel (label : List Char) : Bool :=
  !(label.head?.map isMark).getD false && joinersAllowed label

/-- The most characters of Punycode after `xn--` that a label may carry. -/
def decodeLimit : Nat := 2000

/-- The most code points that a label beyond ASCII may have to be written in Punycode. -/
def encodeLimit : Nat := 1000

/-- A label of a domain: its text as mapped, and the code points it stands for. -/
structure Label where
  text : List Char
  unicode : List Char

/-- Reads one mapped label, decoding its `xn--` form. -/
def readLabel (label : List Char) : Option Label :=
  match label with
  | 'x' :: 'n' :: '-' :: '-' :: code => do
    if !label.all (·.toNat < 0x80) || code.length > decodeLimit then none
    let decoded ← Punycode.decode code
    if decoded.isEmpty || decoded.all (·.toNat < 0x80) then none
    if !isNfc decoded || decoded.take 4 == ['x', 'n', '-', '-'] then none
    if !decoded.all isValid || !validLabel decoded then none
    pure ⟨label, decoded⟩
  | _ => if validLabel label then some ⟨label, label⟩ else none

/-- The ASCII form of a label, if it is not too long to encode. -/
def Label.ascii? (l : Label) : Option String :=
  if l.text.all (·.toNat < 0x80) then some (String.ofList l.text)
  else if l.text.length > encodeLimit then none
  else some ("xn--" ++ Punycode.encode l.text)

/-- The ASCII form of a domain given as UTF-8 bytes, or `none` if it is no valid domain. -/
def toAscii (bytes : List UInt8) : Option String := do
  let mapped ← mapAll (Text.decodeLossyList bytes)
  let normalized := nfc mapped
  if normalized.any isForbiddenAscii then none
  let labels ← (normalized.splitOn '.').mapM readLabel
  if labels.any (·.unicode.any fun c => isRightToLeft (bidiClass c)) then
    if !labels.all (bidiRule ·.unicode) then none
  pure (".".intercalate (← labels.mapM Label.ascii?))

end DownloadEngine.Url.Idna
