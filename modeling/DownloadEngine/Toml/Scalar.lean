import DownloadEngine.Toml.Value
import DownloadEngine.Text.Hex

/-!
# TOML scalars

Readers for the scalar forms of TOML: the four kinds of strings, integers (decimal with an
optional sign, or `0x`, `0o`, `0b` without one), floats (with a fraction, an exponent or both,
or `inf` and `nan`), booleans and dates and times. Each reader takes the text right where the
scalar starts and gives the value and the text after it. Underscores may stand only between
two digits; a decimal integer has no leading zero; integers fit in 64 signed bits. A float
written with digits that is too large for a double is refused when positive and read as
negative infinity when negative.
-/

namespace DownloadEngine.Toml

/-- Controls that may not stand in a string as they are: all but the tab. -/
def isForbiddenControl (c : Char) : Bool := (c.toNat < 0x20 && c != '\t') || c.toNat == 0x7F

/-- The code point spelled by exactly `count` hexadecimal digits, if it is a scalar value. -/
def codePoint? (count : Nat) (cs : List Char) : Option Char := do
  let digits := cs.take count
  if digits.length ≠ count then none
  let n ← digits.foldlM (fun v c => (Text.hexDigitValue? c).map (v * 16 + ·)) 0
  if n < 0xD800 ∨ (0xDFFF < n ∧ n < 0x110000) then some (Char.ofNat n) else none

/-- The character of a one-letter escape. -/
def simpleEscape? : Char → Option Char
  | 'b' => some '\x08'
  | 't' => some '\t'
  | 'n' => some '\n'
  | 'f' => some '\x0c'
  | 'r' => some '\r'
  | '"' => some '"'
  | '\\' => some '\\'
  | _ => none

/-- Blanks inside a line. -/
def isBlank (c : Char) : Bool := c == ' ' || c == '\t'

/-- Drops blanks and line breaks, as after a line-ending backslash. A carriage return counts
only before a line feed. -/
def dropBlankLines : List Char → List Char
  | ' ' :: r => dropBlankLines r
  | '\t' :: r => dropBlankLines r
  | '\n' :: r => dropBlankLines r
  | '\r' :: '\n' :: r => dropBlankLines r
  | cs => cs

theorem dropBlankLines_length_le (cs : List Char) : (dropBlankLines cs).length ≤ cs.length := by
  fun_induction dropBlankLines cs with
  | case5 cs _ _ _ _ => exact Nat.le_refl _
  | _ => simp only [List.length_cons]; omega

theorem dropBlankLines_length_lt_succ (cs : List Char) :
    (dropBlankLines cs).length < cs.length + 1 :=
  Nat.lt_succ_of_le (dropBlankLines_length_le cs)

/-- Whether a backslash is a line-ending one: only blanks follow it before a line break. -/
def endsLine (cs : List Char) : Bool :=
  match cs.dropWhile isBlank with
  | '\n' :: _ => true
  | '\r' :: '\n' :: _ => true
  | _ => false

/-- Reads a basic string after its opening quote; `acc` holds the text read, last first. -/
def readBasic (acc : List Char) (cs : List Char) : Except SyntaxError (String × List Char) :=
  match cs with
  | [] => .error .badString
  | '"' :: r => .ok (String.ofList acc.reverse, r)
  | '\\' :: 'u' :: r =>
    match codePoint? 4 r with
    | some c => readBasic (c :: acc) (r.drop 4)
    | none => .error .badString
  | '\\' :: 'U' :: r =>
    match codePoint? 8 r with
    | some c => readBasic (c :: acc) (r.drop 8)
    | none => .error .badString
  | '\\' :: e :: r =>
    match simpleEscape? e with
    | some c => readBasic (c :: acc) r
    | none => .error .badString
  | c :: r => if isForbiddenControl c then .error .badString else readBasic (c :: acc) r
termination_by cs.length
decreasing_by all_goals (simp; try omega)

/-- The quotes that close a multi-line string: of a run of `n ≥ 3` quotes, the last three
close it and up to two before them belong to the text. -/
def closingRun (q : Char) (cs : List Char) : Nat := (cs.takeWhile (· == q)).length

/-- Reads a multi-line basic string after its opening quotes. -/
def readMultiBasic (acc : List Char) (cs : List Char) : Except SyntaxError (String × List Char) :=
  match cs with
  | [] => .error .badString
  | '"' :: r =>
    let n := closingRun '"' cs
    if n ≥ 3 then
      .ok (String.ofList (List.replicate (min (n - 3) 2) '"' ++ acc).reverse, cs.drop (min n 5))
    else readMultiBasic ('"' :: acc) r
  | '\\' :: r =>
    if endsLine r then readMultiBasic acc (dropBlankLines r)
    else match r with
      | 'u' :: h =>
        match codePoint? 4 h with
        | some c => readMultiBasic (c :: acc) (h.drop 4)
        | none => .error .badString
      | 'U' :: h =>
        match codePoint? 8 h with
        | some c => readMultiBasic (c :: acc) (h.drop 8)
        | none => .error .badString
      | e :: h =>
        match simpleEscape? e with
        | some c => readMultiBasic (c :: acc) h
        | none => .error .badString
      | [] => .error .badString
  | '\r' :: '\n' :: r => readMultiBasic ('\n' :: acc) r
  | c :: r =>
    if c == '\n' then readMultiBasic ('\n' :: acc) r
    else if isForbiddenControl c then .error .badString
    else readMultiBasic (c :: acc) r
termination_by cs.length
decreasing_by
  all_goals simp only [List.length_cons, List.length_drop]
  all_goals first
    | omega
    | exact dropBlankLines_length_lt_succ r

/-- Reads a literal string after its opening quote. -/
def readLiteral (cs : List Char) : Except SyntaxError (String × List Char) :=
  let body := cs.takeWhile (· != '\'')
  match cs.drop body.length with
  | '\'' :: r =>
    if body.any isForbiddenControl then .error .badString else .ok (String.ofList body, r)
  | _ => .error .badString

/-- Reads a multi-line literal string after its opening quotes. -/
def readMultiLiteral (acc : List Char) (cs : List Char) : Except SyntaxError (String × List Char) :=
  match cs with
  | [] => .error .badString
  | '\'' :: r =>
    let n := closingRun '\'' cs
    if n ≥ 3 then
      .ok (String.ofList (List.replicate (min (n - 3) 2) '\'' ++ acc).reverse, cs.drop (min n 5))
    else readMultiLiteral ('\'' :: acc) r
  | '\r' :: '\n' :: r => readMultiLiteral ('\n' :: acc) r
  | c :: r =>
    if c == '\n' then readMultiLiteral ('\n' :: acc) r
    else if isForbiddenControl c then .error .badString
    else readMultiLiteral (c :: acc) r

/-- Drops the line break right after the opening quotes of a multi-line string. -/
def dropFirstBreak : List Char → List Char
  | '\n' :: r => r
  | '\r' :: '\n' :: r => r
  | cs => cs

/-! ## Numbers, booleans, dates and times -/

/-- Characters that may stand in a number, a boolean, or a date or time. -/
def isTokenChar (c : Char) : Bool :=
  c.isAlphanum || c == '_' || c == '+' || c == '-' || c == '.' || c == ':'

/-- Digits of `radix` with single underscores between them; the digits without underscores. -/
def groupedDigits (radix : Nat) (cs : List Char) : Option (List Char) :=
  let isDigit := fun c => match Text.hexDigitValue? c with
    | some v => v < radix
    | none => false
  match cs with
  | [] => none
  | c :: _ =>
    if !isDigit c || cs.getLast? == some '_' then none
    else
      let pieces := cs.splitOn '_'
      if pieces.any (·.isEmpty) || !(cs.all fun c => isDigit c || c == '_') then none
      else some (cs.filter (· != '_'))

/-- The value of digits in `radix`. -/
def digitsValue (radix : Nat) (ds : List Char) : Nat :=
  ds.foldl (fun v c => v * radix + (Text.hexDigitValue? c).getD 0) 0

/-- The smallest 64-bit signed integer. -/
def intMin : Int := -9223372036854775808

/-- The largest 64-bit signed integer. -/
def intMax : Int := 9223372036854775807

/-- Splits off a sign. -/
def splitSign : List Char → Bool × Bool × List Char
  | '+' :: r => (true, false, r)
  | '-' :: r => (true, true, r)
  | cs => (false, false, cs)

/-- The digits of a decimal integer part: `0`, or digits not starting with `0`. -/
def decimalPart? (cs : List Char) : Option (List Char) := do
  let ds ← groupedDigits 10 cs
  match ds with
  | '0' :: _ :: _ => none
  | _ => some ds

/-- Reads an integer token. -/
def readInteger (token : List Char) : Except SyntaxError Int :=
  let bad := SyntaxError.badNumber (String.ofList token)
  let prefixed (radix : Nat) (r : List Char) : Except SyntaxError Int :=
    match groupedDigits radix r with
    | some ds =>
      let v := digitsValue radix ds
      if (v : Int) ≤ intMax then .ok v else .error bad
    | none => .error bad
  match token with
  | '0' :: 'x' :: r => prefixed 16 r
  | '0' :: 'o' :: r => prefixed 8 r
  | '0' :: 'b' :: r => prefixed 2 r
  | _ =>
    let (_, negative, body) := splitSign token
    match decimalPart? body with
    | some ds =>
      let v : Int := if negative then -(digitsValue 10 ds : Int) else digitsValue 10 ds
      if intMin ≤ v ∧ v ≤ intMax then .ok v else .error bad
    | none => .error bad

/-- Reads a float token. -/
def readFloat (token : List Char) : Except SyntaxError Float :=
  let bad := SyntaxError.badNumber (String.ofList token)
  let (_, negative, body) := splitSign token
  let apply (x : Float) : Float := if negative then -x else x
  match body with
  | ['i', 'n', 'f'] => .ok (apply (1.0 / 0.0))
  | ['n', 'a', 'n'] => .ok (0.0 / 0.0)
  | _ =>
    let mantissa := body.takeWhile fun c => c != 'e' && c != 'E'
    let exponent := body.drop mantissa.length
    let whole := mantissa.takeWhile (· != '.')
    let fraction := mantissa.drop whole.length
    let parts : Option (List Char × List Char × Int) := do
      let w ← decimalPart? whole
      let f ← match fraction with
        | [] => some []
        | _ :: fs => groupedDigits 10 fs
      let e ← match exponent with
        | [] => some (0 : Int)
        | _ :: es =>
          let (_, eneg, edigits) := splitSign es
          let ds ← groupedDigits 10 edigits
          let v := (digitsValue 10 ds : Int)
          some (if eneg then -v else v)
      if fraction.isEmpty ∧ exponent.isEmpty then none
      pure (w, f, e)
    match parts with
    | none => .error bad
    | some (w, f, e) =>
      let m := digitsValue 10 (w ++ f)
      let e := e - f.length
      let x := if e ≥ 0 then Float.ofScientific m false e.toNat else Float.ofScientific m true e.natAbs
      if x.isInf ∧ !negative then .error bad else .ok (apply x)

/-- Exactly `n` ASCII digits and their value. -/
def fixedDigits (n : Nat) (cs : List Char) : Option (Nat × List Char) :=
  let ds := cs.take n
  if ds.length = n ∧ ds.all Char.isDigit then some (digitsValue 10 ds, cs.drop n) else none

/-- The days of a month in a year of the Gregorian calendar. -/
def daysInMonth (year month : Nat) : Nat :=
  if month = 2 then
    if year % 4 = 0 ∧ (year % 100 ≠ 0 ∨ year % 400 = 0) then 29 else 28
  else if month ∈ [4, 6, 9, 11] then 30 else 31

/-- Reads a date `YYYY-MM-DD`. -/
def readDate (cs : List Char) : Option (List Char) := do
  let (y, r) ← fixedDigits 4 cs
  let r ← match r with | '-' :: r => some r | _ => none
  let (m, r) ← fixedDigits 2 r
  let r ← match r with | '-' :: r => some r | _ => none
  let (d, r) ← fixedDigits 2 r
  if 1 ≤ m ∧ m ≤ 12 ∧ 1 ≤ d ∧ d ≤ daysInMonth y m then some r else none

/-- Reads a time `HH:MM:SS` with an optional fraction. -/
def readTime (cs : List Char) : Option (List Char) := do
  let (h, r) ← fixedDigits 2 cs
  let r ← match r with | ':' :: r => some r | _ => none
  let (m, r) ← fixedDigits 2 r
  let r ← match r with | ':' :: r => some r | _ => none
  let (s, r) ← fixedDigits 2 r
  if h > 23 ∨ m > 59 ∨ s > 60 then none
  match r with
  | '.' :: f =>
    let ds := f.takeWhile Char.isDigit
    if ds.isEmpty then none else some (f.drop ds.length)
  | _ => some r

/-- Reads an offset `Z` or `±HH:MM`. -/
def readOffset : List Char → Option (List Char)
  | 'Z' :: r => some r
  | 'z' :: r => some r
  | c :: r =>
    if c == '+' || c == '-' then do
      let (h, r) ← fixedDigits 2 r
      let r ← match r with | ':' :: r => some r | _ => none
      let (m, r) ← fixedDigits 2 r
      if h > 23 ∨ m > 59 then none else some r
    else none
  | [] => none

/-- Whether a token is a date, a time, a date and time, or one with an offset. -/
def isDatetime (token : List Char) : Bool :=
  match readDate token with
  | some [] => true
  | some (sep :: r) =>
    if sep == 'T' || sep == 't' || sep == ' ' then
      match readTime r with
      | some [] => true
      | some rest => readOffset rest == some []
      | none => false
    else false
  | none => readTime token == some []

/-- Whether a token has the shape of a date or time: four digits and `-`, or two and `:`. -/
def looksLikeDatetime (token : List Char) : Bool :=
  match token with
  | a :: b :: c :: d :: '-' :: _ => [a, b, c, d].all Char.isDigit
  | a :: b :: ':' :: _ => a.isDigit && b.isDigit
  | _ => false

/-- Splits off the token of a number, boolean, or date and time; a date followed by a blank
and a time is one token. -/
def splitToken (cs : List Char) : List Char × List Char :=
  let token := cs.takeWhile isTokenChar
  let rest := cs.drop token.length
  match readDate token, rest with
  | some [], ' ' :: d :: more =>
    if d.isDigit then
      let time := (d :: more).takeWhile isTokenChar
      if time.contains ':' then (token ++ ' ' :: time, (d :: more).drop time.length)
      else (token, rest)
    else (token, rest)
  | _, _ => (token, rest)

/-- Reads a number, boolean, or date and time. -/
def readAtom (cs : List Char) : Except SyntaxError (Value × List Char) :=
  let (token, rest) := splitToken cs
  let text := String.ofList token
  if token.isEmpty then .error (.unexpected (String.ofList (cs.take 20)))
  else if text = "true" then .ok (.boolean true, rest)
  else if text = "false" then .ok (.boolean false, rest)
  else if text ∈ ["inf", "+inf", "-inf", "nan", "+nan", "-nan"] then
    (readFloat token).map fun x => (.float x, rest)
  else if looksLikeDatetime token then
    if isDatetime token then .ok (.datetime text, rest) else .error (.badDatetime text)
  else if token.take 2 ∈ [['0', 'x'], ['0', 'o'], ['0', 'b']] then
    (readInteger token).map fun i => (.integer i, rest)
  else if token.any (fun c => c == '.' || c == 'e' || c == 'E') then
    (readFloat token).map fun x => (.float x, rest)
  else (readInteger token).map fun i => (.integer i, rest)

end DownloadEngine.Toml
