/-!
# Shortest decimal form of a double

A finite double is `m * 2^q`. The reals that read back as it form an interval around it,
half a gap to each neighbour, ends included when `m` is even. The shortest decimal of the
double is found on the grids of 1, 2, 3, ... significant digits: on each grid only the two
points next to the value can lie in the interval, the first grid with a hit wins, and of two
hits the nearer one does, a tie going to the even digit string.

The text form writes digits positionally when the decimal point falls within sixteen digits,
and otherwise as one digit, a point, the rest and an exponent, such as `1e300` or
`1.8446744073709552e19`. A whole number keeps `.0`.
-/

namespace DownloadEngine.Decimal

/-- A double's parts: sign, significand `mantissa` and exponent `exponent`, so that the
magnitude is `mantissa * 2^exponent`; `narrowBelow` says the gap to the next smaller double
is half the gap to the next larger one. -/
structure Binary where
  negative : Bool
  mantissa : Nat
  exponent : Int
  narrowBelow : Bool
  deriving Repr

/-- The classes of a double. -/
inductive Kind where
  | nan
  | infinite (negative : Bool)
  | zero (negative : Bool)
  | finite (b : Binary)
  deriving Repr

/-- Splits a double's bits into its class and, when finite and non-zero, its parts. -/
def classify (x : Float) : Kind :=
  let bits : Nat := x.toBits.toNat
  let negative : Bool := bits ≥ Nat.pow 2 63
  let field : Nat := (bits / Nat.pow 2 52) % Nat.pow 2 11
  let frac : Nat := bits % Nat.pow 2 52
  if field = 2047 then (if frac = 0 then .infinite negative else .nan)
  else if field = 0 then
    (if frac = 0 then .zero negative
     else .finite ⟨negative, frac, -1074, false⟩)
  else .finite ⟨negative, frac + Nat.pow 2 52, (field : Int) - 1075, frac == 0 && field > 1⟩

/-- Number of decimal digits of a positive number (one for zero). -/
def digitCount (n : Nat) : Nat := (Nat.toDigits 10 n).length

/-- A decimal `digits * 10^exponent` with no trailing zero in `digits`. -/
structure Digits where
  digits : Nat
  exponent : Int
  deriving Repr, DecidableEq

/-- Removes trailing zeros from the digit string, raising the exponent. -/
def Digits.normalize (d : Digits) : Digits :=
  go d.digits d.exponent (digitCount d.digits)
where
  /-- At most `fuel` zeros are removed. -/
  go (c : Nat) (e : Int) : Nat → Digits
    | 0 => ⟨c, e⟩
    | fuel + 1 => if c ≠ 0 ∧ c % 10 = 0 then go (c / 10) (e + 1) fuel else ⟨c, e⟩

/-- The shortest decimal that reads back as the positive double `b`, the nearest one among
those of that length. The value is `big * 10^base`, and a gap to the next larger double is
`gap` units of `10^base`. -/
def shortest (b : Binary) : Digits :=
  let (big, base, gap) : Nat × Int × Nat :=
    if b.exponent ≥ 0 then (b.mantissa * Nat.pow 2 b.exponent.toNat, 0, Nat.pow 2 b.exponent.toNat)
    else (b.mantissa * Nat.pow 5 (-b.exponent).toNat, b.exponent, Nat.pow 5 (-b.exponent).toNat)
  let even := b.mantissa % 2 = 0
  -- `2 * dist` against `gap` above, against `gap` or `gap / 2` below
  let within (twice : Nat) (bound : Nat) : Bool := twice < bound || (twice = bound && even)
  let below (c : Nat) : Bool :=
    c = big || (if b.narrowBelow then within (4 * (big - c)) gap else within (2 * (big - c)) gap)
  let above (c : Nat) : Bool := within (2 * (c - big)) gap
  let len := digitCount big
  let rec search : Nat → Digits
    | 0 => ⟨big, base⟩
    | fuel + 1 =>
      let n := len - fuel
      let s := len - n
      let lo := big / Nat.pow 10 s
      let loAt := lo * Nat.pow 10 s
      let hiAt := (lo + 1) * Nat.pow 10 s
      match below loAt, above hiAt with
      | true, true =>
        if big - loAt < hiAt - big then ⟨lo, base + s⟩
        else if hiAt - big < big - loAt then ⟨lo + 1, base + s⟩
        else if lo % 2 = 0 then ⟨lo, base + s⟩ else ⟨lo + 1, base + s⟩
      | true, false => ⟨lo, base + s⟩
      | false, true => ⟨lo + 1, base + s⟩
      | false, false => search fuel
  (search len).normalize

/-- Decimal digits of a number as text. -/
def digitText (n : Nat) : String := String.ofList (Nat.toDigits 10 n)

/-- Writes positive digits `c * 10^e` in the short form: positional while the point falls
within sixteen digits, else one digit, a point and an exponent. -/
def Digits.render (d : Digits) : String :=
  let ds := digitText d.digits
  let len : Int := ds.length
  let point := len + d.exponent
  if 0 ≤ d.exponent ∧ point ≤ 16 then
    ds ++ String.ofList (List.replicate d.exponent.toNat '0') ++ ".0"
  else if 0 < point ∧ point ≤ 16 then
    String.ofList (ds.toList.take point.toNat) ++ "." ++ String.ofList (ds.toList.drop point.toNat)
  else if -5 < point ∧ point ≤ 0 then
    "0." ++ String.ofList (List.replicate (-point).toNat '0') ++ ds
  else
    let exp := point - 1
    let expText := if exp < 0 then "-" ++ digitText (-exp).toNat else digitText exp.toNat
    match ds.toList with
    | [c] => String.ofList [c] ++ "e" ++ expText
    | c :: rest => String.ofList [c] ++ "." ++ String.ofList rest ++ "e" ++ expText
    | [] => "0e" ++ expText

/-- The short text of a finite double, or `none` for NaN and the infinities. -/
def shortText? (x : Float) : Option String :=
  match classify x with
  | .nan => none
  | .infinite _ => none
  | .zero neg => some (if neg then "-0.0" else "0.0")
  | .finite b => some ((if b.negative then "-" else "") ++ (shortest b).render)

/-- Writes positive digits `c * 10^e` positionally, however far the point lies, without a
point for whole numbers. -/
def Digits.positional (d : Digits) : String :=
  let ds := digitText d.digits
  let point := (ds.length : Int) + d.exponent
  if 0 ≤ d.exponent then ds ++ String.ofList (List.replicate d.exponent.toNat '0')
  else if 0 < point then
    String.ofList (ds.toList.take point.toNat) ++ "." ++ String.ofList (ds.toList.drop point.toNat)
  else "0." ++ String.ofList (List.replicate (-point).toNat '0') ++ ds

/-- The positional text of a double with the shortest digits: `NaN`, `inf` and `-inf` for
the values without digits, and `-0` for negative zero. -/
def positionalText (x : Float) : String :=
  match classify x with
  | .nan => "NaN"
  | .infinite neg => if neg then "-inf" else "inf"
  | .zero neg => if neg then "-0" else "0"
  | .finite b => (if b.negative then "-" else "") ++ (shortest b).positional

end DownloadEngine.Decimal
