import NamedLock.Number.Binary64

/-!
# Shortest — the fewest decimal digits that read back

A binary number is written with the shortest decimal that lies in its rounding interval; of several
such decimals with the same number of digits the nearest one is taken, and a layout says which one when two
are equally near. `DecimalForm` holds the digits
and the power of ten of the first one. Two layouts are built on it: one without exponents, and one that
turns to an exponent for very large and very small values.
-/

namespace NamedLock

namespace Number

/-- The digits of a decimal, most significant first: `d₀.d₁d₂… * 10 ^ exponent`. -/
structure DecimalForm where
  digits : List Nat
  exponent : Int
  deriving DecidableEq, Repr

/-- The decimal digits of a number, most significant first. -/
def decimalDigits (n : Nat) : List Nat := (Nat.toDigits 10 n).map fun c => c.toNat - 48

/-- The digits without the zeros at the end. -/
def dropTrailingZeros (ds : List Nat) : List Nat := (ds.reverse.dropWhile (· == 0)).reverse

/-- Every positive value is at least this power of ten below one. -/
def deepest : Nat := 330

/-- The power of ten of the first digit of `num / den`, which must be at least `10 ^ -deepest`. -/
def leadingPower (num den : Nat) : Int :=
  ((decimalDigits (num * pow10 deepest / den)).length : Int) - 1 - deepest

/-- The interval of values that round to `significand * 2 ^ exponent`, in units of
`2 ^ (exponent - 2)`. -/
structure RoundingInterval where
  low : Nat
  value : Nat
  high : Nat
  closed : Bool

/-- The rounding interval of a positive finite value. Below a power of two the neighbour is only half
as far away. -/
def roundingInterval (significand : Nat) (exponent : Int) : RoundingInterval where
  low := 4 * significand -
    (if significand = pow2 52 ∧ exponent > Binary64.leastExponent then 1 else 2)
  value := 4 * significand
  high := 4 * significand + 2
  closed := significand % 2 == 0

/-- Whether the interval, its units worth `num / den`, holds `point`. -/
def RoundingInterval.holds (i : RoundingInterval) (num den : Nat) (point : Nat) : Bool :=
  if i.closed then i.low * num ≤ point * den && point * den ≤ i.high * num
  else i.low * num < point * den && point * den < i.high * num

/-- The distance of two numbers. -/
def gap (a b : Nat) : Nat := (a - b) + (b - a)

/-- Which of two equally near decimals is written. -/
inductive Tie
  | upper
  | even
  deriving DecidableEq, Repr

/-- Whether the lower of two neighbours is taken when both are equally near. -/
def Tie.takesLower : Tie → Nat → Bool
  | .upper, _ => false
  | .even, below => below % 2 == 0

/-- The two neighbours of the value on a decimal grid, tried against its interval: the nearer of those
that lie inside. The unit of the interval is worth `num / den` steps of the grid. -/
def RoundingInterval.pick? (i : RoundingInterval) (tie : Tie) (num den : Nat) : Option Nat :=
  let below := i.value * num / den
  let above := below + 1
  let toBelow := gap (below * den) (i.value * num)
  let toAbove := gap (above * den) (i.value * num)
  match i.holds num den below && below != 0, i.holds num den above with
  | true, true =>
    if toBelow < toAbove || (toBelow == toAbove && tie.takesLower below) then some below
    else some above
  | true, false => some below
  | false, true => some above
  | false, false => none

/-- Tries grids of `places` digits, then finer ones; `fuel` bounds the number of grids. -/
def searchShortest (i : RoundingInterval) (tie : Tie) (unit : Int) (lead : Int) : Nat → Nat → Nat × Int
  | 0, _ => (i.value, 0)
  | fuel + 1, places =>
    -- one step of the grid is worth `10 ^ step`
    let step := lead - (places : Int) + 1
    let (n, d) := Binary64.scaled 1 unit
    let (num, den) :=
      if 0 ≤ step then (n, d * pow10 step.toNat) else (n * pow10 (-step).toNat, d)
    match i.pick? tie num den with
    | some p => (p, step)
    | none => searchShortest i tie unit lead fuel (places + 1)

/-- The shortest decimal of `significand * 2 ^ exponent`, for a positive significand. -/
def shortest (tie : Tie) (significand : Nat) (exponent : Int) : DecimalForm :=
  let (num, den) := Binary64.scaled significand exponent
  let lead := leadingPower num den
  let (p, step) := searchShortest (roundingInterval significand exponent) tie (exponent - 2) lead 18 1
  let ds := decimalDigits p
  { digits := dropTrailingZeros ds, exponent := (ds.length : Int) - 1 + step }

/-- The character of a digit. -/
def digitChar (d : Nat) : Char := Char.ofNat (48 + d)

/-- `n` zeros. -/
def zeros (n : Nat) : List Char := List.replicate n '0'

/-- The decimal without an exponent: zeros are filled in on either side, and there is a point only
where a fraction follows. -/
def DecimalForm.plain (f : DecimalForm) : List Char :=
  let ds := f.digits.map digitChar
  if f.exponent < 0 then '0' :: '.' :: (zeros (-f.exponent - 1).toNat ++ ds)
  else
    let whole := f.exponent.toNat + 1
    if ds.length ≤ whole then ds ++ zeros (whole - ds.length)
    else ds.take whole ++ '.' :: ds.drop whole

/-- The decimal with its first digit before the point and a signed exponent. -/
def DecimalForm.withExponent (f : DecimalForm) : List Char :=
  let mantissa :=
    match f.digits.map digitChar with
    | [] => ['0']
    | [d] => [d]
    | d :: ds => d :: '.' :: ds
  let sign := if f.exponent < 0 then '-' else '+'
  mantissa ++ 'e' :: sign :: Nat.toDigits 10 f.exponent.natAbs

/-- What a text of a number is made of. -/
structure NumberLayout where
  /-- Exponents of the first digit that are written without an exponent. -/
  positional : Int → Bool
  /-- Whether an integer gets a fraction of one zero. -/
  keepsFraction : Bool
  /-- The choice between two equally near decimals. -/
  tie : Tie

/-- Every number in full, integers without a point. -/
def plainLayout : NumberLayout where
  positional _ := true
  keepsFraction := false
  tie := .upper

/-- Every number in full, integers with `.0`. -/
def pointedLayout : NumberLayout where
  positional _ := true
  keepsFraction := true
  tie := .upper

/-- Numbers of moderate size in full, integers with `.0`; an exponent from `1e16` upwards and below
`1e-5`. -/
def exchangeLayout : NumberLayout where
  positional e := -5 ≤ e && e < 16
  keepsFraction := true
  tie := .even

/-- Writes a number. -/
def NumberLayout.write (l : NumberLayout) : Binary64 → String
  | .nan => "NaN"
  | .infinite s => if s then "-inf" else "inf"
  | .finite s m e =>
    let sign := if s then ['-'] else []
    let body :=
      if m = 0 then if l.keepsFraction then ['0', '.', '0'] else ['0']
      else
        let f := shortest l.tie m e
        if l.positional f.exponent then
          let text := f.plain
          if l.keepsFraction && !text.contains '.' then text ++ ['.', '0'] else text
        else f.withExponent
    String.ofList (sign ++ body)

end Number

end NamedLock
