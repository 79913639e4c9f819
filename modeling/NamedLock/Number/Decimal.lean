import NamedLock.Number.Binary64

/-!
# Decimal — numbers written in decimal

Reading a run of digits, a signed or an unsigned integer of bounded size, and a decimal fraction with an
exponent. A fraction becomes the nearest double-precision number.
-/

namespace NamedLock

namespace Number

/-- Whether a character is one of the ten ASCII digits. -/
def isDigit (c : Char) : Bool := '0' ≤ c && c ≤ '9'

/-- The value of a digit in any base up to 36. -/
def digitValue (c : Char) : Nat :=
  if '0' ≤ c && c ≤ '9' then c.toNat - '0'.toNat
  else if 'a' ≤ c && c ≤ 'z' then c.toNat - 'a'.toNat + 10
  else if 'A' ≤ c && c ≤ 'Z' then c.toNat - 'A'.toNat + 10
  else 0

/-- The value of a run of digits, most significant first. -/
def ofDigits (base : Nat) (cs : List Char) : Nat :=
  cs.foldl (fun n c => n * base + digitValue c) 0

/-- A text of at least one digit and nothing else. -/
def readDigits? (cs : List Char) : Option Nat :=
  if cs ≠ [] && cs.all isDigit then some (ofDigits 10 cs) else none

/-- The decimal digits of a natural number. -/
def showNat (n : Nat) : String := String.ofList (Nat.toDigits 10 n)

/-- An integer in decimal, with a minus sign when it is negative. -/
def showInt (n : Int) : String :=
  if n < 0 then "-" ++ showNat n.natAbs else showNat n.natAbs

/-- The range of signed 64-bit integers. -/
def inSigned64 (n : Int) : Bool := -(pow2 63 : Int) ≤ n && n < pow2 63

/-- A sign, if any, and the rest. -/
def splitSign : List Char → Bool × List Char
  | '-' :: cs => (true, cs)
  | '+' :: cs => (false, cs)
  | cs => (false, cs)

/-- A signed 64-bit integer: an optional sign and digits. -/
def readSigned64? (s : String) : Option Int :=
  let (negative, ds) := splitSign s.toList
  match readDigits? ds with
  | some n =>
    let value : Int := if negative then -(n : Int) else n
    if inSigned64 value then some value else none
  | none => none

/-- An unsigned integer below `bound`: an optional plus sign and digits. -/
def readUnsigned? (bound : Nat) (s : String) : Option Nat :=
  let ds := match s.toList with
    | '+' :: cs => cs
    | cs => cs
  match readDigits? ds with
  | some n => if n < bound then some n else none
  | none => none

/-! ## Decimal fractions -/

/-- The number `± coefficient * 10 ^ exponent`. -/
structure Decimal where
  negative : Bool
  coefficient : Nat
  exponent : Int
  deriving DecidableEq, Repr

/-- Decimals whose first digit stands above this power of ten are beyond every finite value, those that
start below its inverse are nearer to zero than to any other value. -/
def Decimal.reach : Int := 400

/-- The nearest double-precision number. -/
def Decimal.toBinary64 (d : Decimal) : Binary64 :=
  if d.coefficient = 0 then Binary64.zero d.negative
  else
    let first := ((Nat.toDigits 10 d.coefficient).length : Int) - 1 + d.exponent
    if first > reach then .infinite d.negative
    else if first < -reach then Binary64.zero d.negative
    else if 0 ≤ d.exponent then
      Binary64.ofRatio d.negative (d.coefficient * pow10 d.exponent.toNat) 1
    else Binary64.ofRatio d.negative d.coefficient (pow10 (-d.exponent).toNat)

/-- An exponent: an optional sign and digits. -/
def readExponent? (cs : List Char) : Option Int :=
  let (negative, ds) := splitSign cs
  (readDigits? ds).map fun n => if negative then -(n : Int) else n

/-- Digits, an optional point with digits, an optional exponent. There is a digit before the point or
after it. -/
def readUnsignedDecimal? (negative : Bool) (cs : List Char) : Option Decimal :=
  let whole := cs.takeWhile isDigit
  let rest := cs.dropWhile isDigit
  let (fraction, rest) := match rest with
    | '.' :: r => (r.takeWhile isDigit, r.dropWhile isDigit)
    | r => ([], r)
  if whole = [] ∧ fraction = [] then none
  else
    let decimal (e : Int) : Decimal :=
      { negative, coefficient := ofDigits 10 (whole ++ fraction), exponent := e - fraction.length }
    match rest with
    | [] => some (decimal 0)
    | 'e' :: r => (readExponent? r).map decimal
    | 'E' :: r => (readExponent? r).map decimal
    | _ => none

/-- A number with an optional sign: a decimal fraction, an infinity or not a number. The words are
read in any case. -/
def readReal? (s : String) : Option Binary64 :=
  let (negative, cs) := splitSign s.toList
  match (cs.map Char.toLower : List Char) with
  | ['i', 'n', 'f'] => some (.infinite negative)
  | ['i', 'n', 'f', 'i', 'n', 'i', 't', 'y'] => some (.infinite negative)
  | ['n', 'a', 'n'] => some .nan
  | _ => (readUnsignedDecimal? negative cs).map Decimal.toBinary64

end Number

end NamedLock
