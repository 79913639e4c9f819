import NamedLock.Number.Power

/-!
# Binary64 — double-precision numbers in exact arithmetic

A finite value is a sign, a significand and a power of two. `ofRatio` rounds a non-negative rational
to the nearest representable value, a tie going to the even significand, and overflows to infinity.
Everything is computed with `Nat` and `Int`, so that values can be evaluated inside a proof.
-/

namespace NamedLock

/-- A double-precision number. -/
inductive Binary64
  /-- `± significand * 2 ^ exponent` -/
  | finite (negative : Bool) (significand : Nat) (exponent : Int)
  | infinite (negative : Bool)
  | nan
  deriving DecidableEq, Repr, Inhabited

namespace Binary64

/-- Significands stay below this bound. -/
def significandBound : Nat := Number.pow2 53

/-- The least exponent: of the subnormal numbers, of zero and of the smallest normal ones. -/
def leastExponent : Int := -1074

/-- The largest exponent of a finite value. -/
def greatestExponent : Int := 971

/-- Zero, with a sign. -/
def zero (negative : Bool) : Binary64 := .finite negative 0 leastExponent

/-- The numerator and denominator of `significand * 2 ^ exponent`. -/
def scaled (significand : Nat) (exponent : Int) : Nat × Nat :=
  if 0 ≤ exponent then (significand * Number.pow2 exponent.toNat, 1)
  else (significand, Number.pow2 (-exponent).toNat)

/-- The quotient rounded to the nearest integer, a tie going to the even one. -/
def divNearestEven (num den : Nat) : Nat :=
  let q := num / den
  let r := num % den
  if 2 * r < den then q
  else if den < 2 * r then q + 1
  else if q % 2 = 0 then q else q + 1

/-- The quotient rounded to the nearest integer, a tie going up. -/
def divNearestUp (num den : Nat) : Nat := (2 * num + den) / (2 * den)

/-- The exponent at which `num / den` has a significand of 53 bits, or the least exponent. -/
def fittingExponent (num den : Nat) : Int :=
  let guess := (num.log2 : Int) - (den.log2 : Int) - 52
  -- the quotient of two numbers has one of two possible lengths in bits
  let tooLarge :=
    if 0 ≤ guess then num < Number.pow2 52 * (den * Number.pow2 guess.toNat)
    else num * Number.pow2 (-guess).toNat < Number.pow2 52 * den
  let e := if tooLarge then guess - 1 else guess
  max e leastExponent

/-- The value nearest to `num / den`, for a positive `den`. -/
def ofRatio (negative : Bool) (num den : Nat) : Binary64 :=
  if num = 0 then zero negative
  else
    let e := fittingExponent num den
    let m :=
      if 0 ≤ e then divNearestEven num (den * Number.pow2 e.toNat)
      else divNearestEven (num * Number.pow2 (-e).toNat) den
    let (m, e) := if m = significandBound then (Number.pow2 52, e + 1) else (m, e)
    if e > greatestExponent then .infinite negative
    else if m = 0 then zero negative
    else .finite negative m e

/-- The value nearest to a natural number. -/
def ofNat (n : Nat) : Binary64 := ofRatio false n 1

/-- The value with this sign. -/
def withSign (negative : Bool) : Binary64 → Binary64
  | finite _ m e => finite negative m e
  | infinite _ => infinite negative
  | nan => nan

/-- The magnitude of the value times a power of ten that is rounded before it is used. -/
def timesPower (negative : Bool) (x : Binary64) (power : Nat) : Binary64 :=
  match x, ofNat (Number.pow10 power) with
  | finite _ m₁ e₁, finite _ m₂ e₂ =>
    let (n, d) := scaled (m₁ * m₂) (e₁ + e₂)
    ofRatio negative n d
  | _, _ => infinite negative

/-- The magnitude of the value over a power of ten that is rounded before it is used. -/
def overPower (negative : Bool) (x : Binary64) (power : Nat) : Binary64 :=
  match x, ofNat (Number.pow10 power) with
  | finite _ m₁ e₁, finite _ m₂ e₂ =>
    let (n₁, d₁) := scaled m₁ e₁
    let (n₂, d₂) := scaled m₂ e₂
    ofRatio negative (n₁ * d₂) (d₁ * n₂)
  | _, _ => zero negative

/-- Whether the value is negative, a negative zero included. -/
def isNegative : Binary64 → Bool
  | finite s _ _ => s
  | infinite s => s
  | nan => false

/-- Whether the value is a zero of either sign. -/
def isZero : Binary64 → Bool
  | finite _ m _ => m == 0
  | _ => false

/-- The sum of two non-negative finite values, rounded once. -/
def addFinite (m₁ : Nat) (e₁ : Int) (m₂ : Nat) (e₂ : Int) : Binary64 :=
  let (n₁, d₁) := scaled m₁ e₁
  let (n₂, d₂) := scaled m₂ e₂
  ofRatio false (n₁ * d₂ + n₂ * d₁) (d₁ * d₂)

/-- The sum of two values that are not negative. -/
def addNonneg : Binary64 → Binary64 → Binary64
  | finite _ m₁ e₁, finite _ m₂ e₂ => addFinite m₁ e₁ m₂ e₂
  | nan, _ => nan
  | _, nan => nan
  | _, _ => .infinite false

/-- The nearest integer, a tie going away from zero, cut off at `bound - 1` and at zero. A value that
is not a number counts as zero. -/
def roundSaturating (bound : Nat) : Binary64 → Nat
  | finite true _ _ => 0
  | finite false m e =>
    let (n, d) := scaled m e
    min (divNearestUp n d) (bound - 1)
  | infinite negative => if negative then 0 else bound - 1
  | nan => 0

/-- The 64 bits of the interchange format. -/
def toBits : Binary64 → UInt64
  | finite s m e =>
    let magnitude :=
      if m < Number.pow2 52 then m else (e - leastExponent + 1).toNat * Number.pow2 52 + (m - Number.pow2 52)
    UInt64.ofNat ((if s then Number.pow2 63 else 0) + magnitude)
  | infinite s => UInt64.ofNat ((if s then Number.pow2 63 else 0) + 2047 * Number.pow2 52)
  | nan => UInt64.ofNat (2047 * Number.pow2 52 + Number.pow2 51)

end Binary64

end NamedLock
