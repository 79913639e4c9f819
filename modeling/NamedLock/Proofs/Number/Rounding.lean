import Mathlib.Data.Nat.Digits.Defs
import Mathlib.Tactic.SplitIfs
import NamedLock.Number.Decimal

/-!
# Rounding — integers as double-precision numbers

An integer of more than 53 bits is rounded to a multiple of a power of two, the nearest one, or of two that are equally
near the even one. Taken back as an integer below a bound, the result is cut off at the ends: a negative one becomes
zero.
-/

namespace NamedLock

namespace Number

theorem pow2_eq (n : Nat) : pow2 n = 2 ^ n := rfl

/-- The number of steps that comes nearest to `n`; of two that are equally near it is the even one. -/
structure NearestEven (step : Nat) (n : Int) (q : Nat) : Prop where
  nearest : ∀ k : Int, (n - step * q).natAbs ≤ (n - step * k).natAbs
  tie : ∀ k : Int, k ≠ q → (n - step * q).natAbs = (n - step * k).natAbs → q % 2 = 0

/-- Half a step is near enough. -/
theorem NearestEven.of_half {step : Nat} {n : Int} {q : Nat} (near : 2 * (n - step * q).natAbs ≤ step)
    (even : 2 * (n - step * q).natAbs = step → q % 2 = 0) : NearestEven step n q := by
  -- other multiples are at least a step away from this one
  have apart : ∀ k : Int, k ≠ q → step ≤ (step * k - step * q : Int).natAbs := by
    intro k hk
    have hone : 1 ≤ (k - q).natAbs := by omega
    calc
      step ≤ step * (k - q).natAbs := Nat.le_mul_of_pos_right step hone
      _ = (step * k - step * q : Int).natAbs := by rw [← Int.mul_sub, Int.natAbs_mul, Int.natAbs_natCast]
  constructor
  case nearest =>
    intro k
    by_cases hk : k = q
    · rw [hk]
    · have := apart k hk
      omega
  case tie =>
    intro k hk hequal
    have := apart k hk
    exact even (by omega)

end Number

namespace Binary64

open Number

/-! ## Quotients -/

section Quotients

variable (num : Nat) {den : Nat}

theorem le_divNearestEven (den : Nat) : num / den ≤ divNearestEven num den := by
  unfold divNearestEven
  dsimp only
  split_ifs <;> omega

theorem divNearestEven_le (den : Nat) : divNearestEven num den ≤ num / den + 1 := by
  unfold divNearestEven
  dsimp only
  split_ifs <;> omega

/-- The quotient is rounded to the nearest integer, a tie going to the even one. -/
theorem divNearestEven_nearest (hden : 0 < den) : NearestEven den num (divNearestEven num den) := by
  have hdivision : den * (num / den) + num % den = num := Nat.div_add_mod num den
  have hremainder : num % den < den := Nat.mod_lt num hden
  unfold divNearestEven
  dsimp only
  generalize num / den = q at hdivision ⊢
  generalize num % den = r at hdivision hremainder ⊢
  subst hdivision
  have hbelow : ((den * q + r : Nat) : Int) - den * q = r := by omega
  have habove : ((den * q + r : Nat) : Int) - den * (q + 1 : Nat) = r - den := by
    have hnext : den * (q + 1) = den * q + den := Nat.mul_succ den q
    rw [← Int.natCast_mul, hnext]
    omega
  split_ifs
  · exact .of_half (by omega) (by omega)
  · exact .of_half (by omega) (by omega)
  · exact .of_half (by omega) (by omega)
  · exact .of_half (by omega) (by omega)

@[simp] theorem divNearestUp_one : divNearestUp num 1 = num := by
  unfold divNearestUp
  omega

end Quotients

/-! ## Integers -/

variable {bound : Nat}

/-- A negative number is cut off at zero. -/
theorem roundSaturating_ofRatio_negative (bound num den : Nat) : (ofRatio true num den).roundSaturating bound = 0 := by
  unfold ofRatio zero
  dsimp only
  split_ifs <;> rfl

theorem roundSaturating_finite (bound m e : Nat) :
    (finite false m e).roundSaturating bound = min (m * 2 ^ e) (bound - 1) := by
  simp [roundSaturating, scaled, pow2_eq]

/-- What is not finite is cut off as what is beyond the bound. -/
theorem roundSaturating_infinite {value : Nat} (h : bound - 1 ≤ value) :
    (infinite false).roundSaturating bound = min value (bound - 1) :=
  (Nat.min_eq_right h).symm

/-- An integer of `53 + e` bits keeps 53 of them. -/
theorem fittingExponent_one {num e : Nat} (he : num.log2 = e + 52) (hnum : num ≠ 0) : fittingExponent num 1 = e := by
  have hlow : 2 ^ (e + 52) ≤ num := he ▸ Nat.log2_self_le hnum
  have hguess : (num.log2 : Int) - ((1 : Nat).log2 : Int) - 52 = e := by
    have hone : (1 : Nat).log2 = 0 := by decide
    omega
  have hfits : ¬num < pow2 52 * (1 * pow2 e) := by
    rw [Nat.one_mul, pow2_eq, pow2_eq, ← Nat.pow_add, Nat.add_comm]
    omega
  simp only [fittingExponent, hguess, Int.natCast_nonneg, if_true, Int.toNat_natCast, if_neg hfits]
  have hleast : leastExponent ≤ e := by
    unfold leastExponent
    omega
  exact Int.max_eq_left hleast

/-- Significands of 53 bits at exponents from 12 on stand for values that do not fit 64 bits. -/
theorem le_of_significand {m e : Nat} (hm : 2 ^ 52 ≤ m) (he : 12 ≤ e) : 2 ^ 64 ≤ m * 2 ^ e := by
  calc
    2 ^ 64 = 2 ^ 52 * 2 ^ 12 := Nat.pow_add 2 52 12
    _ ≤ m * 2 ^ e := Nat.mul_le_mul hm (Nat.pow_le_pow_right (by decide) he)

/-- A significand of 53 bits at its exponent; what is too large for a finite value is beyond the bound as well. -/
theorem roundSaturating_fitted {m e : Nat} (hbound : bound ≤ 2 ^ 64) (hm : 2 ^ 52 ≤ m) :
    (if (e : Int) > greatestExponent then infinite false
      else if m = 0 then zero false else finite false m e).roundSaturating bound = min (m * 2 ^ e) (bound - 1) := by
  split_ifs with hinfinite hzero
  · have hlarge : 2 ^ 64 ≤ m * 2 ^ e := by
      refine le_of_significand hm ?_
      unfold greatestExponent at hinfinite
      omega
    exact roundSaturating_infinite (by omega)
  · subst hzero
    exact absurd hm (by decide)
  · exact roundSaturating_finite bound m e

/-- The significand of an integer has 53 bits, or it is one more than the largest of these. -/
theorem significand_bounds {num e : Nat} (he : num.log2 = e + 52) (hnum : num ≠ 0) :
    2 ^ 52 ≤ divNearestEven num (2 ^ e) ∧ divNearestEven num (2 ^ e) ≤ 2 ^ 53 := by
  have hpos : 0 < 2 ^ e := Nat.two_pow_pos e
  have hlow : 2 ^ 52 ≤ num / 2 ^ e := by
    rw [Nat.le_div_iff_mul_le hpos, ← Nat.pow_add, Nat.add_comm, ← he]
    exact Nat.log2_self_le hnum
  have hhigh : num / 2 ^ e < 2 ^ 53 := by
    rw [Nat.div_lt_iff_lt_mul hpos, ← Nat.pow_add, show 53 + e = num.log2 + 1 by omega]
    exact Nat.lt_log2_self
  have hfloor := le_divNearestEven num (2 ^ e)
  have hceil := divNearestEven_le num (2 ^ e)
  omega

/-- An integer of `53 + e` bits is rounded to a multiple of `2 ^ e`, and cut off below the bound. -/
theorem roundSaturating_ofRatio {num e : Nat} (hbound : bound ≤ 2 ^ 64) (he : num.log2 = e + 52) (hnum : num ≠ 0) :
    (ofRatio false num 1).roundSaturating bound = min (divNearestEven num (2 ^ e) * 2 ^ e) (bound - 1) := by
  obtain ⟨hlow, hhigh⟩ := significand_bounds he hnum
  unfold ofRatio
  simp only [fittingExponent_one he hnum, if_neg hnum, Int.natCast_nonneg, if_true, Int.toNat_natCast, Nat.one_mul,
    pow2_eq]
  generalize divNearestEven num (2 ^ e) = m at hlow hhigh ⊢
  by_cases hcarry : m = significandBound
  · -- the significand is halved, the exponent goes up by one
    rw [if_pos hcarry]
    have hvalue : m * 2 ^ e = 2 ^ 52 * 2 ^ (e + 1) := by
      calc
        m * 2 ^ e = 2 ^ 52 * 2 * 2 ^ e := congrArg (· * 2 ^ e) hcarry
        _ = 2 ^ 52 * (2 * 2 ^ e) := Nat.mul_assoc ..
        _ = 2 ^ 52 * 2 ^ (e + 1) := congrArg (2 ^ 52 * ·) (Nat.pow_succ' ..).symm
    rw [hvalue]
    exact roundSaturating_fitted hbound (Nat.le_refl _)
  · rw [if_neg hcarry]
    exact roundSaturating_fitted hbound hlow

end Binary64

/-! ## Decimals without a fraction -/

namespace Number.Decimal

open Binary64

variable {bound c : Nat}

/-- A negative decimal is cut off at zero. -/
theorem roundSaturating_negative (bound c : Nat) : (toBinary64 ⟨true, c, 0⟩).roundSaturating bound = 0 := by
  unfold toBinary64
  dsimp only
  split_ifs with _ hlarge hsmall hexponent
  · rfl
  · rfl
  · rfl
  · exact roundSaturating_ofRatio_negative _ _ _
  · exact absurd (Int.le_refl 0) hexponent

/-- Without a fraction, digits of 64 bits or more are rounded as the integer they stand for, however many they are. -/
theorem roundSaturating_toBinary64 {e : Nat} (hbound : bound ≤ 2 ^ 64) (he : c.log2 = e + 52) (hc : c ≠ 0) :
    (toBinary64 ⟨false, c, 0⟩).roundSaturating bound = min (divNearestEven c (2 ^ e) * 2 ^ e) (bound - 1) := by
  unfold toBinary64
  dsimp only
  rw [if_neg hc]
  split_ifs with hlarge hsmall hexponent
  · -- too many digits for a finite value are too many for 64 bits
    have hdigits : ¬c < 10 ^ 20 := by
      intro hlt
      have hlength := Nat.toDigits_length 10 c 20 (by decide) hlt
      unfold reach at hlarge
      omega
    have hlog : 64 ≤ c.log2 := (Nat.le_log2 hc).2 (by omega)
    have hvalue : 2 ^ 64 ≤ divNearestEven c (2 ^ e) * 2 ^ e :=
      le_of_significand (significand_bounds he hc).1 (by omega)
    exact roundSaturating_infinite (by omega)
  · unfold reach at hsmall
    omega
  · have hsame : c * pow10 (0 : Int).toNat = c := Nat.mul_one c
    rw [hsame]
    exact roundSaturating_ofRatio hbound he hc
  · exact absurd (Int.le_refl 0) hexponent

/-- Beyond the range of signed 64-bit integers, what is cut off below `2 ^ 64` is a multiple of 2048. -/
theorem roundSaturating_word (hc : 2 ^ 63 ≤ c) :
    ∃ q, NearestEven 2048 c q ∧ (toBinary64 ⟨false, c, 0⟩).roundSaturating (2 ^ 64) = min (2048 * q) (2 ^ 64 - 1) := by
  have hne : c ≠ 0 := by omega
  have hlow : 63 ≤ c.log2 := (Nat.le_log2 hne).2 hc
  obtain ⟨e, he⟩ : ∃ e, c.log2 = e + 52 := ⟨c.log2 - 52, by omega⟩
  refine ⟨divNearestEven c 2048, divNearestEven_nearest c (by decide), ?_⟩
  rw [roundSaturating_toBinary64 (Nat.le_refl _) he hne]
  by_cases hword : c < 2 ^ 64
  · have hhigh : c.log2 < 64 := (Nat.log2_lt hne).2 hword
    have hstep : 2 ^ e = 2048 := by simp [show e = 11 by omega]
    rw [hstep, Nat.mul_comm]
  · -- both multiples are beyond the bound
    have hlog : 64 ≤ c.log2 := (Nat.le_log2 hne).2 (Nat.le_of_not_lt hword)
    have hvalue : 2 ^ 64 ≤ divNearestEven c (2 ^ e) * 2 ^ e :=
      le_of_significand (significand_bounds he hne).1 (by omega)
    have hsteps : c / 2048 ≤ divNearestEven c 2048 := le_divNearestEven c 2048
    omega

end Number.Decimal

end NamedLock
