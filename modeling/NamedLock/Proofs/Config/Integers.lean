import NamedLock.Proofs.Config.Refusals
import NamedLock.Proofs.Number.Decimal
import NamedLock.Proofs.Number.Rounding

/-!
# Integers — numbers out of variables

The decimal text of an integer is taken for a signed 64-bit integer, or for a double-precision number when it is none.
So a setting that holds a number takes the integer or refuses it, as long as 64 bits hold it with its sign. Beyond that
it takes what the nearest double-precision number comes to when it is cut off at the ends of 64 bits: a negative one
becomes zero, a positive one a multiple of 2048 or the largest number there is.
-/

namespace NamedLock

namespace Config

open Number (showInt inSigned64 inSigned64_iff NearestEven)

/-- Settings in which one is this number, and all others are as without any source. -/
def Setting.SetsOnly (f : Setting) (m : Nat) (service : String) (app : AppSettings) : Prop :=
  ∀ g : Setting, g.get app = if g = f then .number m else g.fallback service "development"

namespace Environment

/-! ## What an integer is taken for -/

theorem guess_showInt (n : Int) : guess (showInt n) =
    if inSigned64 n then .integer n else .real (Number.Decimal.toBinary64 ⟨decide (n < 0), n.natAbs, 0⟩) := by
  -- no truth value is written with digits
  have hword : ∀ word : String, 't' ∈ word.toList ∨ 'f' ∈ word.toList → showInt n ≠ word := by
    rintro word hletter rfl
    rcases hletter with ht | hf
    · exact absurd (Number.mem_showInt n ht) (by decide)
    · exact absurd (Number.mem_showInt n hf) (by decide)
  have htrue : showInt n ≠ "true" := hword "true" (.inl (by decide))
  have hfalse : showInt n ≠ "false" := hword "false" (.inr (by decide))
  simp only [guess, Number.lower_showInt, if_neg htrue, if_neg hfalse, Number.readSigned64?_showInt,
    Number.readReal?_showInt]
  split_ifs <;> rfl

variable {n : Int} {o : Origin}

theorem readWord_signed (h : inSigned64 n) :
    readWord (.scalar (guess (showInt n)) o) =
      if n < 0 then .error (unexpected (.scalar (.integer n) o) "an unsigned 64 bit or less integer")
      else .ok n.toNat := by
  rw [guess_showInt, if_pos h]
  rfl

/-- A number below the signed range is cut off at zero. -/
theorem readWord_below (h : n < -2 ^ 63) : readWord (.scalar (guess (showInt n)) o) = .ok 0 := by
  have hno : ¬inSigned64 n := by
    rw [inSigned64_iff]
    omega
  have hnegative : decide (n < 0) = true := decide_eq_true (by omega)
  -- finite or not, what is negative becomes zero
  rw [guess_showInt, if_neg hno, hnegative]
  exact congrArg Except.ok (Number.Decimal.roundSaturating_negative wordBound n.natAbs)

/-- A number above the signed range is rounded, and cut off below `2 ^ 64`. -/
theorem readWord_above (h : 2 ^ 63 ≤ n) : ∃ k, NearestEven 2048 n k ∧
    readWord (.scalar (guess (showInt n)) o) = .ok (min (2048 * k) (2 ^ 64 - 1)) := by
  have hno : ¬inSigned64 n := by
    rw [inSigned64_iff]
    omega
  have hnonneg : decide (n < 0) = false := decide_eq_false (by omega)
  have habs : (n.natAbs : Int) = n := Int.natAbs_of_nonneg (by omega)
  obtain ⟨k, hnearest, hrounded⟩ := Number.Decimal.roundSaturating_word (c := n.natAbs) (by omega)
  refine ⟨k, habs ▸ hnearest, ?_⟩
  rw [guess_showInt, if_neg hno, hnonneg]
  exact congrArg Except.ok hrounded

end Environment

/-! ## Settings that hold numbers -/

section Number

variable {f : Setting} {w : Width} {s : String} {m : Nat} (service : String)

open Environment

theorem load_of_readWord (hf : f.kind = .number w) (hm : readWord (.scalar (guess s) (some origin)) = .ok m)
    (hlt : m < w.bound) :
    ∃ app, load service [(f.variableName, s)] (fun _ => none) = .ok app ∧ f.SetsOnly m service app := by
  have hread : f.kind.ofText? s = some (.number m) := by
    rw [Kind.ofText?, hf, Kind.read, readUnsigned, hm]
    simp only [if_pos hlt]
    rfl
  exact load_ofOneVariable service hread

theorem load_refused_of_readWord (hf : f.kind = .number w)
    (hm : ∀ m, readWord (.scalar (guess s) (some origin)) = .ok m → ¬m < w.bound) :
    ∃ e, load service [(f.variableName, s)] (fun _ => none) = .error e := by
  have hread : f.kind.ofText? s = none := by
    rw [Kind.ofText?, hf, Kind.read, readUnsigned]
    cases hword : readWord (.scalar (guess s) (some origin)) with
    | error e => rfl
    | ok m =>
      simp only [if_neg (hm m hword)]
      rfl
  exact load_refused_ofOneVariable service hread

end Number

/-- No width holds more than 64 bits, and the others hold no more than 32. -/
theorem Width.bound_cases (w : Width) :
    (w = .bits64 ∧ w.bound = 2 ^ 64) ∨ (w ≠ .bits64 ∧ 0 < w.bound ∧ w.bound ≤ 2 ^ 32) := by
  cases w with
  | bits16 => exact .inr (by decide)
  | bits32 => exact .inr (by decide)
  | bits64 => exact .inl ⟨rfl, rfl⟩

/-- Rounding does not lead back below the power of two that a number has reached. -/
theorem le_of_nearest {n : Int} {k : Nat} (h : NearestEven 2048 n k) (hn : 2 ^ 63 ≤ n) : 2 ^ 63 ≤ 2048 * k := by
  have hclose := h.nearest (2 ^ 52)
  omega

section Integer

variable {f : Setting} {w : Width} {n : Int} (hf : f.kind = .number w) (service : String)

include hf

/-- Within the signed range the integer is taken as it is, or refused. -/
theorem load_signed (hsigned : inSigned64 n) :
    (0 ≤ n ∧ n < w.bound → ∃ app, load service [(f.variableName, showInt n)] (fun _ => none) = .ok app ∧
        f.SetsOnly n.toNat service app) ∧
      (¬(0 ≤ n ∧ n < w.bound) → ∃ e, load service [(f.variableName, showInt n)] (fun _ => none) = .error e) := by
  have hword := Environment.readWord_signed (o := some Environment.origin) hsigned
  constructor
  · rintro ⟨hnonneg, hfits⟩
    rw [if_neg (by omega)] at hword
    exact load_of_readWord service hf hword (by omega)
  · intro hno
    apply load_refused_of_readWord service hf
    intro m hm
    rw [hword] at hm
    split_ifs at hm
    cases hm
    omega

/-- Above the signed range, what the integer is rounded to does not fit a narrow setting. -/
theorem load_above_narrow (habove : 2 ^ 63 ≤ n) (hnarrow : w.bound ≤ 2 ^ 32) :
    ∃ e, load service [(f.variableName, showInt n)] (fun _ => none) = .error e := by
  obtain ⟨k, hnearest, hword⟩ := Environment.readWord_above (o := some Environment.origin) habove
  have hlarge : 2 ^ 63 ≤ 2048 * k := le_of_nearest hnearest habove
  apply load_refused_of_readWord service hf
  intro m hm
  cases hword.symm.trans hm
  omega

end Integer

/-- A setting that holds a number of some width takes an integer from its variable exactly when the number can be this
integer, and else refuses it, as long as the integer is not below `-2 ^ 63` and, where the width is 64 bits, is below
`2 ^ 63`. From there on a setting of 64 bits takes the multiple of 2048 that is nearest to the integer, the even one of
two, or the largest number of 64 bits when this multiple is larger. Below `-2 ^ 63` a setting of any width takes zero. -/
theorem integer_override_rounded {f : Setting} {w : Width} (hf : f.kind = .number w) (service : String) (n : Int) :
    let byVariable := load service [(f.variableName, showInt n)] fun _ => none
    (-2 ^ 63 ≤ n → n < 2 ^ 63 ∨ w ≠ .bits64 →
        (0 ≤ n ∧ n < w.bound → ∃ app, byVariable = .ok app ∧ f.SetsOnly n.toNat service app) ∧
          (¬(0 ≤ n ∧ n < w.bound) → ∃ e, byVariable = .error e)) ∧
      (2 ^ 63 ≤ n → w = .bits64 → ∃ k app, NearestEven 2048 n k ∧ byVariable = .ok app ∧
        f.SetsOnly (min (2048 * k) (2 ^ 64 - 1)) service app) ∧
      (n < -2 ^ 63 → ∃ app, byVariable = .ok app ∧ f.SetsOnly 0 service app) := by
  intro byVariable
  refine ⟨fun hlow hhigh => ?within, fun habove hw => ?above, fun hbelow => ?below⟩
  case within =>
    by_cases hsigned : n < 2 ^ 63
    · exact load_signed hf service (inSigned64_iff.2 ⟨hlow, hsigned⟩)
    · have hnarrow : w.bound ≤ 2 ^ 32 := by
        rcases w.bound_cases with ⟨hw, -⟩ | ⟨-, -, hbound⟩
        · exact absurd hw (hhigh.resolve_left hsigned)
        · exact hbound
      constructor
      · rintro ⟨-, hfits⟩
        omega
      · exact fun _ => load_above_narrow hf service (Int.not_lt.1 hsigned) hnarrow
  case above =>
    obtain ⟨k, hnearest, hword⟩ := Environment.readWord_above (o := some Environment.origin) habove
    have hfits : min (2048 * k) (2 ^ 64 - 1) < w.bound := by
      rcases w.bound_cases with ⟨-, hbound⟩ | ⟨hno, -⟩
      · omega
      · exact absurd hw hno
    obtain ⟨app, hok, hsets⟩ := load_of_readWord service hf hword hfits
    exact ⟨k, app, hnearest, hok, hsets⟩
  case below =>
    have hfits : 0 < w.bound := by
      rcases w.bound_cases with ⟨-, hbound⟩ | ⟨-, hpos, -⟩
      · omega
      · exact hpos
    exact load_of_readWord service hf (Environment.readWord_below hbelow) hfits

/-- One more than the first number beyond the signed ones: it is rounded down by one. -/
theorem integer_override_loses_one : ∃ app,
    load "lock-probe" [("LOCK_PROBE__HOLD_SECONDS", "9223372036854775809")] (fun _ => none) = .ok app ∧
      app.probe.holdSeconds = 9223372036854775808 := by
  have hname : (Setting.probe .holdSeconds).variableName = "LOCK_PROBE__HOLD_SECONDS" := by decide +kernel
  have htext : showInt 9223372036854775809 = "9223372036854775809" := by decide +kernel
  obtain ⟨k, app, hnearest, hok, hsets⟩ := (integer_override_rounded (f := .probe .holdSeconds) (w := .bits64) rfl
    "lock-probe" 9223372036854775809).2.1 (by decide) rfl
  rw [hname, htext] at hok
  -- the multiple is one away
  have hclose := hnearest.nearest (2 ^ 52)
  have hk : min (2048 * k) (2 ^ 64 - 1) = 9223372036854775808 := by omega
  have hhold := hsets (.probe .holdSeconds)
  rw [hk, if_pos rfl] at hhold
  exact ⟨app, hok, UInt64.toNat_inj.1 (Datum.number.inj hhold)⟩

/-- So a number that fits its setting is not always taken as it stands. -/
theorem integer_override_not_exact : ¬ ∀ n : Nat, n < 2 ^ 64 → ∃ app,
    load "lock-probe" [("LOCK_PROBE__HOLD_SECONDS", showInt n)] (fun _ => none) = .ok app ∧
      app.probe.holdSeconds.toNat = n := by
  intro hexact
  obtain ⟨app, hok, hhold⟩ := hexact 9223372036854775809 (by decide)
  have hrounded : load "lock-probe" [("LOCK_PROBE__HOLD_SECONDS", showInt (9223372036854775809 : Nat))] (fun _ => none) =
      .ok { serviceName := "lock-probe", environment := "development",
            probe := { holdSeconds := 9223372036854775808 } } := by
    decide +kernel
  rw [hrounded] at hok
  cases hok
  exact absurd hhold (by decide)

end Config

end NamedLock
