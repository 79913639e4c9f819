import Mathlib.Algebra.Ring.Int.Defs
import Mathlib.Data.List.TakeWhile
import NamedLock.Number.Decimal
import NamedLock.Text.Case

/-!
# Decimal — integers written and read back

An integer in decimal is a minus sign, if it is negative, and digits. Read back as a signed 64-bit integer it is the
same one as long as it lies in the range; read as a number with a fraction, it is one without a fraction or exponent.
-/

namespace NamedLock

namespace Number

/-! ## Digits -/

section Digits

variable {c : Char}

theorem toNat_of_isDigit (h : isDigit c) : 48 ≤ c.toNat ∧ c.toNat ≤ 57 := by
  simpa [isDigit, Char.le_def, UInt32.le_iff_toNat_le] using h

theorem digitValue_of_isDigit (h : isDigit c) : digitValue c = c.toNat - '0'.toNat := if_pos h

theorem isDigit_digitChar {n : Nat} (h : n < 10) : isDigit n.digitChar := by
  have hall : ∀ n < 10, isDigit (Nat.digitChar n) = true := by decide
  exact hall n h

/-- A number is written with digits only. -/
theorem isDigit_of_mem_toDigits {n : Nat} (h : c ∈ Nat.toDigits 10 n) : isDigit c := by
  induction n using Nat.strongRecOn with
  | _ n ih =>
    rw [Nat.toDigits_eq_if (by decide)] at h
    split at h
    next hlt =>
      rw [List.mem_singleton.1 h]
      exact isDigit_digitChar hlt
    next hge =>
      rcases List.mem_append.1 h with hfront | hlast
      · exact ih (n / 10) (by omega) hfront
      · rw [List.mem_singleton.1 hlast]
        exact isDigit_digitChar (Nat.mod_lt n (by decide))

end Digits

/-- Digits are worth what they are read as. -/
theorem ofDigits_toDigits (n : Nat) : ofDigits 10 (Nat.toDigits 10 n) = n := by
  have hfold : ∀ (cs : List Char) (m : Nat), (∀ c ∈ cs, isDigit c) →
      cs.foldl (fun n c => n * 10 + digitValue c) m = Nat.ofDigitChars 10 cs m := by
    intro cs
    induction cs with
    | nil => exact fun m _ => rfl
    | cons c cs ih =>
      intro m h
      obtain ⟨hc, hcs⟩ := List.forall_mem_cons.1 h
      rw [List.foldl_cons, ih _ hcs, Nat.ofDigitChars_cons, digitValue_of_isDigit hc, Nat.mul_comm]
  rw [ofDigits, hfold _ 0 fun c => isDigit_of_mem_toDigits]
  exact Nat.ofDigitChars_ten_toDigits

theorem readDigits?_toDigits (n : Nat) : readDigits? (Nat.toDigits 10 n) = some n := by
  have hall : (Nat.toDigits 10 n).all isDigit = true := List.all_eq_true.2 fun c => isDigit_of_mem_toDigits
  simp [readDigits?, Nat.toDigits_ne_nil, hall, ofDigits_toDigits]

/-- A number starts with a digit. -/
theorem isDigit_of_toDigits_eq_cons {n : Nat} {c : Char} {cs : List Char} (h : Nat.toDigits 10 n = c :: cs) :
    isDigit c :=
  isDigit_of_mem_toDigits (h ▸ List.mem_cons_self)

/-! ## Integers -/

variable (z : Int)

theorem toList_showInt : (showInt z).toList = (if z < 0 then ['-'] else []) ++ Nat.toDigits 10 z.natAbs := by
  unfold showInt showNat
  split <;> simp

/-- The sign of an integer, and its digits. -/
theorem splitSign_showInt : splitSign (showInt z).toList = (decide (z < 0), Nat.toDigits 10 z.natAbs) := by
  rw [toList_showInt]
  split
  next h => simp [splitSign, h]
  next h =>
    rw [List.nil_append, splitSign]
    · simp [h]
    -- no digit is a sign
    · exact fun cs hcs => absurd (isDigit_of_toDigits_eq_cons hcs) (by decide)
    · exact fun cs hcs => absurd (isDigit_of_toDigits_eq_cons hcs) (by decide)

theorem signed_natAbs : (if decide (z < 0) then -(z.natAbs : Int) else z.natAbs) = z := by
  simp only [decide_eq_true_eq]
  split <;> omega

/-- An integer in decimal is read back as long as it has 64 bits. -/
theorem readSigned64?_showInt : readSigned64? (showInt z) = if inSigned64 z then some z else none := by
  simp only [readSigned64?, splitSign_showInt, readDigits?_toDigits, signed_natAbs]

theorem inSigned64_iff {z : Int} : inSigned64 z ↔ -2 ^ 63 ≤ z ∧ z < 2 ^ 63 := by
  simp only [inSigned64, Bool.and_eq_true, decide_eq_true_eq]
  exact Iff.rfl

/-- Digits alone are a decimal without a fraction or an exponent. -/
theorem readUnsignedDecimal?_toDigits (negative : Bool) (n : Nat) :
    readUnsignedDecimal? negative (Nat.toDigits 10 n) = some ⟨negative, n, 0⟩ := by
  have hall : ∀ c ∈ Nat.toDigits 10 n, isDigit c := fun c => isDigit_of_mem_toDigits
  have htake : (Nat.toDigits 10 n).takeWhile isDigit = Nat.toDigits 10 n :=
    List.takeWhile_eq_self_iff.2 hall
  have hdrop : (Nat.toDigits 10 n).dropWhile isDigit = [] :=
    List.dropWhile_eq_nil_iff.2 hall
  simp [readUnsignedDecimal?, htake, hdrop, Nat.toDigits_ne_nil, ofDigits_toDigits]

theorem toLower_of_isDigit {c : Char} (h : isDigit c) : c.toLower = c := by
  have hrange := toNat_of_isDigit h
  have hsmall : ¬(c.val ≥ 65 ∧ c.val ≤ 90) := by
    rw [ge_iff_le, UInt32.le_iff_toNat_le, UInt32.le_iff_toNat_le]
    change ¬(65 ≤ c.toNat ∧ c.toNat ≤ 90)
    omega
  exact dif_neg hsmall

/-- Read as a number with a fraction, an integer in decimal is the one that is nearest to it. -/
theorem readReal?_showInt : readReal? (showInt z) = some (Decimal.toBinary64 ⟨decide (z < 0), z.natAbs, 0⟩) := by
  have hlower : (Nat.toDigits 10 z.natAbs).map Char.toLower = Nat.toDigits 10 z.natAbs := by
    calc
      (Nat.toDigits 10 z.natAbs).map Char.toLower = (Nat.toDigits 10 z.natAbs).map id :=
        List.map_congr_left fun c hc => toLower_of_isDigit (isDigit_of_mem_toDigits hc)
      _ = Nat.toDigits 10 z.natAbs := List.map_id _
  simp only [readReal?, splitSign_showInt, hlower]
  -- the words start with letters
  split
  next h => exact absurd (isDigit_of_toDigits_eq_cons h) (by decide)
  next h => exact absurd (isDigit_of_toDigits_eq_cons h) (by decide)
  next h => exact absurd (isDigit_of_toDigits_eq_cons h) (by decide)
  next => rw [readUnsignedDecimal?_toDigits, Option.map_some]

/-- An integer is written with digits and perhaps a minus sign. -/
theorem mem_showInt {c : Char} (h : c ∈ (showInt z).toList) : c = '-' ∨ isDigit c := by
  rw [toList_showInt, List.mem_append] at h
  rcases h with hsign | hdigit
  · split at hsign
    next => exact .inl (List.mem_singleton.1 hsign)
    next => cases hsign
  · exact .inr (isDigit_of_mem_toDigits hdigit)

/-- Small letters leave an integer in decimal as it is. -/
theorem lower_showInt : Text.lower (showInt z) = showInt z := by
  have hkept : ∀ (cs before : List Char), (∀ c ∈ cs, c = '-' ∨ isDigit c) → Text.lowerFrom before cs = cs := by
    intro cs
    induction cs with
    | nil => exact fun _ _ => rfl
    | cons c cs ih =>
      intro before h
      obtain ⟨hc, hcs⟩ := List.forall_mem_cons.1 h
      have hsmall : Text.lowerChar c = [c] ∧ c ≠ 'Σ' := by
        rcases hc with rfl | hdigit
        · decide
        · have hrange := toNat_of_isDigit hdigit
          constructor
          · rw [Text.lowerChar, if_pos (by omega), toLower_of_isDigit hdigit]
          · rintro rfl
            exact absurd hdigit (by decide)
      simp only [Text.lowerFrom, if_neg hsmall.2, hsmall.1, ih _ hcs, List.singleton_append]
  rw [Text.lower, hkept _ _ fun c => mem_showInt z, String.ofList_toList]

end Number

end NamedLock
