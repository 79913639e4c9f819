import Mathlib.Data.List.Basic
import NamedLock.Key

/-!
# Collision — which texts can share a hash

Every step of the hash is undone by the inverse of the prime and a second exclusive or, so a step loses nothing of the
state and nothing of the byte. A common ending therefore neither makes a collision nor hides one, and two texts of one
length that collide differ in two bytes at least: resources that are numbered apart by one digit never share a lock.
-/

namespace NamedLock

namespace Fnv

/-! ## Steps -/

/-- The multiplier that undoes the one of every step, modulo 2^32. -/
def inversePrime : UInt32 := 0x359c449b

theorem prime_mul_inversePrime : prime * inversePrime = 1 := by decide

theorem mul_prime_inj {h h' : UInt32} : h * prime = h' * prime ↔ h = h' := by
  constructor
  · intro heq
    calc
      h = h * prime * inversePrime := by rw [UInt32.mul_assoc, prime_mul_inversePrime, UInt32.mul_one]
      _ = h' * prime * inversePrime := by rw [heq]
      _ = h' := by rw [UInt32.mul_assoc, prime_mul_inversePrime, UInt32.mul_one]
  · rintro rfl
    rfl

/-- A step loses nothing of the state. -/
theorem step_inj_state {h h' : UInt32} (b : UInt8) : step h b = step h' b ↔ h = h' := by
  unfold step
  rw [mul_prime_inj, UInt32.xor_left_inj]

/-- A step loses nothing of the byte. -/
theorem step_inj_byte (h : UInt32) {b b' : UInt8} : step h b = step h b' ↔ b = b' := by
  unfold step
  rw [mul_prime_inj, UInt32.xor_right_inj, UInt8.toUInt32_inj]

theorem absorb_inj {h h' : UInt32} (bs : List UInt8) : absorb h bs = absorb h' bs ↔ h = h' := by
  induction bs generalizing h h' with
  | nil => exact Iff.rfl
  | cons b bs ih =>
    have hrest : absorb (step h b) bs = absorb (step h' b) bs ↔ step h b = step h' b := ih
    exact hrest.trans (step_inj_state b)

/-! ## Bytes -/

theorem bytes_append (s t : String) : bytes (s ++ t) = bytes s ++ bytes t := by
  simp [bytes, String.toUTF8]

/-- A character of ASCII is one byte. -/
theorem bytes_singleton {c : Char} (hc : c.toNat < 128) : bytes (String.singleton c) = [UInt8.ofNat c.toNat] := by
  have hle : c.val.toNat ≤ 127 := Nat.le_of_lt_succ hc
  have hencode : String.utf8EncodeChar c = [UInt8.ofNat c.toNat] := by
    simp only [String.utf8EncodeChar, if_pos hle]
    rfl
  rw [bytes, String.toUTF8, String.toByteArray_singleton, List.utf8Encode_singleton, hencode]
  rfl

/-- Two lists of one length that differ at exactly one place agree before it, and after it. -/
theorem exists_split_of_differ {x y : List UInt8} (hlength : x.length = y.length) (hdiffer : ∃! i : Nat, x[i]? ≠ y[i]?) :
    ∃ front b b' back, b ≠ b' ∧ x = front ++ b :: back ∧ y = front ++ b' :: back := by
  obtain ⟨i, hi, hunique⟩ := hdiffer
  have hsame : ∀ j, j ≠ i → x[j]? = y[j]? := by
    intro j hj
    by_contra hne
    exact hj (hunique j hne)
  have hx : i < x.length := by
    by_contra hge
    exact hi (by rw [List.getElem?_eq_none (by omega), List.getElem?_eq_none (by omega)])
  have hy : i < y.length := hlength ▸ hx
  have hfront : x.take i = y.take i := by
    refine List.ext_getElem? fun j => ?_
    rw [List.getElem?_take, List.getElem?_take]
    split
    next hj => exact hsame j (Nat.ne_of_lt hj)
    next => rfl
  have hback : x.drop (i + 1) = y.drop (i + 1) := by
    refine List.ext_getElem? fun j => ?_
    rw [List.getElem?_drop, List.getElem?_drop]
    exact hsame _ (by omega)
  refine ⟨x.take i, x[i], y[i], x.drop (i + 1), ?_, ?_, ?_⟩
  · intro heq
    exact hi (by rw [List.getElem?_eq_getElem hx, List.getElem?_eq_getElem hy, heq])
  · rw [List.getElem_cons_drop, List.take_append_drop]
  · rw [hfront, hback, List.getElem_cons_drop, List.take_append_drop]

/-- Lists that agree before a place and after it differ there only. -/
theorem existsUnique_differ (front back : List UInt8) {b b' : UInt8} (hne : b ≠ b') :
    ∃! i : Nat, (front ++ b :: back)[i]? ≠ (front ++ b' :: back)[i]? := by
  refine ⟨front.length, by simpa using hne, ?_⟩
  intro j hj
  by_contra hfar
  refine hj ?_
  rcases Nat.lt_trichotomy j front.length with hlt | heq | hgt
  · simp [List.getElem?_append_left hlt]
  · exact absurd heq hfar
  · obtain ⟨k, rfl⟩ : ∃ k, j = front.length + (k + 1) := ⟨j - front.length - 1, by omega⟩
    simp [List.getElem?_append_right]

/-- Two texts of one length in bytes that differ at exactly one place. -/
def OneByteApart (s t : String) : Prop :=
  (bytes s).length = (bytes t).length ∧ ∃! i : Nat, (bytes s)[i]? ≠ (bytes t)[i]?

theorem oneByteApart_iff {s t : String} :
    OneByteApart s t ↔ ∃ front b b' back, b ≠ b' ∧ bytes s = front ++ b :: back ∧ bytes t = front ++ b' :: back := by
  constructor
  · rintro ⟨hlength, hdiffer⟩
    exact exists_split_of_differ hlength hdiffer
  · rintro ⟨front, b, b', back, hne, hs, ht⟩
    unfold OneByteApart
    rw [hs, ht]
    exact ⟨by simp, existsUnique_differ front back hne⟩

theorem toNat_lt_of_isDigit {c : Char} (hc : c.isDigit = true) : c.toNat < 128 := by
  simp only [Char.isDigit, Bool.and_eq_true, decide_eq_true_eq, UInt32.le_iff_toNat_le] at hc
  exact Nat.lt_of_le_of_lt hc.2 (by decide)

/-- Texts that are numbered apart by one digit. -/
theorem oneByteApart_digit (front back : String) {d d' : Char} (hd : d.isDigit = true) (hd' : d'.isDigit = true)
    (hne : d ≠ d') : OneByteApart (front ++ String.singleton d ++ back) (front ++ String.singleton d' ++ back) := by
  have h := toNat_lt_of_isDigit hd
  have h' := toNat_lt_of_isDigit hd'
  rw [oneByteApart_iff]
  refine ⟨bytes front, UInt8.ofNat d.toNat, UInt8.ofNat d'.toNat, bytes back, ?_, ?_, ?_⟩
  · intro hbyte
    refine hne (Char.toNat_inj.1 ?_)
    calc
      d.toNat = (UInt8.ofNat d.toNat).toNat := by
        rw [UInt8.toNat_ofNat', Nat.mod_eq_of_lt (by omega)]
      _ = (UInt8.ofNat d'.toNat).toNat := by rw [hbyte]
      _ = d'.toNat := by rw [UInt8.toNat_ofNat', Nat.mod_eq_of_lt (by omega)]
  · rw [bytes_append, bytes_append, bytes_singleton h, List.append_assoc, List.singleton_append]
  · rw [bytes_append, bytes_append, bytes_singleton h', List.append_assoc, List.singleton_append]

/-! ## Collisions -/

theorem hash_eq_iff {s t : String} : hash s = hash t ↔ absorb basis (bytes s) = absorb basis (bytes t) := by
  constructor
  · intro h
    -- the signed number has the same bits as the state
    calc
      absorb basis (bytes s) = (hash s).toUInt32 := (UInt32.toUInt32_toInt32 _).symm
      _ = (hash t).toUInt32 := by rw [h]
      _ = absorb basis (bytes t) := UInt32.toUInt32_toInt32 _
  · intro h
    rw [hash, hash, h]

theorem hash_append_eq_iff (s t u : String) : hash (s ++ u) = hash (t ++ u) ↔ hash s = hash t := by
  rw [hash_eq_iff, hash_eq_iff, bytes_append, bytes_append, absorb_append, absorb_append, absorb_inj]

theorem OneByteApart.hash_ne {s t : String} (h : OneByteApart s t) : hash s ≠ hash t := by
  obtain ⟨front, b, b', back, hne, hs, ht⟩ := oneByteApart_iff.1 h
  intro heq
  rw [hash_eq_iff, hs, ht, absorb_append, absorb_append] at heq
  -- both texts have come to one state before the byte in which they differ
  have hstep : step (absorb basis front) b = step (absorb basis front) b' := (absorb_inj back).1 heq
  exact hne ((step_inj_byte _).1 hstep)

end Fnv

/-- A common ending neither makes a collision nor hides one, and one changed byte never makes one. So keys whose
resources are numbered apart by one digit are known to a database by different pairs, whatever their classes. -/
theorem collision_needs_two_bytes :
    (∀ s t u : String, Fnv.hash (s ++ u) = Fnv.hash (t ++ u) ↔ Fnv.hash s = Fnv.hash t) ∧
      (∀ s t : String, Fnv.OneByteApart s t → Fnv.hash s ≠ Fnv.hash t) ∧
      ∀ (front back : String) (d d' : Char) (c c' : LockClass), d.isDigit = true → d'.isDigit = true → d ≠ d' →
        LockKey.hashes { resourceId := front ++ String.singleton d ++ back, lockClass := c } ≠
          LockKey.hashes { resourceId := front ++ String.singleton d' ++ back, lockClass := c' } := by
  refine ⟨Fnv.hash_append_eq_iff, fun s t h => h.hash_ne, ?_⟩
  intro front back d d' c c' hd hd' hne heq
  have hresource := congrArg Prod.fst heq
  exact (Fnv.oneByteApart_digit front back hd hd' hne).hash_ne hresource

/-- Herds 17 and 27 of one farm have different pairs, and so have the texts of their numbers. -/
theorem collision_needs_two_bytes_herds :
    Fnv.OneByteApart "herd-17-north" "herd-27-north" ∧ Fnv.hash "herd-17-north" ≠ Fnv.hash "herd-27-north" ∧
      LockKey.hashes { resourceId := "herd-17-north", lockClass := .dinosaurs } ≠
        LockKey.hashes { resourceId := "herd-27-north", lockClass := .dinosaurs } := by
  obtain ⟨-, hbyte, hdigit⟩ := collision_needs_two_bytes
  have hapart : Fnv.OneByteApart "herd-17-north" "herd-27-north" :=
    @Fnv.oneByteApart_digit "herd-" "7-north" '1' '2' (by decide) (by decide) (by decide)
  exact ⟨hapart, hbyte _ _ hapart,
    hdigit "herd-" "7-north" '1' '2' .dinosaurs .dinosaurs (by decide) (by decide) (by decide)⟩

end NamedLock
