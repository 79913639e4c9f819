import NamedLock.Number.Decimal

/-!
# Punycode — labels of a domain name in ASCII

A label with other characters than ASCII is written in ASCII: its ASCII characters, a hyphen, and digits in base
36 that say which further characters stand where. `decode?` reads that form. The further characters come in
ascending order, each as the distance from the one before, a number whose digits grow in weight.
-/

namespace NamedLock

namespace Domain

namespace Punycode

/-- The value of a digit: letters first, then the ten decimal digits. -/
def digit? (c : Char) : Option Nat :=
  if Number.isDigit c then some (c.toNat - '0'.toNat + 26)
  else if 'a' ≤ c ∧ c ≤ 'z' then some (c.toNat - 'a'.toNat)
  else if 'A' ≤ c ∧ c ≤ 'Z' then some (c.toNat - 'A'.toNat)
  else none

/-- A digit below this ends a number; `place` counts up in steps of the base. -/
def threshold (place bias : Nat) : Nat :=
  if place ≤ bias then 1 else min 26 (place - bias)

/-- Reads a number off the front: the sum of its digits by weight, and the rest. A weight has 32 bits. -/
def number? (bias : Nat) : List Char → (place weight : Nat) → Option (Nat × List Char)
  | [], _, _ => none
  | c :: cs, place, weight =>
    match digit? c with
    | none => none
    | some d =>
      let t := threshold place bias
      if d < t then some (d * weight, cs)
      else if weight * (36 - t) < Number.pow2 32 then
        (number? bias cs (place + 36) (weight * (36 - t))).map fun r => (d * weight + r.1, r.2)
      else none

/-- Reading a number uses up at least one character. -/
theorem length_lt_of_number? {bias : Nat} {cs rest : List Char} {place weight n : Nat}
    (h : number? bias cs place weight = some (n, rest)) : rest.length < cs.length := by
  induction cs generalizing place weight n with
  | nil => simp [number?] at h
  | cons c cs ih =>
    simp only [number?] at h
    split at h
    · cases h
    · split at h
      · cases h
        simp
      · split at h
        · obtain ⟨r, hr, hrest⟩ := Option.map_eq_some_iff.1 h
          cases hrest
          exact Nat.lt_succ_of_lt (ih hr)
        · cases h

/-- Divides until what is left is small, and counts the places; `fuel` bounds the number of divisions. -/
def settle : Nat → (delta place : Nat) → Nat
  | 0, _, place => place
  | fuel + 1, delta, place =>
    if 455 < delta then settle fuel (delta / 35) (place + 36)
    else place + 36 * delta / (delta + 38)

/-- The bias after a number: it follows the size of the numbers so far. -/
def bias (distance count : Nat) (isFirst : Bool) : Nat :=
  let d := if isFirst then distance / 700 else distance / 2
  settle 32 (d + d / count) 0

/-- Whether a number is that of a character. -/
def isCharacter (n : Nat) : Bool := n < 0xD800 || (0xDFFF < n && n < 0x110000)

/-- Puts the further characters in. `code` and `start` are the least that the next one can be, and the least place
at which it can then stand. -/
def insertAll? (done : List Char) (b code start : Nat) (cs : List Char) : Option (List Char) :=
  match cs with
  | [] => some done
  | c :: cs =>
    match h : number? b (c :: cs) 36 1 with
    | none => none
    | some (distance, rest) =>
      let count := done.length + 1
      let position := start + distance
      let code' := code + position / count
      if isCharacter code' then
        insertAll? (done.insertIdx (position % count) (Char.ofNat code'))
          (bias distance count (start == 0)) code' (position % count + 1) rest
      else none
termination_by cs.length
decreasing_by exact length_lt_of_number? h

/-- The first character that is not ASCII. -/
def firstCode : Nat := 128

/-- The bias before the first number. -/
def firstBias : Nat := 72

/-- Reads the ASCII form of a label. The ASCII characters end at the last hyphen, unless there are none. -/
def decode? (cs : List Char) : Option (List Char) :=
  match cs.reverse.dropWhile (· ≠ '-') with
  | _ :: c :: front =>
    insertAll? (c :: front).reverse firstBias firstCode 0 (cs.reverse.takeWhile (· ≠ '-')).reverse
  | _ => insertAll? [] firstBias firstCode 0 cs

end Punycode

end Domain

end NamedLock
