import NamedLock.Number.Decimal

/-!
# Uuid — random identifiers of version 4

Thirty-two hexadecimal digits in groups of 8, 4, 4, 4 and 12. The first digit of the third group is the
version; the first digit of the fourth group carries the variant in its two upper bits.
-/

namespace NamedLock

namespace Uuid

/-- The lengths of the groups. -/
def groupLengths : List Nat := [8, 4, 4, 4, 12]

/-- `places` hexadecimal digits of a number, most significant first. -/
def hexDigits : Nat → Nat → List Char
  | 0, _ => []
  | places + 1, n => hexDigits places (n / 16) ++ [Nat.digitChar (n % 16)]

/-- Splits digits into groups and writes dashes between them. -/
def grouped : List Nat → List Char → List Char
  | [], ds => ds
  | [_], ds => ds
  | n :: ns, ds => ds.take n ++ '-' :: grouped ns (ds.drop n)

/-- The identifier made of 122 random bits, the version and the variant. -/
def ofRandom (bits : Nat) : String :=
  let time := bits % Number.pow2 48
  let middle := bits / Number.pow2 48 % Number.pow2 12
  let low := bits / Number.pow2 60 % Number.pow2 62
  let digits := hexDigits 12 time ++ hexDigits 4 (4 * Number.pow2 12 + middle) ++
    hexDigits 16 (2 * Number.pow2 62 + low)
  String.ofList (grouped groupLengths digits)

/-- Whether a character is a hexadecimal digit in lower case. -/
def isLowerHex (c : Char) : Bool := Number.isDigit c || ('a' ≤ c && c ≤ 'f')

/-- Whether a text is an identifier of version 4 in lower case. -/
def isVersion4 (s : String) : Bool :=
  let cs := s.toList
  let digits := cs.filter (· ≠ '-')
  cs.length == 36 && digits.length == 32 && digits.all isLowerHex &&
    grouped groupLengths digits == cs &&
    digits[12]? == some '4' && (digits[16]?.any fun c => Number.digitValue c / 4 == 2)

/-- An identifier for a resource that no other caller uses: a label, a dash and a random part. -/
def labelled (label : String) (bits : Nat) : String := label ++ "-" ++ ofRandom bits

end Uuid

end NamedLock
