import NamedLock.Domain.MappingTable
import NamedLock.Number.Decimal
import NamedLock.Text.Case
import NamedLock.Text.PrintTable

/-!
# Mapping — the characters of a domain name

Domain names do not tell capitals from small letters, nor a character from its wide or stylised forms. Each
character of a name is kept, left out, replaced by others, or refused.
-/

namespace NamedLock

namespace Domain

/-- What becomes of a character. -/
inductive Treatment
  | kept
  | replaced (others : List Char)
  | refused
  deriving DecidableEq, Repr

/-! ## The table of replacements -/

/-- Every `step`-th character from `first` to `last` is replaced. `others` is for the first one; for a run it is one
character, and moves along. -/
structure Replacement where
  first : Nat
  last : Nat
  step : Nat
  others : List Nat
  deriving DecidableEq, Repr

/-- The number that a text of hexadecimal digits stands for. -/
def codePoint (s : String) : Nat := Number.ofDigits 16 s.toList

/-- Reads a row of the table: words with blanks between them. -/
def Replacement.ofWords? : List String → Option Replacement
  | [] => none
  | run :: others =>
    let others := others.map codePoint
    match run.splitOn "-", run.splitOn "/" with
    | [first, last], _ => some { first := codePoint first, last := codePoint last, step := 1, others }
    | _, [first, last] => some { first := codePoint first, last := codePoint last, step := 2, others }
    | _, _ => some { first := codePoint run, last := codePoint run, step := 1, others }

/-- The rows of the table. -/
def replacements : List Replacement :=
  (mappingText.splitOn ",").filterMap fun row =>
    Replacement.ofWords? (((row.splitOn "\n").flatMap (·.splitOn " ")).filter (· ≠ ""))

/-- Whether the run holds this code point. -/
def Replacement.holds (r : Replacement) (n : Nat) : Bool :=
  r.first ≤ n && n ≤ r.last && (n - r.first) % r.step == 0

/-- What stands for a character of the run. -/
def Replacement.of (r : Replacement) (n : Nat) : List Char :=
  match r.others with
  | [m] => [Char.ofNat (m + (n - r.first))]
  | ms => ms.map Char.ofNat

/-! ## Treatment -/

/-- Characters that are left out: they show nothing. -/
def silentRanges : List (Nat × Nat) :=
  [(0xAD, 0xAD), (0x34F, 0x34F), (0x115F, 0x1160), (0x17B4, 0x17B5), (0x180B, 0x180F), (0x200B, 0x200B),
   (0x2060, 0x2064), (0x206A, 0x206F), (0x3164, 0x3164), (0xFE00, 0xFE0F), (0xFEFF, 0xFEFF), (0xFFA0, 0xFFA0),
   (0x1BCA0, 0x1BCA3), (0x1D173, 0x1D17A), (0xE0100, 0xE01EF)]

/-- Signs that can be seen but may not stand in a name. -/
def refusedSignRanges : List (Nat × Nat) :=
  [(0x2024, 0x2026), (0x2488, 0x249B), (0x2FF0, 0x2FFF), (0x31EF, 0x31EF), (0x33C2, 0x33C2), (0x33C7, 0x33C7),
   (0x33D8, 0x33D8), (0xFE12, 0xFE12), (0xFE19, 0xFE19), (0xFE30, 0xFE30), (0xFE52, 0xFE52), (0xFFFC, 0xFFFD),
   (0x1F100, 0x1F100)]

/-- The character that keeps two letters apart which would join. -/
def nonJoiner : Char := '\u200c'

/-- The character that makes two letters join. -/
def joiner : Char := '\u200d'

/-- What becomes of a character. -/
def treatment (c : Char) : Treatment :=
  match replacements.find? (·.holds c.toNat) with
  | some r => .replaced (r.of c.toNat)
  | none =>
    if c.toNat < 128 || c == nonJoiner || c == joiner then .kept
    else if Text.inRanges silentRanges c then .replaced []
    else if Text.inRanges refusedSignRanges c || Text.inRanges Text.unprintableRanges c then .refused
    else .kept

/-- A name with its characters treated; `none` when one is refused. -/
def mapped? (cs : List Char) : Option (List Char) :=
  (cs.mapM fun c =>
    match treatment c with
    | .kept => some [c]
    | .replaced others => some others
    | .refused => none).map List.flatten

end Domain

end NamedLock
