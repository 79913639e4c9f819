import NamedLock.Text.Case
import NamedLock.Text.CompositionTable

/-!
# Composition — one way to write a character with its marks

A letter with a mark may be one character or two. `compose` takes every character apart, puts the marks of a letter in
the order of their classes, and joins what has a character of its own, so that texts which read the same are the same.
Syllables of the Korean script are made of two or three letters by arithmetic.
-/

namespace NamedLock

namespace Text

/-- The class of a mark; a character that is no mark has class zero. -/
def markClass (c : Char) : Nat :=
  if c.toNat < 0x300 then 0
  else
    match markClasses.find? fun (first, last, _) => first ≤ c.toNat && c.toNat ≤ last with
    | some (_, _, k) => k
    | none => 0

/-! ## Syllables -/

/-- The first of the syllables. -/
def firstSyllable : Nat := 0xAC00

/-- The letters that open a syllable, those in its middle, and those that close it: the first of each, and how
many there are. The first closing letter stands for none. -/
def openingLetters : Nat × Nat := (0x1100, 19)

@[inherit_doc openingLetters]
def middleLetters : Nat × Nat := (0x1161, 21)

@[inherit_doc openingLetters]
def closingLetters : Nat × Nat := (0x11A7, 28)

/-- How many syllables there are. -/
def syllableCount : Nat := openingLetters.2 * middleLetters.2 * closingLetters.2

/-- The letters of a syllable. -/
def syllableLetters? (c : Char) : Option (List Char) :=
  let n := c.toNat - firstSyllable
  if firstSyllable ≤ c.toNat ∧ n < syllableCount then
    let opening := openingLetters.1 + n / (middleLetters.2 * closingLetters.2)
    let middle := middleLetters.1 + n / closingLetters.2 % middleLetters.2
    let closing := n % closingLetters.2
    some ([opening, middle] ++ (if closing = 0 then [] else [closingLetters.1 + closing])|>.map Char.ofNat)
  else none

/-- The syllable of two letters, or of a syllable that is still open and a closing letter. -/
def joinSyllable? (a b : Char) : Option Char :=
  let (m, n) := (a.toNat, b.toNat)
  if openingLetters.1 ≤ m ∧ m < openingLetters.1 + openingLetters.2 ∧
      middleLetters.1 ≤ n ∧ n < middleLetters.1 + middleLetters.2 then
    some (Char.ofNat (firstSyllable +
      ((m - openingLetters.1) * middleLetters.2 + (n - middleLetters.1)) * closingLetters.2))
  else if firstSyllable ≤ m ∧ m < firstSyllable + syllableCount ∧ (m - firstSyllable) % closingLetters.2 = 0 ∧
      closingLetters.1 < n ∧ n < closingLetters.1 + closingLetters.2 then
    some (Char.ofNat (m + (n - closingLetters.1)))
  else none

/-! ## Taking apart and joining -/

/-- Takes a character apart; a base may itself be made of two, `fuel` times over. -/
def partsOf : Nat → Char → List Char
  | 0, c => [c]
  | fuel + 1, c =>
    match syllableLetters? c with
    | some cs => cs
    | none =>
      if c.toNat < 0xC0 then [c]
      else
        match compositions.find? fun (_, _, whole) => whole == c.toNat with
        | some (base, mark, _) => partsOf fuel (Char.ofNat base) ++ partsOf fuel (Char.ofNat mark)
        | none => [c]

/-- How often the base of a character is made of two itself, at most. -/
def greatestPartDepth : Nat := 4

/-- The one character that stands for two. -/
def join? (a b : Char) : Option Char :=
  match joinSyllable? a b with
  | some c => some c
  | none =>
    (compositions.find? fun (base, mark, _) => base == a.toNat && mark == b.toNat).map fun (_, _, whole) =>
      Char.ofNat whole

/-- Puts a character in front; a mark goes behind the marks of lower classes that follow it. -/
def placeMark (c : Char) : List Char → List Char
  | [] => [c]
  | d :: ds =>
    if markClass d ≠ 0 ∧ markClass d < markClass c then d :: placeMark c ds else c :: d :: ds

/-- Marks in the order of their classes, wherever some stand together. -/
def orderMarks (cs : List Char) : List Char := cs.foldr placeMark []

/-- Joins from left to right. `base` is what marks may join, `marks` holds those that did not, last one first. -/
def joinFrom (base : Char) (marks : List Char) : List Char → List Char
  | [] => base :: marks.reverse
  | c :: cs =>
    let isFree := match marks with
      | [] => true
      | m :: _ => markClass m < markClass c
    match if isFree then join? base c else none with
    | some d => joinFrom d marks cs
    | none =>
      if markClass c = 0 then base :: marks.reverse ++ joinFrom c [] cs
      else joinFrom base (c :: marks) cs

/-- The text in which every character is joined with its marks. -/
def compose (cs : List Char) : List Char :=
  let parts := orderMarks (cs.flatMap (partsOf greatestPartDepth))
  let loose := parts.takeWhile (markClass · ≠ 0)
  match parts.dropWhile (markClass · ≠ 0) with
  | [] => loose
  | c :: cs => loose ++ joinFrom c [] cs

end Text

end NamedLock
