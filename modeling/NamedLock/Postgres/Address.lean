import NamedLock.Number.Decimal

/-!
# Address — numeric network addresses

Which texts are addresses of four decimal bytes, and which are addresses of eight hexadecimal groups, where `::`
stands for one or more groups of zeros and the last two groups may be written as four bytes.
-/

namespace NamedLock

namespace Address

/-- Splits characters at a separator. -/
def splitAt (sep : Char) : List Char → List (List Char)
  | [] => [[]]
  | c :: cs =>
    match splitAt sep cs with
    | [] => [[c]]
    | part :: parts => if c = sep then [] :: part :: parts else (c :: part) :: parts

/-- A decimal byte without zeros in front. -/
def isByte (cs : List Char) : Bool :=
  match cs with
  | [] => false
  | '0' :: _ :: _ => false
  | _ => cs.length ≤ 3 && cs.all Number.isDigit && Number.ofDigits 10 cs ≤ 255

/-- Four bytes with dots between them. -/
def isFourBytes (cs : List Char) : Bool :=
  let parts := splitAt '.' cs
  parts.length == 4 && parts.all isByte

/-- One to four hexadecimal digits. -/
def isGroup (cs : List Char) : Bool :=
  cs != [] && cs.length ≤ 4 && cs.all fun c =>
    Number.isDigit c || ('a' ≤ c && c ≤ 'f') || ('A' ≤ c && c ≤ 'F')

/-- How many groups a sequence spans; four bytes at the end count for two. -/
def groupCount? : List (List Char) → Option Nat
  | [] => some 0
  | [part] => if isGroup part then some 1 else if isFourBytes part then some 2 else none
  | part :: parts => if isGroup part then (groupCount? parts).map (· + 1) else none

/-- The groups of one side of `::`; an empty side has none. -/
def sideCount? (cs : List Char) : Option Nat :=
  if cs = [] then some 0 else groupCount? (splitAt ':' cs)

/-- The first `::` of a text: what precedes it and what follows. -/
def cutAtGap? : List Char → Option (List Char × List Char)
  | [] => none
  | ':' :: ':' :: cs => some ([], cs)
  | c :: cs => (cutAtGap? cs).map fun r => (c :: r.1, r.2)

/-- Whether a text is an address of eight groups. -/
def isEightGroups (cs : List Char) : Bool :=
  match cutAtGap? cs with
  | none => groupCount? (splitAt ':' cs) == some 8
  | some (front, back) =>
    -- bytes with dots may only stand at the very end
    !(front.contains '.') &&
      match sideCount? front, sideCount? back with
      | some m, some n => m + n ≤ 7
      | _, _ => false

/-- Whether a text is an address. -/
def isAddress (cs : List Char) : Bool := isFourBytes cs || isEightGroups cs

end Address

end NamedLock
