import NamedLock.Domain.DirectionTable
import NamedLock.Domain.Joining

/-!
# Direction — labels that are read from right to left

When a name holds letters from right to left, each of its labels must keep to one direction, so that the labels do not
change places when the name is shown.
-/

namespace NamedLock

namespace Domain

/-- The direction of a character. -/
inductive Direction
  | left
  | right
  | digit
  | arabicDigit
  | neutral
  | mark
  deriving DecidableEq, Repr

namespace Direction

/-- The direction of an ASCII character. -/
def ofAscii (c : Char) : Direction :=
  if c.isAlpha then .left else if c.isDigit then .digit else .neutral

/-- The direction of a character. -/
def of (c : Char) : Direction :=
  if c.toNat < 128 then ofAscii c
  else if Text.inRanges rightToLeftRanges c then .right
  else if Text.inRanges arabicDigitRanges c then .arabicDigit
  else if Text.inRanges plainDigitRanges c then .digit
  else if isTransparent c && !directedTransparent.contains c.toNat then .mark
  else if Text.inRanges neutralRanges c then .neutral
  else .left

/-- Whether a character makes its name one that has to keep to directions. -/
def isRightward : Direction → Bool
  | right | arabicDigit => true
  | _ => false

end Direction

open Direction in
/-- Whether a label keeps to one direction. -/
def keepsDirection (label : List Direction) : Bool :=
  match label with
  | [] => true
  | first :: rest =>
    match first, rest.reverse.dropWhile (· = mark) with
    | left, [] | right, [] => true
    | left, last :: middle =>
      last ∈ [left, digit] && middle.all (· ∈ [left, digit, neutral, mark])
    | right, last :: middle =>
      last ∈ [right, digit, arabicDigit] && middle.all (· ≠ left) &&
        !((last :: middle).contains digit && (last :: middle).contains arabicDigit)
    | _, _ => false

/-- Whether the labels of a name go together. -/
def directionsFit (labels : List (List Char)) : Bool :=
  let labels := labels.map (·.map Direction.of)
  !(labels.any (·.any Direction.isRightward)) || labels.all keepsDirection

end Domain

end NamedLock
