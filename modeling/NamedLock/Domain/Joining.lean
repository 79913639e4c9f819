import NamedLock.Domain.JoiningTable
import NamedLock.Domain.Mapping
import NamedLock.Domain.MarkTable
import NamedLock.Text.Composition

/-!
# Joining — where invisible joiners may stand

Two characters show nothing of their own: one makes its neighbours join, the other keeps them apart. A label may
hold them only where they make a visible difference: behind the mark that strips a letter of its vowel, and, for
the one that keeps apart, between letters that would join.
-/

namespace NamedLock

namespace Domain

/-- Whether a character is a mark. -/
def isMark (c : Char) : Bool := Text.inRanges markRanges c

/-- Whether neighbours join across a character. -/
def isTransparent (c : Char) : Bool := Text.inRanges transparentRanges c

/-- The class of the marks that strip a letter of its vowel. -/
def vowelKillerClass : Nat := 9

/-- Whether a mark strips a letter of its vowel. -/
def isVowelKiller (c : Char) : Bool := Text.markClass c == vowelKillerClass

/-- Whether the next character that neighbours do not join across is in one of the ranges. -/
def reaches (ranges : List (Nat × Nat)) (cs : List Char) : Bool :=
  match cs.dropWhile isTransparent with
  | [] => false
  | c :: _ => Text.inRanges ranges c

/-- Whether every joiner in the rest of a label may stand there. `before` holds what precedes, nearest first. -/
def joinersFit (before : List Char) : List Char → Bool
  | [] => true
  | c :: cs =>
    let fits :=
      if c == joiner || c == nonJoiner then
        match before with
        | [] => false
        | b :: _ =>
          isVowelKiller b || (c == nonJoiner && reaches joinsNextRanges before && reaches joinsPreviousRanges cs)
      else true
    fits && joinersFit (c :: before) cs

end Domain

end NamedLock
