import NamedLock.Domain.Direction
import NamedLock.Domain.Punycode
import NamedLock.Postgres.Address

/-!
# Name — domain names

A domain name is a row of labels with dots between them, in any script. `labels?` reads one: its characters are
mapped and joined with their marks, labels in ASCII form are read back, and each label is held against the
rules. A name that breaks one is none.
-/

namespace NamedLock

namespace Domain

/-- ASCII characters that no name holds, apart from blanks and controls. -/
def deniedSigns : List Char :=
  ['%', '#', '/', ':', '<', '>', '?', '@', '[', '\\', ']', '^', '|']

/-- Whether no name holds this character. -/
def isDenied (c : Char) : Bool := c.toNat ≤ 32 || c.toNat == 127 || deniedSigns.contains c

/-- The most characters of a label that is not ASCII. -/
def greatestLength : Nat := 1000

/-- The most characters of the ASCII form of a label. -/
def greatestAsciiLength : Nat := 2000

/-- Whether a label is ASCII. -/
def isAscii (label : List Char) : Bool := label.all (·.toNat < 128)

/-- Whether a label keeps the rules that concern it alone. -/
def isLabel (label : List Char) : Bool :=
  !label.any isDenied && !(label.head?.any isMark) && joinersFit [] label &&
    (isAscii label || label.length ≤ greatestLength)

/-- Whether a label could come out of mapping: nothing in it is mapped any further. -/
def isMapped (label : List Char) : Bool :=
  label.all (treatment · == .kept) && Text.compose label == label

/-- Reads a label that may be in ASCII form. Only what is not ASCII has such a form. -/
def readLabel? (label : List Char) : Option (List Char) :=
  match label with
  | 'x' :: 'n' :: '-' :: '-' :: cs =>
    if cs.length ≤ greatestAsciiLength then
      (Punycode.decode? cs).filter fun l => !isAscii l && isMapped l
    else none
  | _ => some label

/-- The labels of a name. -/
def labels? (name : List Char) : Option (List (List Char)) := do
  let labels ← (Address.splitAt '.' (Text.compose (← mapped? name))).mapM readLabel?
  if labels.all isLabel && directionsFit labels then some labels else none

end Domain

end NamedLock
