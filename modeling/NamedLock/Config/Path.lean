import NamedLock.Number.Decimal

/-!
# Path — names of places in a configuration

A path starts with an identifier; further identifiers follow after dots, and numbers in brackets. A text that is
not a path is one key as a whole.
-/

namespace NamedLock

namespace Config

/-- A step down from a place. -/
inductive Step
  | child (name : String)
  /-- A position in an array; a negative one counts from the end. -/
  | subscript (index : Int)
  deriving DecidableEq, Repr

/-- Steps from the root. -/
abbrev Path := List Step

namespace Path

/-- Whether a character may stand in an identifier. -/
def isIdentChar (c : Char) : Bool :=
  Number.isDigit c || ('a' ≤ c && c ≤ 'z') || ('A' ≤ c && c ≤ 'Z') || c == '_' || c == '-'

/-- Whether a character may surround a subscript. -/
def isBlank (c : Char) : Bool := c == ' ' || c == '\t'

/-- Takes an identifier off the front. -/
def ident? (cs : List Char) : Option (String × List Char) :=
  let name := cs.takeWhile isIdentChar
  if name = [] then none else some (String.ofList name, cs.dropWhile isIdentChar)

/-- Takes a subscript off the front, after its opening bracket. -/
def subscript? (cs : List Char) : Option (Int × List Char) :=
  let cs := cs.dropWhile isBlank
  let (negative, cs) :=
    match cs with
    | '-' :: cs => (true, cs)
    | cs => (false, cs)
  match Number.readDigits? (cs.takeWhile Number.isDigit) with
  | none => none
  | some n =>
    let index : Int := if negative then -(n : Int) else n
    match (cs.dropWhile Number.isDigit).dropWhile isBlank with
    | ']' :: cs => if Number.inSigned64 index then some (index, cs) else none
    | _ => none

/-- The steps after the first identifier; `fuel` bounds their number. -/
def steps? : Nat → List Char → Option Path
  | _, [] => some []
  | 0, _ => none
  | fuel + 1, '.' :: cs =>
    match ident? cs with
    | some (name, cs) => (steps? fuel cs).map (.child name :: ·)
    | none => none
  | fuel + 1, '[' :: cs =>
    match subscript? cs with
    | some (index, cs) => (steps? fuel cs).map (.subscript index :: ·)
    | none => none
  | _, _ => none

/-- The path that a text names. -/
def parse? (s : String) : Option Path :=
  match ident? s.toList with
  | some (name, cs) => (steps? cs.length cs).map (.child name :: ·)
  | none => none

/-- The place that a text names: a path, or else one key. -/
def ofText (s : String) : Path := (parse? s).getD [.child s]

end Path

end Config

end NamedLock
