import NamedLock.Text.Letter

/-!
# Cursor — a place in a YAML text

A place is what remains of the text, and where it stands: line and column count in what follows, because structure is
told by indentation.
-/

namespace NamedLock

namespace Yaml

/-- Whether a character is a blank. -/
def isBlank (c : Char) : Bool := c == ' ' || c == '\t'

/-- Whether a character ends a line. -/
def isBreak (c : Char) : Bool := c == '\n' || c == '\r'

/-- Whether a character separates or closes the parts of a collection in brackets. -/
def isFlowSign (c : Char) : Bool := c == ',' || c == '[' || c == ']' || c == '\x7b' || c == '\x7d'

/-- A place in a text. -/
structure Cursor where
  rest : List Char
  /-- The number of characters in front. -/
  index : Nat := 0
  line : Nat := 0
  column : Nat := 0
  /-- Whether nothing but blanks precedes on the line. -/
  fresh : Bool := true
  deriving DecidableEq, Repr

namespace Cursor

/-- The place behind some blanks. -/
def skipBlanks (c : Cursor) (n : Nat) : Cursor :=
  { c with rest := c.rest.drop n, index := c.index + n, column := c.column + n }

/-- The place behind some characters. -/
def skip (c : Cursor) (n : Nat) : Cursor := { c.skipBlanks n with fresh := c.fresh && n == 0 }

/-- The place behind the end of the line; a carriage return and a line feed end it together. -/
def skipBreak (c : Cursor) : Cursor :=
  let n := match c.rest with
    | '\r' :: '\n' :: _ => 2
    | _ => 1
  { rest := c.rest.drop n, index := c.index + n, line := c.line + 1, column := 0, fresh := true }

/-- Whether the text is at its end or at the end of a line. -/
def atEndOfLine (c : Cursor) : Bool := c.rest.head?.all isBreak

/-- Whether a blank, the end of a line or the end of the text follows. -/
def startsBlank (cs : List Char) : Bool := cs.head?.all fun c => isBlank c || isBreak c

/-- Whether a line that starts or ends a document begins here. -/
def atDocumentMark (c : Cursor) : Bool :=
  c.column == 0 &&
    match c.rest with
    | '-' :: '-' :: '-' :: cs => startsBlank cs
    | '.' :: '.' :: '.' :: cs => startsBlank cs
    | _ => false

/-- What stands between two tokens on a line. -/
structure Gap where
  hasTab : Bool
  hasSpace : Bool
  deriving DecidableEq, Repr

/-- The place behind blanks and a comment. A comment needs a blank in front. -/
def skipGap? (c : Cursor) (allowsTabs : Bool) : Option (Cursor × Gap) :=
  let blanks := c.rest.takeWhile fun d => d == ' ' || (d == '\t' && allowsTabs)
  let gap : Gap := { hasTab := blanks.contains '\t', hasSpace := blanks.contains ' ' }
  let c := c.skipBlanks blanks.length
  match c.rest with
  | '#' :: _ =>
    if blanks = [] then none else some (c.skip (c.rest.takeWhile (!isBreak ·)).length, gap)
  | _ => some (c, gap)

end Cursor

end Yaml

end NamedLock
