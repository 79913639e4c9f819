import NamedLock.Number.Decimal
import NamedLock.Text.Letter
import NamedLock.Text.Percent

/-!
# Reader — reading INI texts

An INI text is a sequence of sections, each with keys and their values, all of them texts. A section starts with its
name in brackets; what precedes the first of them belongs to a section without a name. A key ends at an equals sign or
at a colon, and its value at the end of the line, unless it is in quotes. A backslash starts an escape, and comments
start a line.
-/

namespace NamedLock

namespace Ini

/-- A reader takes a value off the front of a text. -/
abbrev Reader (α : Type) := List Char → Option (α × List Char)

/-- A section: its name, and its keys with their values in the order in which they were written. -/
structure Section where
  name : Option String
  entries : List (String × String)
  deriving DecidableEq, Repr

/-! ## Pieces of text -/

/-- The text without blanks at its end. -/
def trimEnd (cs : List Char) : List Char := (cs.reverse.dropWhile Text.isBlank).reverse

/-- The text without blanks around it. -/
def trim (cs : List Char) : List Char := trimEnd (cs.dropWhile Text.isBlank)

/-- The character that four hexadecimal digits stand for. A plus sign may take the place of the first one. -/
def codedChar? (ds : List Char) : Option Char :=
  let ds := match ds with
    | '+' :: ds => ds
    | ds => ds
  let n := Number.ofDigits 16 ds
  if ds.all Text.isHexChar && (n < 0xD800 || 0xDFFF < n) then some (Char.ofNat n) else none

/-- The character for the letter after a backslash. -/
def escapedChar : Char → Char
  | '0' => '\x00'
  | 'a' => '\x07'
  | 'b' => '\x08'
  | 't' => '\t'
  | 'r' => '\r'
  | 'n' => '\n'
  | c => c

/-- Reads up to a character at which the text stops, and leaves that standing. The text may end before, if `mayEnd`. A
line feed behind a backslash counts as nothing. -/
def textUntil (stops : Char → Bool) (mayEnd : Bool) : Reader (List Char)
  | [] => if mayEnd then some ([], []) else none
  | c :: cs =>
    let push (d : Char) (r : List Char × List Char) : List Char × List Char := (d :: r.1, r.2)
    if stops c then some ([], c :: cs)
    else if c = '\\' then
      match cs with
      | [] => if mayEnd then some (['\\'], []) else none
      | '\n' :: cs => textUntil stops mayEnd cs
      | 'x' :: h₁ :: h₂ :: h₃ :: h₄ :: cs =>
        match codedChar? [h₁, h₂, h₃, h₄] with
        | some d => (textUntil stops mayEnd cs).map (push d)
        | none => none
      | 'x' :: _ => none
      | d :: cs => (textUntil stops mayEnd cs).map (push (escapedChar d))
    else (textUntil stops mayEnd cs).map (push c)

/-- Whether a character ends a line. -/
def isLineEnd (c : Char) : Bool := c == '\n' || c == '\r'

/-- The rest of a value: pieces in quotes, then what remains of the line. Blanks around a value do not count;
`isFirst` says whether no piece precedes. `fuel` bounds the number of pieces. -/
def valueRest : Nat → (isFirst : Bool) → Reader (List Char)
  | 0, _, _ => none
  | _, _, [] => some ([], [])
  | fuel + 1, isFirst, c :: cs =>
    if c = '"' || c = '\x27' then do
      let (piece, cs) ← textUntil (· == c) false cs
      let (more, cs) ← valueRest fuel false (cs.drop 1)
      some (piece ++ more, cs)
    else do
      let (piece, cs) ← textUntil isLineEnd true (c :: cs)
      some (if isFirst then trim piece else trimEnd piece, cs)

/-- A value, behind the sign that ends its key. -/
def value : Reader (List Char) := fun cs =>
  let cs := cs.dropWhile fun c => Text.isBlank c && !isLineEnd c
  valueRest (cs.length + 1) true cs

/-! ## Sections -/

/-- Whether a character ends a key. -/
def endsKey (c : Char) : Bool := c == '=' || c == ':'

/-- Whether a text starts a line, when the blanks in front of it are skipped. -/
def startsLine (atStart : Bool) (blanks : List Char) : Bool :=
  match blanks.getLast? with
  | none => atStart
  | some c => c == '\n'

/-- Adds an entry to the section begun last. -/
def addEntry (k v : String) : List Section → List Section
  | [] => [{ name := none, entries := [(k, v)] }]
  | s :: ss => { s with entries := s.entries ++ [(k, v)] } :: ss

/-- Reads sections. `done` holds those begun, last one first, and `atStart` says whether the text starts a line.
`fuel` bounds the number of steps. -/
def sections : Nat → (done : List Section) → (atStart : Bool) → List Char → Option (List Section)
  | 0, _, _, _ => none
  | fuel + 1, done, atStart, cs =>
    let atStart := startsLine atStart (cs.takeWhile Text.isBlank)
    match cs.dropWhile Text.isBlank with
    | [] => some done.reverse
    | '[' :: cs => do
      let (name, cs) ← textUntil (· == ']') false cs
      sections fuel ({ name := some (String.ofList (trim name)), entries := [] } :: done) false (cs.drop 1)
    | c :: cs =>
      if c = ';' || c = '#' then
        if atStart then sections fuel done true ((cs.dropWhile (· ≠ '\n')).drop 1) else none
      else do
        let (key, cs) ← textUntil endsKey false (c :: cs)
        if trim key = [] then none
        else
          let (text, cs) ← value (cs.drop 1)
          sections fuel (addEntry (String.ofList (trim key)) (String.ofList text) done) false cs

/-- Reads an INI text. -/
def parse? (s : String) : Option (List Section) := sections (s.length + 1) [] true s.toList

end Ini

end NamedLock
