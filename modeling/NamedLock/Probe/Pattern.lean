import NamedLock.Number.Decimal
import NamedLock.Text.Letter

/-!
# Pattern — which texts are regular expressions

A filter may ask for the value of a field with a regular expression. Only whether a text is one matters before any
field has a value. A filter ends a value at a closing brace, so nothing that needs one can be complete here: counted
repetitions and escapes with braces are refused, as are references back and looks around.

The walk goes over the characters once. What it knows is kept in `Walk`: whether the next operator has something to
repeat, which modes are on, and what to go back to when a group closes.
-/

namespace NamedLock

namespace Probe

namespace Pattern

/-- The modes that decide what is a pattern. -/
structure Modes where
  /-- Classes and boundaries know the letters of every script. -/
  allScripts : Bool := true
  /-- Blanks and comments may stand between the parts of a pattern. -/
  spaced : Bool := false
  deriving DecidableEq, Repr

/-- Where a walk stands. -/
structure Walk where
  modes : Modes := {}
  /-- Whether an operator has something to repeat. -/
  operand : Bool := false
  /-- The modes around each open group, innermost first. -/
  groups : List Modes := []
  /-- The names of groups so far. -/
  names : List (List Char) := []
  deriving DecidableEq, Repr

/-- Skips blanks and comments where they count for nothing; `inComment` says whether a comment is open. -/
def skipSpace (m : Modes) : Bool → List Char → List Char
  | _, [] => []
  | true, c :: cs => skipSpace m (c != '\n') cs
  | false, c :: cs =>
    if !m.spaced then c :: cs
    else if Text.isBlank c then skipSpace m false cs
    else if c = '#' then skipSpace m true cs
    else c :: cs

/-- The next character that counts. -/
def next? (m : Modes) (cs : List Char) : Option (Char × List Char) :=
  match skipSpace m false cs with
  | [] => none
  | c :: cs => some (c, cs)

/-! ## Escapes -/

/-- A part of a pattern that stands for one character, or for a place between two. -/
inductive Item
  /-- One character, by its code. -/
  | character (code : Nat)
  | family
  | place
  deriving DecidableEq, Repr

/-- Characters that mean something, and stand for themselves after a backslash. -/
def isMeta (c : Char) : Bool :=
  ['\\', '.', '+', '*', '?', '(', ')', '|', '[', ']', '\x7b', '\x7d', '^', '$', '#', '&', '-', '~'].contains c

/-- Whether a character stands for itself after a backslash. -/
def isEscapable (c : Char) : Bool :=
  isMeta c || (c.toNat < 128 && !c.isAlphanum && c != '<' && c != '>')

/-- Letters that name a control character after a backslash. -/
def controlCode? (c : Char) : Option Nat :=
  match c with
  | 'a' => some 0x07
  | 'f' => some 0x0c
  | 't' => some 0x09
  | 'n' => some 0x0a
  | 'r' => some 0x0d
  | 'v' => some 0x0b
  | _ => none

/-- Whether a character is a hexadecimal digit. -/
def isHexDigit (c : Char) : Bool :=
  Number.isDigit c || ('a' ≤ c && c ≤ 'f') || ('A' ≤ c && c ≤ 'F')

/-- Takes so many hexadecimal digits off the front, and gives their value on top of `value`. -/
def hexDigits? (m : Modes) : Nat → Nat → List Char → Option (Nat × List Char)
  | 0, value, cs => some (value, cs)
  | n + 1, value, cs =>
    match next? m cs with
    | some (c, cs) => if isHexDigit c then hexDigits? m n (16 * value + Number.digitValue c) cs else none
    | none => none

/-- Whether a number is the code of a character. -/
def isCode (n : Nat) : Bool := n < 0xD800 || (0xDFFF < n && n < 0x110000)

/-- A character by its code. Above ASCII a single byte stands for a character only among all scripts. -/
def codeItem? (m : Modes) (places : Nat) (cs : List Char) : Option (Item × List Char) :=
  match hexDigits? m places 0 cs with
  | some (n, cs) =>
    if !isCode n || (places = 2 && 128 ≤ n && !m.allScripts) then none else some (.character n, cs)
  | none => none

/-- Letters that stand for a kind of characters after `\p`. -/
def isCategoryLetter (c : Char) : Bool :=
  ['c', 'l', 'm', 'n', 'p', 's', 'z'].contains c.toLower

/-- What a backslash and the characters after it stand for, and the rest. -/
def escape? (m : Modes) : List Char → Option (Item × List Char)
  | [] => none
  | c :: cs =>
    if c = 'x' then codeItem? m 2 cs
    else if c = 'u' then codeItem? m 4 cs
    else if c = 'U' then codeItem? m 8 cs
    else if c = 'p' ∨ c = 'P' then
      match next? m cs with
      | some (k, cs) => if m.allScripts && isCategoryLetter k then some (.family, cs) else none
      | none => none
    else if c = 'd' ∨ c = 's' ∨ c = 'w' then some (.family, cs)
    -- without all scripts these would fit parts of characters
    else if c = 'D' ∨ c = 'S' ∨ c = 'W' then if m.allScripts then some (.family, cs) else none
    else if isEscapable c then some (.character c.toNat, cs)
    else if c = 'A' ∨ c = 'z' then some (.place, cs)
    -- the ends of words are known in ASCII only
    else if c = 'b' ∨ c = 'B' ∨ c = '<' ∨ c = '>' then if m.allScripts then none else some (.place, cs)
    else (controlCode? c).map fun n => (.character n, cs)

/-! ## Classes -/

/-- The names of classes between colons. -/
def asciiClasses : List String :=
  ["alnum", "alpha", "ascii", "blank", "cntrl", "digit", "graph", "lower", "print", "punct", "space", "upper", "word",
    "xdigit"]

/-- Takes a class with a name between colons off the front, after its bracket. -/
def namedClass? : List Char → Option (List Char)
  | ':' :: cs =>
    let cs := if cs.head? = some '^' then cs.drop 1 else cs
    match cs.dropWhile (· ≠ ':') with
    | ':' :: ']' :: rest =>
      if asciiClasses.contains (String.ofList (cs.takeWhile (· ≠ ':'))) then some rest else none
    | _ => none
  | _ => none

/-- Skips dashes that stand for themselves, and what may stand between them. -/
def skipDashes (m : Modes) : Bool → List Char → List Char
  | _, [] => []
  | true, c :: cs => skipDashes m (c != '\n') cs
  | false, c :: cs =>
    if c = '-' ∨ m.spaced ∧ Text.isBlank c then skipDashes m false cs
    else if m.spaced ∧ c = '#' then skipDashes m true cs
    else c :: cs

/-- Opens a class after its bracket. A closing bracket that comes first stands for itself. -/
def openClass? (m : Modes) (cs : List Char) : Option (List Char) :=
  let cs := skipSpace m false cs
  let negated := cs.head? = some '^'
  let cs := if negated then skipSpace m false (cs.drop 1) else cs
  let literal := cs.head? = some '-'
  match skipDashes m false cs with
  | [] => none
  | c :: rest =>
    let cs := if !literal && c = ']' then skipSpace m false rest else c :: rest
    if cs = [] || (negated && !m.allScripts) then none else some cs

/-- One end of a range, or a member of a class. -/
def member? (m : Modes) : List Char → Option (Item × List Char)
  | [] => none
  | '\\' :: cs => escape? m cs
  | c :: cs => if c.toNat < 128 || m.allScripts then some (.character c.toNat, cs) else none

/-- Takes a member or a range off the front of a class. The ends of a range are characters in order. -/
def range? (m : Modes) (cs : List Char) : Option (List Char) :=
  match member? m cs with
  | none => none
  | some (first, cs) =>
    let cs := skipSpace m false cs
    let after := skipSpace m false (cs.drop 1)
    if cs = [] then none
    else if cs.head? ≠ some '-' ∨ after.head? = some ']' ∨ after.head? = some '-' then
      if first = .place then none else some cs
    else
      match first, member? m after with
      | .character a, some (.character b, cs) => if a ≤ b then some cs else none
      | _, _ => none

/-- Takes the rest of a class off the front; `depth` classes are open around the innermost. -/
def classBody? (m : Modes) : Nat → Nat → List Char → Option (List Char)
  | 0, _, _ => none
  | fuel + 1, depth, cs =>
    match skipSpace m false cs with
    | [] => none
    | '[' :: cs =>
      match namedClass? cs with
      | some cs => classBody? m fuel depth cs
      | none => (openClass? m cs).bind (classBody? m fuel (depth + 1))
    | ']' :: cs =>
      match depth with
      | 0 => some cs
      | depth + 1 => classBody? m fuel depth cs
    | '&' :: '&' :: cs => classBody? m fuel depth cs
    | '-' :: '-' :: cs => classBody? m fuel depth cs
    | '~' :: '~' :: cs => classBody? m fuel depth cs
    | cs => (range? m cs).bind (classBody? m fuel depth)

/-- Takes a class off the front, after its bracket. -/
def class? (m : Modes) (cs : List Char) : Option (List Char) :=
  (openClass? m cs).bind (classBody? m (cs.length + 1) 0)

/-! ## Groups -/

/-- The letters of modes that a group may set. -/
def modeLetters : List Char := ['i', 'm', 's', 'U', 'u', 'R', 'x']

/-- Reads modes up to the colon or the bracket that ends them. `off` says whether a minus sign came before, and `seen`
holds the letters so far. -/
def modes? (m : Modes) (off : Bool) (seen : List Char) : List Char → Option (Modes × Char × List Char)
  | [] => none
  | c :: cs =>
    if c = ':' ∨ c = ')' then if seen.head? = some '-' then none else some (m, c, cs)
    else if seen.contains c then none
    else if c = '-' then modes? m true (c :: seen) cs
    else if modeLetters.contains c then
      let m := if c = 'u' then { m with allScripts := !off } else if c = 'x' then { m with spaced := !off } else m
      modes? m off (c :: seen) cs
    else none

/-- The name of a group up to its closing angle bracket. -/
def groupName? (cs : List Char) : Option (List Char × List Char) :=
  let name := cs.takeWhile (· ≠ '>')
  match name, cs.dropWhile (· ≠ '>') with
  | c :: more, _ :: rest =>
    let fits (c : Char) : Bool := c == '_' || Text.isAlphanumeric c
    if (c == '_' || Text.isAlphabetic c) && more.all fun c => fits c || c == '.' || c == '[' || c == ']' then
      some (name, rest)
    else none
  | _, _ => none

namespace Walk

/-- Opens a group. -/
def openGroup (w : Walk) (inside : Modes) : Walk :=
  { w with modes := inside, operand := false, groups := w.modes :: w.groups }

/-- Opens a group with a name that no group before has. -/
def openNamed? (w : Walk) (cs : List Char) : Option (Walk × List Char) :=
  match groupName? cs with
  | some (name, cs) =>
    if w.names.contains name then none
    else some ({ w.openGroup w.modes with names := name :: w.names }, cs)
  | none => none

/-- Opens the group whose bracket has been taken off the front, or sets modes. -/
def group? (w : Walk) (cs : List Char) : Option (Walk × List Char) :=
  match skipSpace w.modes false cs with
  | '?' :: 'P' :: '<' :: cs => w.openNamed? cs
  | '?' :: '<' :: '=' :: _ => none
  | '?' :: '<' :: '!' :: _ => none
  | '?' :: '<' :: cs => w.openNamed? cs
  | '?' :: cs =>
    match modes? w.modes false [] cs with
    | some (m, ':', cs) => some (w.openGroup m, cs)
    -- a group that sets modes has to set one
    | some (m, _, rest) => if cs.head? = some ')' then none else some ({ w with modes := m, operand := false }, rest)
    | none => none
  | cs => some (w.openGroup w.modes, cs)

/-- One step: the walk after the front of the text, and the rest. -/
def step? (w : Walk) : List Char → Option (Walk × List Char)
  | [] => none
  | c :: cs =>
    if c = '(' then w.group? cs
    else if c = ')' then
      match w.groups with
      | m :: groups => some ({ w with modes := m, groups, operand := true }, cs)
      | [] => none
    else if c = '|' then some ({ w with operand := false }, cs)
    else if c = '[' then (class? w.modes cs).map fun cs => ({ w with operand := true }, cs)
    else if c = '?' ∨ c = '*' ∨ c = '+' then
      if w.operand then some (w, if cs.head? = some '?' then cs.drop 1 else cs) else none
    else if c = '\x7b' then none
    else if c = '\\' then (escape? w.modes cs).map fun r => ({ w with operand := true }, r.2)
    else if c = '.' ∧ !w.modes.allScripts then none
    else some ({ w with operand := true }, cs)

/-- Walks to the end of a text. Every group has to be closed there. -/
def finish (w : Walk) : Nat → List Char → Bool
  | 0, _ => false
  | fuel + 1, cs =>
    match skipSpace w.modes false cs with
    | [] => w.groups.isEmpty
    | cs =>
      match w.step? cs with
      | some (w, cs) => finish w fuel cs
      | none => false

end Walk

/-- Whether a text is a regular expression. -/
def isPattern (s : List Char) : Bool := ({} : Walk).finish (s.length + 1) s

end Pattern

end Probe

end NamedLock
