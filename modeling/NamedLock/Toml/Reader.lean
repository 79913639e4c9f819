import NamedLock.Toml.Bare
import NamedLock.Toml.Text
import NamedLock.Toml.Tree

/-!
# Reader — reading TOML documents

A document is a sequence of lines: headers, which choose a table, and entries of the table chosen last. A line ends
with a line feed, which a carriage return may precede. Arrays and inline tables may run over several lines and nest
at most 80 deep, and as many keys may stand in a row. `parse?` gives the entries of the root table.
-/

namespace NamedLock

namespace Toml

/-- A reader takes a value off the front of a text. -/
abbrev Reader (α : Type) := List Char → Option (α × List Char)

/-! ## Between tokens -/

/-- Whether a character is a blank. -/
def isBlank (c : Char) : Bool := c == ' ' || c == '\t'

/-- The text without the blanks in front. -/
def skipBlanks (cs : List Char) : List Char := cs.dropWhile isBlank

/-- Whether a character ends a line, or stands in front of the one that does. -/
def isLineEnd (c : Char) : Bool := c == '\n' || c == '\r'

/-- The rest after a comment, from the end of its line. -/
def skipComment? (cs : List Char) : Option (List Char) :=
  match cs.dropWhile isPlain with
  | [] => some []
  | c :: cs => if isLineEnd c then some (c :: cs) else none

/-- Skips blanks, line ends and comments; `inComment` says whether a comment is open. -/
def skipFiller? : Bool → List Char → Option (List Char)
  | _, [] => some []
  | true, c :: cs =>
    if isLineEnd c then skipFiller? false cs
    else if isPlain c then skipFiller? true cs
    else none
  | false, c :: cs =>
    if isBlank c || isLineEnd c then skipFiller? false cs
    else if c = '#' then skipFiller? true cs
    else some (c :: cs)

/-- Takes the end of a line: blanks, perhaps a comment, and a line feed unless the document ends. -/
def endLine? (cs : List Char) : Option (List Char) :=
  match skipBlanks cs with
  | [] => some []
  | '\n' :: cs => some cs
  | '\r' :: '\n' :: cs => some cs
  | '#' :: cs => skipComment? cs
  | _ => none

/-! ## Keys -/

/-- Whether a character may stand in a key without quotes. -/
def isKeyChar (c : Char) : Bool :=
  Number.isDigit c || ('a' ≤ c && c ≤ 'z') || ('A' ≤ c && c ≤ 'Z') || c == '_' || c == '-'

/-- One key: quoted on one line, or bare. -/
def simpleKey : Reader String
  | '"' :: cs => (basicBody .plain cs).map fun r => (String.ofList r.1, r.2)
  | '\x27' :: cs => (literalBody cs).map fun r => (String.ofList r.1, r.2)
  | cs =>
    let key := cs.takeWhile isKeyChar
    if key = [] then none else some (String.ofList key, cs.dropWhile isKeyChar)

/-- How many keys may stand in a row, and how deep arrays and inline tables may nest. -/
def greatestDepth : Nat := 80

/-- Keys with dots between them, as many as given at most: all but the last, and the last. -/
def keyPath : Nat → Reader (List String × String)
  | 0, _ => none
  | most + 1, cs => do
    let (k, cs) ← simpleKey (skipBlanks cs)
    match skipBlanks cs with
    | '.' :: cs =>
      let ((ks, last), cs) ← keyPath most cs
      some ((k :: ks, last), cs)
    | cs => some (([], k), cs)

/-- A row of keys. -/
def key : Reader (List String × String) := keyPath greatestDepth

/-! ## Values -/

mutual

/-- A value without blanks in front; `depth` more arrays and inline tables may open. -/
def value : Nat → Nat → Reader Value
  | 0, _, _ => none
  | fuel + 1, depth, cs =>
    match cs with
    | '"' :: _ => (takeText? cs).map fun r => (.text r.1, r.2)
    | '\x27' :: _ => (takeText? cs).map fun r => (.text r.1, r.2)
    | '[' :: cs =>
      match depth with
      | 0 => none
      | depth + 1 => (items fuel depth cs).map fun r => (.array r.1, r.2)
    | '\x7b' :: cs =>
      match depth with
      | 0 => none
      | depth + 1 => (entries fuel depth [] cs).map fun r => (.table (finished r.1), r.2)
    | cs => takeBare? cs

/-- The items of an array up to its end. A comma may follow the last one. -/
def items : Nat → Nat → Reader (List Value)
  | 0, _, _ => none
  | fuel + 1, depth, cs =>
    match skipFiller? false cs with
    | none => none
    | some (']' :: cs) => some ([], cs)
    | some cs =>
      match value fuel depth cs with
      | none => none
      | some (v, cs) =>
        match skipFiller? false cs with
        | some (']' :: cs) => some ([v], cs)
        | some (',' :: cs) => (items fuel depth cs).map fun r => (v :: r.1, r.2)
        | _ => none

/-- The entries of an inline table up to its end, added to those before. Lines may end around the equals sign, and a
comma may follow the last entry. -/
def entries : Nat → Nat → Branch → Reader Branch
  | 0, _, _, _ => none
  | fuel + 1, depth, before, cs =>
    match skipFiller? false cs with
    | none => none
    | some ('\x7d' :: cs) => some (before, cs)
    | some cs =>
      match (key cs).bind fun r => (skipFiller? false r.2).map fun cs => (r.1, cs) with
      | some ((path, k), '=' :: cs) =>
        match (skipFiller? false cs).bind (value fuel depth) with
        | none => none
        | some (v, cs) =>
          match addAt path k v .headed before with
          | none => none
          | some before =>
            match skipFiller? false cs with
            | some ('\x7d' :: cs) => some (before, cs)
            | some (',' :: cs) => entries fuel depth before cs
            | _ => none
      | _ => none

end

/-! ## Lines -/

/-- A line of a document, apart from empty ones. -/
inductive Line
  | entry (path : List String) (k : String) (v : Value)
  | table (path : List String) (k : String)
  | item (path : List String) (k : String)

/-- The path of a header, up to its closing brackets. -/
def header (close : List Char) : Reader (List String × String) := fun cs => do
  let (path, cs) ← key cs
  if close.isPrefixOf cs then some (path, cs.drop close.length) else none

/-- A line without blanks in front, and its end. -/
def line : Reader Line := fun cs => do
  let (l, cs) ← match cs with
    | '[' :: '[' :: cs => (header [']', ']'] cs).map fun r => (.item r.1.1 r.1.2, r.2)
    | '[' :: cs => (header [']'] cs).map fun r => (.table r.1.1 r.1.2, r.2)
    | cs =>
      match key cs with
      | some ((path, k), '=' :: cs) =>
        let cs := skipBlanks cs
        (value (2 * cs.length + 1) greatestDepth cs).map fun r => (.entry path k r.1, r.2)
      | _ => none
  let cs ← endLine? cs
  some (l, cs)

/-- All lines of a document; `fuel` bounds their number. -/
def lines : Nat → List Char → Option (List Line)
  | 0, _ => none
  | fuel + 1, cs =>
    match skipFiller? false cs with
    | none => none
    | some [] => some []
    | some cs =>
      match line cs with
      | none => none
      | some (l, cs) => (lines fuel cs).map (l :: ·)

/-- Carries out lines from the root; `current` is the table chosen last. -/
def build : List String → Branch → List Line → Option Branch
  | _, root, [] => some root
  | current, root, .entry path k v :: ls =>
    match actAt headerWalk (addAt path k v) current .headed root with
    | some root => build current root ls
    | none => none
  | _, root, .table path k :: ls =>
    match actAt headerWalk (openTable k) path .headed root with
    | some root => build (path ++ [k]) root ls
    | none => none
  | _, root, .item path k :: ls =>
    match actAt headerWalk (openItem k) path .headed root with
    | some root => build (path ++ [k]) root ls
    | none => none

/-- Whether every carriage return stands in front of a line feed. -/
def returnsEndLines : List Char → Bool
  | [] => true
  | ['\r'] => false
  | '\r' :: c :: cs => c == '\n' && returnsEndLines (c :: cs)
  | _ :: cs => returnsEndLines cs

/-- The text without a byte order mark in front. -/
def dropByteOrderMark : List Char → List Char
  | '\ufeff' :: cs => cs
  | cs => cs

/-- The entries of the root table of a document. -/
def parse? (s : String) : Option (List (String × Value)) := do
  let cs := dropByteOrderMark s.toList
  if returnsEndLines cs then
    let ls ← lines (cs.length + 1) cs
    let root ← build [] [] ls
    some (finished root)
  else none

end Toml

end NamedLock
