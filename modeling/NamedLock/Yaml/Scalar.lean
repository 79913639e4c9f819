import NamedLock.Number.Decimal
import NamedLock.Text.Percent
import NamedLock.Yaml.Cursor

/-!
# Scalar — texts in a YAML document

A scalar is plain, in quotes, or a block of lines. The line ends of a plain or a quoted scalar are folded: one
becomes a blank, of more than one all but the first remain. Lines that go on a scalar are indented further than
what holds it.
-/

namespace NamedLock

namespace Yaml

/-- Where a scalar stands: how far what holds it is indented, and whether that is in brackets. -/
structure Surroundings where
  indent : Int
  inFlow : Bool
  deriving DecidableEq, Repr

/-! ## Folding -/

/-- What stands between two words: blanks, or line ends. -/
structure Fold where
  blanks : List Char := []
  /-- Whether a line end was met that is folded. -/
  broken : Bool := false
  /-- How many line ends remain. -/
  further : Nat := 0
  deriving DecidableEq, Repr

/-- The text that stands for line ends. -/
def Fold.lineText (f : Fold) : List Char :=
  if f.broken && f.further == 0 then [' '] else List.replicate f.further '\n'

/-- Takes in the end of a line; `isFirst` says whether it ends a line with text. -/
def Fold.addBreak (f : Fold) (isFirst : Bool) : Fold :=
  if isFirst then { f with blanks := [], broken := true } else { f with further := f.further + 1 }

/-! ## Plain scalars -/

/-- Whether a plain scalar may go on with this text. -/
def isPlainText (inFlow : Bool) : List Char → Bool
  | [] => false
  | ':' :: cs => !(Cursor.startsBlank cs || (inFlow && cs.head?.any isFlowSign))
  | c :: _ => !(isBlank c || isBreak c || (inFlow && isFlowSign c))

/-- How many characters of a word follow. -/
def wordLength (inFlow : Bool) : List Char → Nat
  | [] => 0
  | c :: cs => if isPlainText inFlow (c :: cs) then wordLength inFlow cs + 1 else 0

/-- The place behind the blanks and line ends after a word, and what is to be folded. `fuel` bounds the number of
characters. -/
def plainGap (indent : Int) : Nat → Cursor → Fold → Option (Cursor × Fold)
  | 0, _, _ => none
  | fuel + 1, c, f =>
    match c.rest with
    | [] => some (c, f)
    | d :: _ =>
      if isBreak d then plainGap indent fuel c.skipBreak (f.addBreak (!c.fresh))
      else if !isBlank d then some (c, f)
      else if !c.fresh then plainGap indent fuel (c.skipBlanks 1) { f with blanks := f.blanks ++ [d] }
      else if c.column < indent ∧ d = '\t' then
        match c.skipGap? true with
        | some (c, _) => if c.atEndOfLine then plainGap indent fuel c f else none
        | none => none
      else plainGap indent fuel (c.skipBlanks 1) f

/-- The rest of a plain scalar; `fuel` bounds the number of words. -/
def plainRest (s : Surroundings) : Nat → Cursor → Fold → Option (List Char × Cursor)
  | 0, _, _ => none
  | fuel + 1, c, f =>
    if (c.fresh && c.atDocumentMark) || c.rest.head? = some '#' then some ([], c)
    else if s.inFlow && c.rest.head? = some '-' && (c.rest.drop 1).head?.any isFlowSign then none
    else
      let n := wordLength s.inFlow c.rest
      let between := if n = 0 then [] else if c.fresh then f.lineText else f.blanks
      let word := between ++ c.rest.take n
      let f := if n = 0 then f else {}
      let c := c.skip n
      match c.rest with
      | [] => some (word, c)
      | d :: _ =>
        if isBlank d || isBreak d then
          match plainGap s.indent (c.rest.length + 1) c f with
          | none => none
          | some (c, f) =>
            if ¬s.inFlow ∧ (c.column : Int) < s.indent then some (word, c)
            else (plainRest s fuel c f).map fun r => (word ++ r.1, r.2)
        else some (word, c)

/-- A plain scalar. -/
def plain? (s : Surroundings) (c : Cursor) : Option (String × Cursor) :=
  let s := { s with indent := s.indent + 1 }
  if s.inFlow ∧ (c.column : Int) < s.indent then none
  else
    match plainRest s (c.rest.length + 1) c {} with
    | some (c₁ :: cs, c) => some (String.ofList (c₁ :: cs), c)
    | _ => none

/-! ## Quoted scalars -/

/-- The character for the letter after a backslash. -/
def escapedChar? : Char → Option Char
  | '0' => some '\x00'
  | 'a' => some '\x07'
  | 'b' => some '\x08'
  | 't' => some '\t'
  | '\t' => some '\t'
  | 'n' => some '\n'
  | 'v' => some '\x0b'
  | 'f' => some '\x0c'
  | 'r' => some '\r'
  | 'e' => some '\x1b'
  | ' ' => some ' '
  | '"' => some '"'
  | '/' => some '/'
  | '\\' => some '\\'
  | 'N' => some '\u0085'
  | '_' => some '\u00a0'
  | 'L' => some '\u2028'
  | 'P' => some '\u2029'
  | _ => none

/-- How many hexadecimal digits follow the letter after a backslash. -/
def codeLength? : Char → Option Nat
  | 'x' => some 2
  | 'u' => some 4
  | 'U' => some 8
  | _ => none

/-- The character that an escape stands for, and how long the escape is without its backslash. -/
def escape? : List Char → Option (Char × Nat)
  | [] => none
  | e :: cs =>
    match codeLength? e with
    | none => (escapedChar? e).map fun c => (c, 1)
    | some n =>
      let code := Number.ofDigits 16 (cs.take n)
      if (cs.take n).length = n ∧ (cs.take n).all Text.isHexChar ∧ code.isValidChar then
        some (Char.ofNat code, n + 1)
      else none

/-- A word of a quoted scalar. Behind the text stands whether an escaped line end follows it. `fuel` bounds the
number of characters. -/
def quotedWord (quote : Char) : Nat → Cursor → Option (List Char × Bool × Cursor)
  | 0, _ => none
  | fuel + 1, c =>
    let push (d : Char) (r : List Char × Bool × Cursor) : List Char × Bool × Cursor := (d :: r.1, r.2)
    match c.rest with
    | [] => some ([], false, c)
    | d :: cs =>
      if isBlank d || isBreak d then some ([], false, c)
      else if d = quote then
        if quote = '\x27' ∧ cs.head? = some quote then (quotedWord quote fuel (c.skip 2)).map (push d)
        else some ([], false, c)
      else if d = '\\' ∧ quote = '"' then
        if cs.head?.any isBreak then some ([], true, (c.skip 1).skipBreak)
        else
          match escape? cs with
          | some (e, n) => (quotedWord quote fuel (c.skip (n + 1))).map (push e)
          | none => none
      else (quotedWord quote fuel (c.skip 1)).map (push d)

/-- The place behind the blanks and line ends after a word in quotes, and what is to be folded. `onNewLine` says
whether a line end was met. `fuel` bounds the number of characters. -/
def quotedGap (indent : Int) : Nat → (onNewLine : Bool) → Cursor → Fold → Option (Cursor × Bool × Fold)
  | 0, _, _, _ => none
  | fuel + 1, onNewLine, c, f =>
    match c.rest with
    | [] => some (c, onNewLine, f)
    | d :: _ =>
      if isBreak d then quotedGap indent fuel true c.skipBreak (f.addBreak (!onNewLine))
      else if !isBlank d then some (c, onNewLine, f)
      else if !onNewLine then quotedGap indent fuel onNewLine (c.skipBlanks 1) { f with blanks := f.blanks ++ [d] }
      else if d = '\t' ∧ c.column < indent then none
      else quotedGap indent fuel onNewLine (c.skipBlanks 1) f

/-- The rest of a quoted scalar, up to its closing quote; `fuel` bounds the number of words. -/
def quotedRest (quote : Char) (indent : Int) : Nat → Cursor → Option (List Char × Cursor)
  | 0, _ => none
  | fuel + 1, c =>
    if c.atDocumentMark ∨ c.rest = [] ∨ (c.column : Int) < indent then none
    else do
      let (word, escaped, c) ← quotedWord quote (c.rest.length + 1) c
      if c.rest.head? = some quote then some (word, c)
      else
        let (c, onNewLine, f) ← quotedGap indent (c.rest.length + 1) escaped c {}
        let (more, c) ← quotedRest quote indent fuel c
        some (word ++ (if onNewLine then f.lineText else f.blanks) ++ more, c)

/-- A quoted scalar, from its opening quote on. What may follow its closing quote depends on where it stands. -/
def quoted? (s : Surroundings) (quote : Char) (start : Cursor) : Option (String × Cursor) := do
  let (text, c) ← quotedRest quote s.indent (start.rest.length + 1) (start.skip 1)
  let (c, _) ← (c.skip 1).skipGap? true
  let fits := match c.rest with
    | [] => true
    | ':' :: _ => s.inFlow || start.line == c.line
    | d :: _ => isBreak d || (s.inFlow && (d == ',' || d == ']' || d == '\x7d'))
  if fits then some (String.ofList text, c) else none

/-! ## Blocks of lines -/

/-- What becomes of the line ends at the end of a block. -/
inductive Chomping
  | strip
  | clip
  | keep
  deriving DecidableEq, Repr

/-- How a block is to be read. -/
structure BlockHeader where
  chomping : Chomping := .clip
  /-- How much further than its surroundings the block is indented, if that is told. -/
  increment : Option Nat := none
  deriving DecidableEq, Repr

/-- What a sign says about the end of a block. -/
def chomping? : List Char → Option Chomping
  | '+' :: _ => some .keep
  | '-' :: _ => some .strip
  | _ => none

/-- Whether a text starts with a digit. -/
def startsDigit (cs : List Char) : Bool := cs.head?.any Number.isDigit

/-- The digit at the start of a text; zero is refused. -/
def increment? (cs : List Char) : Option Nat :=
  match cs with
  | '0' :: _ => none
  | d :: _ => some (Number.digitValue d)
  | [] => none

/-- Reads what follows the sign of a block: how it ends and how far it is indented, in any order. -/
def blockHeader? (c : Cursor) : Option (BlockHeader × Cursor) :=
  match chomping? c.rest with
  | some chomping =>
    let c := c.skip 1
    if startsDigit c.rest then
      (increment? c.rest).map fun n => ({ chomping, increment := some n }, c.skip 1)
    else some ({ chomping }, c)
  | none =>
    if startsDigit c.rest then do
      let n ← increment? c.rest
      let c := c.skip 1
      match chomping? c.rest with
      | some chomping => some ({ chomping, increment := some n }, c.skip 1)
      | none => some ({ increment := some n }, c)
    else some ({}, c)

/-- The place behind empty lines and the blanks of the next one, and how many lines they are. Blanks are skipped
up to a column; `fuel` bounds the number of lines. -/
def skipIndent (column : Nat) : Nat → Cursor → Cursor × Nat
  | 0, c => (c, 0)
  | fuel + 1, c =>
    let c := c.skipBlanks ((c.rest.takeWhile (· = ' ')).length.min (column - c.column))
    if c.rest.head?.any isBreak then
      let (c, n) := skipIndent column fuel c.skipBreak
      (c, n + 1)
    else (c, 0)

/-- The place at the first line with text, how many lines precede it, and the column of the longest run of blanks.
`fuel` bounds the number of lines. -/
def findIndent : Nat → Cursor → (longest : Nat) → Cursor × Nat × Nat
  | 0, c, longest => (c, 0, longest)
  | fuel + 1, c, longest =>
    let c := c.skipBlanks (c.rest.takeWhile (· = ' ')).length
    let longest := max longest c.column
    if c.rest.head?.any isBreak then
      let (c, n, longest) := findIndent fuel c.skipBreak longest
      (c, n + 1, longest)
    else (c, 0, longest)

/-- Reads the lines of a block that stands in a column. `broken` says whether a line precedes, `wasBlank`
whether that one starts with a blank, and `empty` how many empty lines lie between. Behind the text stand the
line ends that follow it. `fuel` bounds the number of lines. -/
def blockLines (isLiteral : Bool) (column : Nat) :
    Nat → (broken wasBlank : Bool) → (empty : Nat) → Cursor → List Char × Bool × Nat × Cursor
  | 0, broken, _, empty, c => ([], broken, empty, c)
  | fuel + 1, broken, wasBlank, empty, c =>
    if c.column ≠ column ∨ c.rest = [] ∨ (column = 0 ∧ c.atDocumentMark) then ([], broken, empty, c)
    else
      let startsBlank := c.rest.head?.any isBlank
      let between :=
        if !isLiteral && broken && !wasBlank && !startsBlank then
          Fold.lineText { broken := true, further := empty }
        else List.replicate (empty + if broken then 1 else 0) '\n'
      let line := c.rest.takeWhile (!isBreak ·)
      let c := c.skip line.length
      if c.rest = [] then (between ++ line, false, 0, c)
      else
        let (c, empty) := skipIndent column (c.rest.length + 1) c.skipBreak
        let (more, r) := blockLines isLiteral column fuel true startsBlank empty c
        (between ++ line ++ more, r)

/-- A block of lines, from its sign on. -/
def block? (s : Surroundings) (isLiteral : Bool) (start : Cursor) : Option (String × Cursor) := do
  let (header, c) ← blockHeader? (start.skip 1)
  let (c, _) ← c.skipGap? true
  if !c.atEndOfLine then none
  else
    let hasBreak := c.rest ≠ []
    let c := if hasBreak then c.skipBreak else c
    if c.rest.head? = some '\t' then none
    else
      let fuel := c.rest.length + 1
      let (c, empty, column) :=
        match header.increment with
        | some n =>
          let column := if 0 ≤ s.indent then s.indent.toNat + n else n
          let (c, empty) := skipIndent column fuel c
          (c, empty, column)
        | none =>
          let (c, empty, longest) := findIndent fuel c 0
          (c, empty, max longest (max (s.indent + 1).toNat (if 0 < s.indent then 1 else 0)))
      if c.rest = [] then
        let text := match header.chomping with
          | .strip => ""
          | .clip => if hasBreak then "\n" else ""
          | .keep => String.ofList (List.replicate (if hasBreak then max 1 empty else 0) '\n')
        some (text, c)
      else if c.column < column ∧ s.indent < c.column then none
      else
        let (text, broken, empty, c) := blockLines isLiteral column fuel false false empty c
        let last := (if broken then ['\n'] else []) ++
          (if c.rest = [] && max column 1 ≤ c.column then ['\n'] else [])
        let tail := match header.chomping with
          | .strip => []
          | .clip => last
          | .keep => last ++ List.replicate empty '\n'
        some (String.ofList (text ++ tail), c)

end Yaml

end NamedLock
