import NamedLock.Yaml.Scalar

/-!
# Token — the tokens of a YAML text

Where a collection of indented lines starts and ends, and that a text is a key, is told by tokens that are not
written: they follow from columns, and from a colon behind what may be a key.
-/

namespace NamedLock

namespace Yaml

/-- A token. -/
inductive Token
  | version
  /-- What a handle in front of tags stands for. -/
  | tagSpace (handle space : String)
  | documentStart
  | documentEnd
  | sequenceStart
  | mappingStart
  | blockEnd
  | flowSequenceStart
  | flowSequenceEnd
  | flowMappingStart
  | flowMappingEnd
  | entry
  | comma
  | key
  | value
  | reference (name : String)
  | anchor (name : String)
  | tag (handle name : String)
  | scalar (isPlain : Bool) (text : String)
  deriving DecidableEq, Repr, Inhabited

/-! ## State -/

/-- A token that may turn out to start a key. -/
structure Candidate where
  /-- The number of tokens in front of it. -/
  position : Nat
  line : Nat
  column : Nat
  index : Nat
  /-- Whether nothing else can start here. -/
  required : Bool
  deriving DecidableEq, Repr

/-- An indentation that something else lies around. -/
structure Indent where
  outer : Int
  /-- Whether a collection of lines ends with it. -/
  isBlock : Bool
  deriving DecidableEq, Repr

/-- What has been read of a text. -/
structure Scan where
  cursor : Cursor
  tokens : Array Token := #[]
  keyAllowed : Bool := true
  /-- What may start a key, for each pair of brackets that is open and for what lies around; innermost first. -/
  candidates : List (Option Candidate) := [none]
  indent : Int := -1
  indents : List Indent := []
  /-- Behind what ends here, a colon needs no blank after it. -/
  adjacent : Nat := 0
  /-- Whether braces were opened, or a key was announced, after the last pair without braces. -/
  inBraces : Bool := false
  /-- For each open bracket, whether a pair without braces has begun; innermost first. -/
  loosePairs : List Bool := []

namespace Scan

/-- How many brackets are open. -/
def depth (s : Scan) : Nat := s.candidates.length - 1

/-- Whether brackets are open. -/
def inFlow (s : Scan) : Bool := 0 < s.depth

/-- Where a scalar stands. -/
def surroundings (s : Scan) : Surroundings := { indent := s.indent, inFlow := s.inFlow }

/-- Adds a token. -/
def push (s : Scan) (t : Token) : Scan := { s with tokens := s.tokens.push t }

/-- Adds a token behind so many others. -/
def insert (s : Scan) (position : Nat) (t : Token) : Scan :=
  { s with tokens := ((s.tokens.toList.take position ++ [t]) ++ s.tokens.toList.drop position).toArray }

/-! ## Indentation -/

/-- Starts a collection of lines in a column, unless one stands there already. Its token comes behind `position`
others. -/
def startBlock (s : Scan) (column position : Nat) (t : Token) : Scan :=
  if s.inFlow then s
  else
    let s := match s.indents with
      | i :: is =>
        if s.indent ≤ (column : Int) ∧ !i.isBlock then { s with indent := i.outer, indents := is } else s
      | [] => s
    if s.indent < (column : Int) then
      { s.insert position t with
        indent := column
        indents := { outer := s.indent, isBlock := true } :: s.indents }
    else s

/-- Ends what is indented further than a column. -/
def endBlocks (column : Int) : List Indent → Scan → Scan
  | [], s => { s with indents := [] }
  | i :: is, s =>
    if column < s.indent then
      let s := { s with indent := i.outer }
      endBlocks column is (if i.isBlock then s.push .blockEnd else s)
    else { s with indents := i :: is }

/-- Ends what is indented further than a column, unless brackets are open. -/
def closeTo (s : Scan) (column : Int) : Scan := if s.inFlow then s else endBlocks column s.indents s

/-- What follows the sign of an entry or of a key stands at least one column further than its collection. -/
def indentContent (s : Scan) : Scan :=
  if !s.inFlow && s.indents.head?.any (·.isBlock) then
    { s with indent := s.indent + 1, indents := { outer := s.indent, isBlock := false } :: s.indents }
  else s

/-- Forgets how far what follows a sign is indented, down to the innermost collection. -/
def dropContent : List Indent → Scan → Scan
  | [], s => { s with indents := [] }
  | i :: is, s => if i.isBlock then { s with indents := i :: is } else dropContent is { s with indent := i.outer }

/-! ## Keys -/

/-- Notes that the next token may start a key. -/
def noteCandidate (s : Scan) : Scan :=
  if s.keyAllowed then
    let c : Candidate :=
      { position := s.tokens.size, line := s.cursor.line, column := s.cursor.column, index := s.cursor.index
        required := !s.inFlow && s.indent == s.cursor.column && s.indents.head?.any (·.isBlock) }
    { s with candidates := some c :: s.candidates.drop 1 }
  else s

/-- Gives up what may have started a key; it must not have been required. -/
def dropCandidate? (s : Scan) : Option Scan :=
  match s.candidates with
  | some c :: cs => if c.required then none else some { s with candidates := none :: cs }
  | _ => some s

/-- The most characters of a key that is not announced. -/
def longestKey : Nat := 1024

/-- Gives up what can no longer be a key because its line has ended, or because it is too long. -/
def dropStale? (s : Scan) : Option Scan :=
  if s.inFlow then some s
  else
    match s.candidates with
    | [some c] =>
      if c.line < s.cursor.line ∨ c.index + longestKey < s.cursor.index then s.dropCandidate? else some s
    | _ => some s

/-! ## Signs -/

/-- The place at the next token; `fuel` bounds the number of characters. -/
def skipToToken? : Nat → Scan → Option Scan
  | 0, _ => none
  | fuel + 1, s =>
    let c := s.cursor
    match c.rest with
    | [] => some s
    | d :: _ =>
      if d = '\t' ∧ s.indents ≠ [] ∧ c.fresh ∧ c.column < s.indent then
        match c.skipGap? true with
        | some (c, _) => if c.atEndOfLine then skipToToken? fuel { s with cursor := c } else none
        | none => none
      else if isBlank d then skipToToken? fuel { s with cursor := c.skipBlanks 1 }
      else if isBreak d then
        skipToToken? fuel { s with cursor := c.skipBreak, keyAllowed := s.keyAllowed || !s.inFlow }
      else if d = '#' then
        skipToToken? fuel { s with cursor := c.skip (c.rest.takeWhile (!isBreak ·)).length }
      else some s

/-- Ends a pair without braces. -/
def endLoosePair (s : Scan) : Scan :=
  match s.loosePairs with
  | true :: ps => { s.push .flowMappingEnd with inBraces := false, loosePairs := false :: ps }
  | _ => s

/-- Skips a sign and the gap behind it. -/
def skipSign? (s : Scan) : Option Scan :=
  ((s.cursor.skip 1).skipGap? true).map fun r => { s with cursor := r.1 }

/-- The most brackets that may be open. -/
def greatestDepth : Nat := 255

/-- Opens a bracket or a brace. -/
def openFlow? (s : Scan) (t : Token) : Option Scan :=
  let s := s.noteCandidate.indentContent
  if greatestDepth ≤ s.depth then none
  else
    let s := { s with candidates := none :: s.candidates, keyAllowed := true }
    let s := if t = .flowMappingStart then { s with inBraces := true }
      else { s with loosePairs := false :: s.loosePairs }
    s.skipSign?.map (·.push t)

/-- Closes a bracket or a brace. -/
def closeFlow? (s : Scan) (t : Token) : Option Scan := do
  let s ← s.dropCandidate?
  let s := { s with candidates := if s.inFlow then s.candidates.drop 1 else s.candidates, keyAllowed := false }
  let s := if t = .flowSequenceEnd then { s.endLoosePair with loosePairs := s.loosePairs.drop 1 } else s
  let s ← s.skipSign?
  some ({ s with adjacent := if s.inFlow then s.cursor.index else s.adjacent }.push t)

/-- Reads a comma. -/
def comma? (s : Scan) : Option Scan := do
  let s ← s.dropCandidate?
  let s ← (endLoosePair { s with keyAllowed := true }).skipSign?
  some (s.push .comma)

/-- Reads the dash of an entry. -/
def entry? (s : Scan) : Option Scan := do
  if s.inFlow || !s.keyAllowed then none
  else
    let column := s.cursor.column
    let s := { s with cursor := s.cursor.skip 1 }.startBlock column s.tokens.size .sequenceStart
    let (c, gap) ← s.cursor.skipGap? true
    if gap.hasTab && c.rest.head? = some '-' && Cursor.startsBlank (c.rest.drop 1) then none
    else
      let (c, _) ← c.skipGap? false
      let s := { s with cursor := c }
      let s := if c.rest.head?.any fun d => isBreak d || isFlowSign d then s.indentContent else s
      let s ← s.dropCandidate?
      some ({ s with keyAllowed := true }.push .entry)

/-- The place behind blanks, line ends and comments; `fuel` bounds their number. -/
def skipSpacing : Nat → Cursor → Cursor
  | 0, c => c
  | fuel + 1, c =>
    match c.rest with
    | [] => c
    | d :: _ =>
      if d = ' ' then skipSpacing fuel (c.skipBlanks 1)
      else if isBreak d then skipSpacing fuel c.skipBreak
      else if d = '#' then skipSpacing fuel (c.skip (c.rest.takeWhile (!isBreak ·)).length)
      else c

/-- Reads the question mark that announces a key. No tab may follow it. -/
def key? (s : Scan) : Option Scan := do
  if !s.inFlow && !s.keyAllowed then none
  else
    let s := if s.inFlow then { s with inBraces := true }
      else s.startBlock s.cursor.column s.tokens.size .mappingStart
    let s ← s.dropCandidate?
    let next := s.cursor.skip 1
    let c := skipSpacing next.rest.length next
    if c.index = next.index ∨ c.rest.head? = some '\t' then none
    else some ({ s with cursor := c, keyAllowed := !s.inFlow }.push .key)

/-- Reads the colon behind a key. -/
def value? (s : Scan) : Option Scan := do
  let start := s.cursor
  let isLoose := s.loosePairs ≠ [] && !s.inBraces
  let s := if isLoose then { s with loosePairs := true :: s.loosePairs.drop 1 } else s
  let c := s.cursor.skip 1
  let (c, gap) ← if c.rest.head? = some '\t' then c.skipGap? true else some (c, ⟨false, true⟩)
  if !gap.hasSpace && c.rest.head?.any fun d => d == '-' || d == '_' || d.isAlphanum then none
  else
    let s := { s with cursor := c }
    match s.candidates with
    | some k :: ks =>
      if isLoose && k.line < start.line then none
      else
        let s := s.insert k.position .key
        let s := if isLoose then s.insert k.position .flowMappingStart else s
        let s := (s.startBlock k.column k.position .mappingStart).indentContent
        some ({ s with candidates := none :: ks, keyAllowed := false }.push .value)
    | _ =>
      let s := if isLoose then s.push .flowMappingStart else s
      if !s.inFlow && !s.keyAllowed then none
      else
        let s := (s.startBlock start.column s.tokens.size .mappingStart).indentContent
        some ({ s with keyAllowed := !s.inFlow }.push .value)

/-! ## Names and tags -/

/-- Whether a character may stand in the name of an anchor. -/
def isAnchorChar (c : Char) : Bool :=
  !isBlank c && !isBreak c && !isFlowSign c && c != '\ufeff'

/-- Reads an anchor, or a reference to one. -/
def name? (s : Scan) (t : String → Token) : Option Scan :=
  let s := { s.noteCandidate with keyAllowed := false }
  let name := (s.cursor.rest.drop 1).takeWhile isAnchorChar
  if name = [] then none
  else some ({ s with cursor := s.cursor.skip (name.length + 1) }.push (t (String.ofList name)))

/-- Whether a character may stand in a handle. -/
def isHandleChar (c : Char) : Bool := c.isAlphanum || c == '_' || c == '-'

/-- Whether a character may stand in an address. -/
def isAddressChar (c : Char) : Bool := c.isAlphanum || "-#;/?:@&=+$,_.!~*'()[]%".toList.contains c

/-- Whether a character may stand in a tag. -/
def isTagChar (c : Char) : Bool := isAddressChar c && !isFlowSign c && c != '!'

/-- A text in which bytes may be percent-encoded; they must be UTF-8. -/
def decoded? (cs : List Char) : Option String := (Text.decodeUtf8 (Text.percentBytes cs)).toOption

/-- A handle: an exclamation mark, perhaps with a name and another one behind it. -/
def handle (cs : List Char) : List Char :=
  let name := (cs.drop 1).takeWhile isHandleChar
  let end_ := if (cs.drop (name.length + 1)).head? = some '!' then ['!'] else []
  '!' :: name ++ end_

/-- Reads a tag. -/
def tag? (s : Scan) : Option Scan := do
  let s := { s.noteCandidate with keyAllowed := false }
  let cs := s.cursor.rest
  let (space, name, n) ←
    if (cs.drop 1).head? = some '<' then
      let name := (cs.drop 2).takeWhile isAddressChar
      if name ≠ [] ∧ (cs.drop (name.length + 2)).head? = some '>' then
        some ("", ← decoded? name, name.length + 3)
      else none
    else
      let h := handle cs
      let name := (cs.drop h.length).takeWhile isTagChar
      let n := h.length + name.length
      if 2 ≤ h.length ∧ h.getLast? = some '!' then
        if name = [] then none else some (String.ofList h, ← decoded? name, n)
      else if h.drop 1 ++ name = [] then some ("", "!", n)
      else some ("!", ← decoded? (h.drop 1 ++ name), n)
  let c := s.cursor.skip n
  if Cursor.startsBlank c.rest || (s.inFlow && c.rest.head?.any isFlowSign) then
    some ({ s with cursor := c }.push (.tag space name))
  else none

/-! ## Directives -/

/-- The word at the front, the number of characters up to its end, and the blanks in front of it. -/
def word (cs : List Char) : List Char × Nat × Nat :=
  let blanks := (cs.takeWhile isBlank).length
  let w := (cs.drop blanks).takeWhile fun c => !isBlank c && !isBreak c
  (w, blanks + w.length, blanks)

/-- The token of a directive, and how many characters it takes. One that is not known counts as nothing. -/
def directiveToken? (cs : List Char) : Option (Token × Nat) :=
  let name := cs.takeWhile isHandleChar
  let cs := cs.drop name.length
  if name = [] ∨ !Cursor.startsBlank cs then none
  else if name = ['Y', 'A', 'M', 'L'] then
    let (w, n, _) := word cs
    let major := w.takeWhile Number.isDigit
    let minor := w.drop (major.length + 1)
    if major ≠ [] ∧ major.length ≤ 9 ∧ w.drop major.length = '.' :: minor ∧ minor ≠ [] ∧ minor.length ≤ 9 ∧
        minor.all Number.isDigit then
      some (.version, name.length + n)
    else none
  else if name = ['T', 'A', 'G'] then
    let (h, n, _) := word cs
    let (space, m, _) := word (cs.drop n)
    if h.head? = some '!' ∧ handle h = h ∧ (h = ['!'] ∨ h.getLast? = some '!') ∧ space ≠ [] ∧
        space.all isAddressChar then
      (decoded? space).map fun s => (.tagSpace (String.ofList h) s, name.length + n + m)
    else none
  else some (.tagSpace "" "", name.length + (cs.takeWhile (!isBreak ·)).length)

/-- Reads a directive: a line that starts with a percent sign. -/
def directive? (s : Scan) : Option Scan := do
  let s ← (s.closeTo (-1)).dropCandidate?
  let c := s.cursor.skip 1
  let (t, n) ← directiveToken? c.rest
  let (c, _) ← (c.skip n).skipGap? true
  if c.atEndOfLine then
    some ({ s with cursor := if c.rest = [] then c else c.skipBreak, keyAllowed := false }.push t)
  else none

/-! ## The whole -/

/-- Reads a line that starts or ends a document. -/
def documentMark? (s : Scan) (t : Token) : Option Scan := do
  let s ← (s.closeTo (-1)).dropCandidate?
  let s := { s with cursor := s.cursor.skip 3, keyAllowed := false }.push t
  if t = .documentEnd then
    let (c, _) ← s.cursor.skipGap? true
    if c.atEndOfLine then some { s with cursor := c } else none
  else some s

/-- Reads a plain scalar. -/
def plain? (s : Scan) : Option Scan := do
  let s := { s.noteCandidate with keyAllowed := false }
  let s := dropContent s.indents s
  let (text, c) ← Yaml.plain? s.surroundings s.cursor
  some ({ s with cursor := c, keyAllowed := c.fresh }.push (.scalar true text))

/-- Reads a quoted scalar. Behind it a colon needs no blank after it. -/
def quoted? (s : Scan) (quote : Char) : Option Scan := do
  let s := { s.noteCandidate with keyAllowed := false }
  let (text, c) ← Yaml.quoted? s.surroundings quote s.cursor
  let s ← skipToToken? (c.rest.length + 1) { s with cursor := c }
  some ({ s with adjacent := s.cursor.index }.push (.scalar false text))

/-- Reads a block of lines. -/
def block? (s : Scan) (isLiteral : Bool) : Option Scan := do
  let s := { s.noteCandidate with keyAllowed := true }
  let s := dropContent s.indents s
  let (text, c) ← Yaml.block? s.surroundings isLiteral s.cursor
  some ({ s with cursor := c }.push (.scalar false text))

/-- The end of the text. -/
def finish? (s : Scan) : Option (List Token) :=
  if s.candidates.any fun c => c.any (·.required) then none
  else some (s.closeTo (-1)).tokens.toList

/-- Reads the token whose first character stands here. -/
def token? (s : Scan) : Option Scan :=
  let c := s.cursor
  match c.rest with
  | [] => none
  | d :: cs =>
    if c.column = 0 ∧ d = '%' then s.directive?
    else if c.atDocumentMark then s.documentMark? (if d = '-' then .documentStart else .documentEnd)
    else if c.column < s.indent then none
    else if d = '[' then s.openFlow? .flowSequenceStart
    else if d = '\x7b' then s.openFlow? .flowMappingStart
    else if d = ']' then s.closeFlow? .flowSequenceEnd
    else if d = '\x7d' then s.closeFlow? .flowMappingEnd
    else if d = ',' then s.comma?
    else if d = '-' ∧ Cursor.startsBlank cs then s.entry?
    else if d = '?' ∧ Cursor.startsBlank cs then s.key?
    else if d = ':' ∧ (Cursor.startsBlank cs ||
        (s.inFlow && (cs.head?.any isFlowSign || c.index == s.adjacent))) then s.value?
    else if d = '*' then s.name? .reference
    else if d = '&' then s.name? .anchor
    else if d = '!' then s.tag?
    else if d = '|' ∧ !s.inFlow then s.block? true
    else if d = '>' ∧ !s.inFlow then s.block? false
    else if d = '\x27' ∨ d = '"' then s.quoted? d
    else if d = '%' ∨ d = '@' ∨ d = '\x60' then none
    else s.plain?

/-- Reads all tokens; `fuel` bounds their number. -/
def tokens? : Nat → Scan → Option (List Token)
  | 0, _ => none
  | fuel + 1, s => do
    let s ← skipToToken? (s.cursor.rest.length + 1) s
    let s ← s.dropStale?
    let s := s.closeTo s.cursor.column
    if s.cursor.rest = [] then s.finish?
    else tokens? fuel (← s.token?)

end Scan

/-- The tokens of a text. A zero character ends it. -/
def tokens? (s : String) : Option (List Token) :=
  let cs := s.toList.takeWhile (· ≠ '\x00')
  Scan.tokens? (cs.length + 2) { cursor := { rest := cs } }

end Yaml

end NamedLock
