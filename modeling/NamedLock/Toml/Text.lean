import NamedLock.Number.Decimal

/-!
# Text — quoted texts in TOML

Four kinds: on one line or on several, with escapes or without. Each reader is a walk over the characters with a
small state, and stops after the closing quotes. A line end inside a text belongs to it as it stands.
-/

namespace NamedLock

namespace Toml

/-- Whether a character may stand in a text as it is: no control but the tab. -/
def isPlain (c : Char) : Bool := (32 ≤ c.toNat && c.toNat != 127) || c == '\t'

/-- Whether a number is the code of a character. -/
def isCodePoint (n : Nat) : Bool := n < 0xD800 || (0xDFFF < n && n < 0x110000)

/-- Whether a character is a hexadecimal digit. -/
def isHex (c : Char) : Bool :=
  Number.isDigit c || ('a' ≤ c && c ≤ 'f') || ('A' ≤ c && c ≤ 'F')

/-- What follows a backslash. -/
inductive Escape
  | char (c : Char)
  /-- A code point of so many hexadecimal digits. -/
  | code (places : Nat)
  deriving DecidableEq, Repr

/-- The meaning of the character after a backslash. -/
def escape? (c : Char) : Option Escape :=
  match c with
  | 'b' => some (.char '\x08')
  | 't' => some (.char '\t')
  | 'n' => some (.char '\n')
  | 'f' => some (.char '\x0c')
  | 'r' => some (.char '\r')
  | 'e' => some (.char '\x1b')
  | '"' => some (.char '"')
  | '\\' => some (.char '\\')
  | 'x' => some (.code 2)
  | 'u' => some (.code 4)
  | 'U' => some (.code 8)
  | _ => none

/-- Puts a character in front of a text that was read. -/
def prepend (c : Char) (r : Option (List Char × List Char)) : Option (List Char × List Char) :=
  r.map fun p => (c :: p.1, p.2)

/-! ## One line -/

/-- Where a walk through a text with escapes stands. -/
inductive EscapeState
  | plain
  /-- After a backslash. -/
  | escaped
  /-- Inside a code point: digits still to come, and the value so far. -/
  | code (places value : Nat)
  deriving DecidableEq, Repr

/-- The rest of a text with escapes, after its opening quote. -/
def basicBody : EscapeState → List Char → Option (List Char × List Char)
  | _, [] => none
  | .plain, c :: cs =>
    if c = '"' then some ([], cs)
    else if c = '\\' then basicBody .escaped cs
    else if isPlain c then prepend c (basicBody .plain cs)
    else none
  | .escaped, c :: cs =>
    match escape? c with
    | some (.char d) => prepend d (basicBody .plain cs)
    | some (.code places) => basicBody (.code places 0) cs
    | none => none
  | .code places value, c :: cs =>
    if isHex c then
      let value := value * 16 + Number.digitValue c
      if places ≤ 1 then
        if isCodePoint value then prepend (Char.ofNat value) (basicBody .plain cs) else none
      else basicBody (.code (places - 1) value) cs
    else none

/-- The rest of a text without escapes, after its opening quote. -/
def literalBody : List Char → Option (List Char × List Char)
  | [] => none
  | c :: cs =>
    if c = '\x27' then some ([], cs)
    else if isPlain c then prepend c (literalBody cs)
    else none

/-! ## Several lines -/

/-- Where a walk through a text of several lines stands. -/
inductive LinesState
  | plain
  | escaped
  | code (places value : Nat)
  /-- After a backslash that ends a line, in the blanks; `broken` once the line has ended. -/
  | joining (broken : Bool)
  /-- After so many quotes. -/
  | quotes (count : Nat)
  deriving DecidableEq, Repr

/-- What a character does where it has no special meaning. -/
inductive LinesStep
  | emit (c : Char)
  | move (s : LinesState)
  | refuse

/-- A character in the middle of a text of several lines; `quote` is its kind of quote and `escapes` says
whether a backslash is special. -/
def linesChar (quote : Char) (escapes : Bool) (c : Char) : LinesStep :=
  if c = quote then .move (.quotes 1)
  else if c = '\\' ∧ escapes then .move .escaped
  else if isPlain c || c == '\n' || c == '\r' then .emit c
  else .refuse

/-- Puts `n` quotes in front of a text that was read. -/
def prependQuotes (quote : Char) (n : Nat) (r : Option (List Char × List Char)) :
    Option (List Char × List Char) :=
  r.map fun p => (List.replicate n quote ++ p.1, p.2)

/-- The rest of a text of several lines, after its opening quotes. Three quotes close it, and up to two more
before them belong to the text. -/
def linesBody (quote : Char) (escapes : Bool) : LinesState → List Char → Option (List Char × List Char)
  | .quotes n, [] => if 3 ≤ n then some (List.replicate (n - 3) quote, []) else none
  | _, [] => none
  | .plain, c :: cs =>
    match linesChar quote escapes c with
    | .emit d => prepend d (linesBody quote escapes .plain cs)
    | .move s => linesBody quote escapes s cs
    | .refuse => none
  | .escaped, c :: cs =>
    match escape? c with
    | some (.char d) => prepend d (linesBody quote escapes .plain cs)
    | some (.code places) => linesBody quote escapes (.code places 0) cs
    | none =>
      if c = ' ' ∨ c = '\t' ∨ c = '\r' then linesBody quote escapes (.joining false) cs
      else if c = '\n' then linesBody quote escapes (.joining true) cs
      else none
  | .code places value, c :: cs =>
    if isHex c then
      let value := value * 16 + Number.digitValue c
      if places ≤ 1 then
        if isCodePoint value then
          prepend (Char.ofNat value) (linesBody quote escapes .plain cs)
        else none
      else linesBody quote escapes (.code (places - 1) value) cs
    else none
  | .joining broken, c :: cs =>
    if c = ' ' ∨ c = '\t' ∨ c = '\r' then linesBody quote escapes (.joining broken) cs
    else if c = '\n' then linesBody quote escapes (.joining true) cs
    else if broken then
      match linesChar quote escapes c with
      | .emit d => prepend d (linesBody quote escapes .plain cs)
      | .move s => linesBody quote escapes s cs
      | .refuse => none
    else none
  | .quotes n, c :: cs =>
    if c = quote then
      if n = 4 then some (List.replicate 2 quote, cs)
      else linesBody quote escapes (.quotes (n + 1)) cs
    else if 3 ≤ n then some (List.replicate (n - 3) quote, c :: cs)
    else
      prependQuotes quote n <|
        match linesChar quote escapes c with
        | .emit d => prepend d (linesBody quote escapes .plain cs)
        | .move s => linesBody quote escapes s cs
        | .refuse => none

/-- The text without a line end in front. -/
def dropFirstNewline : List Char → List Char
  | '\n' :: cs => cs
  | '\r' :: '\n' :: cs => cs
  | cs => cs

/-- Takes a quoted text off the front. -/
def takeText? : List Char → Option (String × List Char)
  | '"' :: '"' :: '"' :: cs =>
    (linesBody '"' true .plain (dropFirstNewline cs)).map fun r => (String.ofList r.1, r.2)
  | '"' :: cs => (basicBody .plain cs).map fun r => (String.ofList r.1, r.2)
  | '\x27' :: '\x27' :: '\x27' :: cs =>
    (linesBody '\x27' false .plain (dropFirstNewline cs)).map fun r => (String.ofList r.1, r.2)
  | '\x27' :: cs => (literalBody cs).map fun r => (String.ofList r.1, r.2)
  | _ => none

end Toml

end NamedLock
