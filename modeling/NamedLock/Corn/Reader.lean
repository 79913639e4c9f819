import NamedLock.Json.Relaxed
import NamedLock.Keyed

/-!
# Reader — reading Corn texts

A Corn text is an object whose pairs need no separators. A key may be a path through objects, and names that were
given values before, with a dollar sign in front, stand for these: as a value, inside a text, or spread into an object
or an array. The values are those of JSON.
-/

namespace NamedLock

namespace Corn

/-- The values of names. -/
abbrev Inputs := Keyed String Json.Value

/-- A reader takes a value off the front of a text. -/
abbrev Reader (α : Type) := List Char → Option (α × List Char)

/-! ## Between tokens -/

/-- Whether a character may stand between tokens. -/
def isBlank (c : Char) : Bool := c == ' ' || c == '\t' || c == '\n' || c == '\r'

/-- The text without blanks and comments in front; `fuel` bounds the number of characters. -/
def skipFiller : Nat → List Char → List Char
  | 0, cs => cs
  | fuel + 1, cs =>
    match cs with
    | '/' :: '/' :: cs => skipFiller fuel (cs.dropWhile (· ≠ '\n'))
    | '/' :: '*' :: cs =>
      match Json.Relaxed.skipComment? cs with
      | some cs => skipFiller fuel cs
      | none => '/' :: '*' :: cs
    | [] => []
    | c :: cs => if isBlank c then skipFiller fuel cs else c :: cs

/-- The text without blanks and comments in front. -/
def skip (cs : List Char) : List Char := skipFiller cs.length cs

/-! ## Names and texts -/

/-- Whether a name may start with this character. -/
def startsName (c : Char) : Bool := c.isAlpha || c == '_'

/-- Whether a name may go on with this character. -/
def isNameChar (c : Char) : Bool := c.isAlphanum || c == '_'

/-- The name behind a dollar sign. -/
def name : Reader String := fun cs =>
  if cs.head?.any startsName then some (String.ofList (cs.takeWhile isNameChar), cs.dropWhile isNameChar) else none

/-- The character that an escape stands for, behind its backslash. -/
def escape : Reader Char := fun cs =>
  match cs with
  | '\\' :: cs => some ('\\', cs)
  | '"' :: cs => some ('"', cs)
  | '$' :: cs => some ('$', cs)
  | 'n' :: cs => some ('\n', cs)
  | 'r' :: cs => some ('\r', cs)
  | 't' :: cs => some ('\t', cs)
  | 'u' :: cs => Json.unicodeEscape cs
  | _ => none

/-- The rest of a text behind its opening quote. A name inside it must stand for a text. `fuel` bounds the number of
characters. -/
def textBody (inputs : Inputs) : Nat → Reader (List Char)
  | 0, _ => none
  | _ + 1, [] => none
  | fuel + 1, c :: cs =>
    if c = '"' then some ([], cs)
    else do
      let (piece, cs) ←
        if c = '\\' then (escape cs).map fun r => ([r.1], r.2)
        else if c = '$' then
          match name cs with
          | some (n, cs) =>
            match inputs.get? n with
            | some (.text s) => some (s.toList, cs)
            | _ => none
          | none => some ([c], cs)
        else some ([c], cs)
      let (more, cs) ← textBody inputs fuel cs
      some (piece ++ more, cs)

/-- How many blanks stand in front. -/
def indentation (line : String) : Nat := (line.toList.takeWhile isBlank).length

/-- A text of several lines without the blanks that all its lines start with. The first line does not count when it is
empty, nor the last one when it is blank. -/
def dedent (s : String) : String :=
  match s.splitOn "\n" with
  | "" :: lines =>
    let isFull (l : String) : Bool := !l.toList.all isBlank
    let lines := if lines.getLast?.all isFull then lines else lines.dropLast
    match (lines.filter isFull).map indentation with
    | [] => String.intercalate "\n" lines
    | n :: ns =>
      let least := ns.foldl min n
      String.intercalate "\n" (lines.map fun l => String.ofList (l.toList.drop least))
  | _ => s

/-! ## Keys -/

/-- Whether a character may stand in a key without quotes. -/
def isKeyChar (c : Char) : Bool := !(isBlank c || ['=', '.', '\x7b', '\x7d', '[', ']', '"', '$'].contains c)

/-- A key without dots, perhaps between single quotes. -/
def keyPart : Reader String := fun cs =>
  match cs with
  | '\x27' :: cs =>
    match cs.dropWhile (· ≠ '\x27') with
    | _ :: rest => some (String.ofList (cs.takeWhile (· ≠ '\x27')), rest)
    | [] => none
  | cs =>
    let part := cs.takeWhile isKeyChar
    if part = [] then none else some (String.ofList part, cs.dropWhile isKeyChar)

/-- Keys with dots between them; `fuel` bounds their number. -/
def key : Nat → Reader (List String)
  | 0, _ => none
  | fuel + 1, cs => do
    let (part, cs) ← keyPart cs
    match cs with
    | '.' :: cs => (key fuel cs).map fun r => (part :: r.1, r.2)
    | cs => some ([part], cs)

/-- Puts a value at a path; what lies on the way must be an object. -/
def put (v : Json.Value) : List String → Keyed String Json.Value → Option (Keyed String Json.Value)
  | [], _ => none
  | [k], ms => some (ms.set k v)
  | k :: ks, ms =>
    match (ms.get? k).getD (.object []) with
    | .object inner => (put v ks inner).map fun inner => ms.set k (.object inner)
    | _ => none

/-! ## Values -/

/-- The base of an integer, and its digits. -/
def baseOf : List Char → Nat × List Char
  | '0' :: 'b' :: cs => (2, cs)
  | '0' :: 'o' :: cs => (8, cs)
  | '0' :: 'x' :: cs => (16, cs)
  | cs => (10, cs)

/-- A number: a signed 64-bit integer in any base, or a decimal fraction. Underscores separate digits. -/
def number : Reader Json.Value := fun cs =>
  let (negative, unsigned) := Number.splitSign cs
  let (base, digits) := baseOf unsigned
  let isPart (c : Char) : Bool :=
    Json.isHexDigit c || c == '_' || (base == 10 && (c == '.' || c == '+' || c == '-'))
  let written := digits.takeWhile isPart
  let plain := written.filter (· ≠ '_')
  let rest := digits.drop written.length
  let n : Int := if negative then -(Number.ofDigits base plain : Int) else Number.ofDigits base plain
  if plain = [] then none
  else if plain.all fun c => Json.isHexDigit c && Number.digitValue c < base then
    if !Number.inSigned64 n then none
    else some (.number (if n < 0 then .negative n else .natural n.toNat), rest)
  else if base ≠ 10 then none
  else
    (Number.readUnsignedDecimal? negative plain).map fun d => (.number (.real d.toBinary64), rest)

mutual

/-- A value without blanks in front; `fuel` bounds the number of steps, here and below. -/
def value (inputs : Inputs) : Nat → Reader Json.Value
  | 0, _ => none
  | fuel + 1, cs =>
    match cs with
    | '"' :: cs => (textBody inputs (cs.length + 1) cs).map fun r => (.text (dedent (String.ofList r.1)), r.2)
    | '\x7b' :: cs => (pairs inputs fuel [] cs).map fun r => (.object r.1, r.2)
    | '[' :: cs => (items inputs fuel cs).map fun r => (.array r.1, r.2)
    | '$' :: cs => (name cs).bind fun r => (inputs.get? r.1).map fun v => (v, r.2)
    | 't' :: 'r' :: 'u' :: 'e' :: cs => some (.boolean true, cs)
    | 'f' :: 'a' :: 'l' :: 's' :: 'e' :: cs => some (.boolean false, cs)
    | 'n' :: 'u' :: 'l' :: 'l' :: cs => some (.null, cs)
    | cs => number cs

/-- The items of an array up to its end. -/
def items (inputs : Inputs) : Nat → Reader (List Json.Value)
  | 0, _ => none
  | fuel + 1, cs => do
    match skip cs with
    | ']' :: cs => some ([], cs)
    | '.' :: '.' :: '$' :: cs =>
      let (n, cs) ← name cs
      match inputs.get? n with
      | some (.array spread) => (items inputs fuel cs).map fun r => (spread ++ r.1, r.2)
      | _ => none
    | cs =>
      let (v, cs) ← value inputs fuel cs
      (items inputs fuel cs).map fun r => (v :: r.1, r.2)

/-- The pairs of an object up to its end, behind those `done`. -/
def pairs (inputs : Inputs) : Nat → (done : Keyed String Json.Value) → Reader (Keyed String Json.Value)
  | 0, _, _ => none
  | fuel + 1, done, cs => do
    match skip cs with
    | '\x7d' :: cs => some (done, cs)
    | '.' :: '.' :: '$' :: cs =>
      let (n, cs) ← name cs
      match inputs.get? n with
      | some (.object spread) => pairs inputs fuel (spread.foldl (fun ms m => ms.set m.1 m.2) done) cs
      | _ => none
    | cs =>
      let (path, cs) ← key (cs.length + 1) cs
      match skip cs with
      | '=' :: cs =>
        let (v, cs) ← value inputs fuel (skip cs)
        pairs inputs fuel (← put v path done) cs
      | _ => none

end

/-! ## The whole -/

/-- Values given to names, up to the closing brace; `fuel` bounds their number. -/
def assignments : Nat → Inputs → Reader Inputs
  | 0, _, _ => none
  | fuel + 1, inputs, cs => do
    match skip cs with
    | '\x7d' :: cs => some (inputs, cs)
    | '$' :: cs =>
      let (n, cs) ← name cs
      match skip cs with
      | '=' :: cs =>
        let (v, cs) ← value inputs (2 * cs.length + 2) (skip cs)
        assignments fuel (inputs.set n v) cs
      | _ => none
    | _ => none

/-- Reads the names in front of an object: `let`, their values between braces, and `in`. -/
def inputs? (cs : List Char) : Option (Inputs × List Char) := do
  match cs with
  | 'l' :: 'e' :: 't' :: cs =>
    match skip cs with
    | '\x7b' :: cs =>
      let (inputs, cs) ← assignments (cs.length + 1) [] cs
      match skip cs with
      | 'i' :: 'n' :: cs => some (inputs, skip cs)
      | _ => none
    | _ => none
  | cs => some ([], cs)

/-- Reads a Corn text. -/
def parse? (s : String) : Option Json.Value := do
  let (inputs, cs) ← inputs? (skip s.toList)
  match cs with
  | '\x7b' :: cs =>
    let (ms, cs) ← pairs inputs (2 * cs.length + 2) [] cs
    if skip cs = [] then some (.object ms) else none
  | _ => none

end Corn

end NamedLock
