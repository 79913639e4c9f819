import NamedLock.Number.Decimal
import NamedLock.Text.Letter
import NamedLock.Text.Percent

/-!
# Reader — reading RON texts

RON writes records as fields between parentheses, which may have a name in front, mappings between braces, and
sequences between brackets or, without names for the fields, between parentheses. An optional value is `Some(…)`
or `None`. Collections nest at most 128 deep.
-/

namespace NamedLock

namespace Ron

/-- A RON value. -/
inductive Value
  | nothing
  | boolean (b : Bool)
  /-- An unsigned 64-bit integer. -/
  | natural (n : Nat)
  /-- A signed 64-bit integer. -/
  | integer (n : Int)
  | real (x : Binary64)
  | text (s : String)
  | sequence (items : List Value)
  | mapping (entries : List (Value × Value))
  deriving Repr, Inhabited

/-- A reader takes a value off the front of a text. -/
abbrev Reader (α : Type) := List Char → Option (α × List Char)

/-- How deep collections may nest. -/
def greatestDepth : Nat := 128

/-! ## Between tokens -/

/-- Whether a character may stand between tokens. -/
def isFiller (c : Char) : Bool :=
  [' ', '\t', '\n', '\r', '\x0b', '\x0c', '\u0085', '\u200e', '\u200f', '\u2028', '\u2029'].contains c

/-- The rest behind the end of a comment that may span lines, and inside which others may open. -/
def skipComment? : (depth : Nat) → List Char → Option (List Char)
  | _, [] => none
  | depth, '/' :: '*' :: cs => skipComment? (depth + 1) cs
  | 0, '*' :: '/' :: cs => some cs
  | depth + 1, '*' :: '/' :: cs => skipComment? depth cs
  | depth, _ :: cs => skipComment? depth cs

/-- The text without blanks and comments in front; `fuel` bounds the number of characters. -/
def skipFiller? : Nat → List Char → Option (List Char)
  | 0, _ => none
  | fuel + 1, cs =>
    match cs with
    | '/' :: '/' :: cs => skipFiller? fuel (cs.dropWhile (· ≠ '\n'))
    | '/' :: '*' :: cs => (skipComment? 0 cs).bind (skipFiller? fuel)
    | [] => some []
    | c :: cs => if isFiller c then skipFiller? fuel cs else some (c :: cs)

/-- The text without blanks and comments in front. -/
def skip? (cs : List Char) : Option (List Char) := skipFiller? (cs.length + 1) cs

/-- Takes a fixed text off the front. -/
def skipText? : List Char → List Char → Option (List Char)
  | [], cs => some cs
  | _ :: _, [] => none
  | p :: ps, c :: cs => if p = c then skipText? ps cs else none

/-- Takes a character off the front, and what is between tokens around it. -/
def skipSign? (c : Char) (cs : List Char) : Option (List Char) := do
  match ← skip? cs with
  | d :: cs => if c = d then skip? cs else none
  | [] => none

/-! ## Names -/

/-- Whether a name may start with this character. -/
def startsName (c : Char) : Bool := Text.isAlphabetic c || c == '_'

/-- Whether a name may go on with this character. -/
def isNameChar (c : Char) : Bool := Text.isAlphanumeric c || c == '_'

/-- Starts of bytes and of raw texts, which are no names. -/
def nonNames : List String := ["b\"", "b'", "br#", "br\"", "r\"", "r#\"", "r##"]

/-- A name. Behind `r#` it may hold more signs. -/
def name : Reader String := fun cs =>
  if nonNames.any fun s => s.toList.isPrefixOf cs then none
  else
    match cs with
    | 'r' :: '#' :: cs =>
      let isRaw (c : Char) : Bool := isNameChar c || c == '.' || c == '+' || c == '-'
      let raw := cs.takeWhile isRaw
      if raw = [] then none else some (String.ofList raw, cs.dropWhile isRaw)
    | c :: cs =>
      if startsName c then some (String.ofList (c :: cs.takeWhile isNameChar), cs.dropWhile isNameChar) else none
    | [] => none

/-! ## Texts -/

/-- The character that an escape stands for, behind its backslash. -/
def escape : Reader Char := fun cs =>
  match cs with
  | 'x' :: a :: b :: cs =>
    if Text.isHexChar a && Text.isHexChar b then some (Char.ofNat (Number.ofDigits 16 [a, b]), cs) else none
  | 'u' :: '\x7b' :: cs =>
    let digits := cs.takeWhile Text.isHexChar
    let code := Number.ofDigits 16 digits
    match cs.dropWhile Text.isHexChar with
    | '\x7d' :: cs =>
      if digits ≠ [] ∧ digits.length ≤ 6 ∧ code.isValidChar then some (Char.ofNat code, cs) else none
    | _ => none
  | '\x27' :: cs => some ('\x27', cs)
  | '"' :: cs => some ('"', cs)
  | '\\' :: cs => some ('\\', cs)
  | 'n' :: cs => some ('\n', cs)
  | 'r' :: cs => some ('\r', cs)
  | 't' :: cs => some ('\t', cs)
  | '0' :: cs => some ('\x00', cs)
  | _ => none

/-- The rest of a text behind its opening quote; `fuel` bounds the number of characters. -/
def textBody : Nat → Reader (List Char)
  | 0, _ => none
  | _ + 1, [] => none
  | fuel + 1, c :: cs =>
    if c = '"' then some ([], cs)
    else do
      let (c, cs) ← if c = '\\' then escape cs else some (c, cs)
      let (more, cs) ← textBody fuel cs
      some (c :: more, cs)

/-- The rest of a raw text behind its opening quote: a quote and so many hashes end it. -/
def rawBody (hashes : List Char) : Reader (List Char)
  | [] => none
  | c :: cs =>
    if c = '"' ∧ hashes.isPrefixOf cs then some ([], cs.drop hashes.length)
    else (rawBody hashes cs).map fun r => (c :: r.1, r.2)

/-- A text in quotes, perhaps a raw one. -/
def text : Reader (List Char) := fun cs =>
  match cs with
  | '"' :: cs => textBody (cs.length + 1) cs
  | 'r' :: cs =>
    match cs.dropWhile (· = '#') with
    | '"' :: r => rawBody (cs.takeWhile (· = '#')) r
    | _ => none
  | _ => none

/-- A character in single quotes, behind the opening one. -/
def character : Reader Char := fun cs => do
  let (c, cs) ←
    match cs with
    | '\\' :: cs => escape cs
    | c :: cs => some (c, cs)
    | [] => none
  match cs with
  | '\x27' :: cs => some (c, cs)
  | _ => none

/-! ## Numbers -/

/-- Kinds of integers that may stand behind their digits: the sign and the number of bits. -/
def integerKinds : List (String × Bool × Nat) :=
  [("i8", true, 7), ("i16", true, 15), ("i32", true, 31), ("i64", true, 63),
    ("u8", false, 8), ("u16", false, 16), ("u32", false, 32), ("u64", false, 64)]

/-- The base of an integer, and its digits. -/
def baseOf : List Char → Nat × List Char
  | '0' :: 'b' :: cs => (2, cs)
  | '0' :: 'o' :: cs => (8, cs)
  | '0' :: 'x' :: cs => (16, cs)
  | cs => (10, cs)

/-- An integer behind its sign. Underscores separate digits. Without a kind it is unsigned unless it is negative. -/
def integer (negative : Bool) : Reader Value := fun cs =>
  let (base, cs) := baseOf cs
  let isDigit (c : Char) : Bool := Text.isHexChar c || c == '_'
  let written := cs.takeWhile isDigit
  let digits := written.filter (· ≠ '_')
  let rest := cs.dropWhile isDigit
  let n := Number.ofDigits base digits
  if digits = [] ∨ written.head? = some '_' ∨ digits.any (base ≤ Number.digitValue ·) then none
  else
    let inRange (isSigned : Bool) (bits : Nat) : Bool :=
      if negative then if isSigned then n ≤ Number.pow2 bits else n = 0 else n < Number.pow2 bits
    let kind := String.ofList (rest.takeWhile isNameChar)
    match integerKinds.find? (·.1 = kind) with
    | some (_, isSigned, bits) =>
      if !inRange isSigned bits then none
      else
        let rest := rest.dropWhile isNameChar
        some (if isSigned then .integer (if negative then -(n : Int) else n) else .natural n, rest)
    | none =>
      if !inRange negative (if negative then 63 else 64) then none
      else some (if negative then .integer (-(n : Int)) else .natural n, rest)

/-- A real: a decimal fraction in which underscores may separate digits, perhaps with its kind. -/
def real : Reader Value := fun cs =>
  let isPart (c : Char) : Bool :=
    Number.isDigit c || c == 'e' || c == 'E' || c == '.' || c == '+' || c == '-' || c == '_'
  let written := cs.takeWhile isPart
  let rest := cs.dropWhile isPart
  let kind := String.ofList (rest.takeWhile isNameChar)
  let rest := if kind = "f32" ∨ kind = "f64" then rest.dropWhile isNameChar else rest
  (Number.readReal? (String.ofList (written.filter (· ≠ '_')))).map fun x => (.real x, rest)

/-- A number. An integer that is too large is a real. -/
def number : Reader Value := fun cs =>
  let (negative, unsigned) := Number.splitSign cs
  match skipText? "inf".toList unsigned, skipText? "NaN".toList unsigned with
  | some cs, _ => some (.real (.infinite negative), cs)
  | _, some cs => some (.real .nan, cs)
  | none, none =>
    match integer negative unsigned with
    | some (v, rest) => if rest.head? = some '.' then real cs else some (v, rest)
    | none => real cs

/-! ## Values -/

/-- Whether the fields between parentheses have names: a name and a colon come first. -/
def hasNames (cs : List Char) : Bool :=
  match name cs with
  | some (_, cs) =>
    match skip? cs with
    | some (':' :: _) => true
    | _ => false
  | none => false

mutual

/-- A value without blanks in front; `depth` more collections may open. `fuel` bounds the number of steps, here and
below. -/
def value : Nat → (depth : Nat) → Reader Value
  | 0, _, _ => none
  | fuel + 1, depth, cs =>
    match name cs with
    | some ("true", cs) => some (.boolean true, cs)
    | some ("false", cs) => some (.boolean false, cs)
    | some ("inf", cs) => some (.real (.infinite false), cs)
    | some ("NaN", cs) => some (.real .nan, cs)
    | some ("None", cs) => some (.nothing, cs)
    | some ("Some", cs) =>
      match depth with
      | 0 => none
      | depth + 1 => do
        let (v, cs) ← value fuel depth (← skipSign? '(' cs)
        let cs ← skip? cs
        let cs ← if cs.head? = some ',' then skip? (cs.drop 1) else some cs
        if cs.head? = some ')' then some (v, cs.drop 1) else none
    | some (_, cs) => do
      match ← skip? cs with
      | '(' :: cs => record fuel depth cs
      | cs => some (.nothing, cs)
    | none =>
      match cs with
      | '(' :: ')' :: cs => some (.nothing, cs)
      | '(' :: cs => record fuel depth cs
      | '[' :: cs =>
        match depth with
        | 0 => none
        | depth + 1 => (items fuel depth ']' cs).map fun r => (.sequence r.1, r.2)
      | '\x7b' :: cs =>
        match depth with
        | 0 => none
        | depth + 1 => (entries fuel depth false '\x7d' cs).map fun r => (.mapping r.1, r.2)
      | '\x27' :: cs => (character cs).map fun r => (.text (String.singleton r.1), r.2)
      | 'b' :: '\x27' :: cs => (character cs).map fun r => (.natural r.1.toNat, r.2)
      | 'b' :: cs => (text cs).map fun r => (.sequence ((r.1.flatMap Text.charBytes).map .natural), r.2)
      | '"' :: _ => (text cs).map fun r => (.text (String.ofList r.1), r.2)
      | 'r' :: _ => (text cs).map fun r => (.text (String.ofList r.1), r.2)
      | cs => number cs

/-- What stands between parentheses, behind the opening one: fields with names, or items. -/
def record : Nat → (depth : Nat) → Reader Value
  | 0, _, _ => none
  | _, 0, _ => none
  | fuel + 1, depth + 1, cs => do
    let cs ← skip? cs
    if hasNames cs then (entries fuel depth true ')' cs).map fun r => (.mapping r.1, r.2)
    else (items fuel depth ')' cs).map fun r => (.sequence r.1, r.2)

/-- Items up to a closing sign. -/
def items : Nat → (depth : Nat) → (closing : Char) → Reader (List Value)
  | 0, _, _, _ => none
  | fuel + 1, depth, closing, cs => do
    let cs ← skip? cs
    if cs.head? = some closing then some ([], cs.drop 1)
    else
      let (v, cs) ← value fuel depth cs
      let cs ← skip? cs
      if cs.head? = some ',' then
        let (vs, cs) ← items fuel depth closing (cs.drop 1)
        some (v :: vs, cs)
      else if cs.head? = some closing then some ([v], cs.drop 1)
      else none

/-- Keys and values up to a closing sign. The keys of fields are names, all others are values. -/
def entries : Nat → (depth : Nat) → (areFields : Bool) → (closing : Char) → Reader (List (Value × Value))
  | 0, _, _, _, _ => none
  | fuel + 1, depth, areFields, closing, cs => do
    let cs ← skip? cs
    if cs.head? = some closing then some ([], cs.drop 1)
    else
      let (k, cs) ← if areFields then (name cs).map fun r => (.text r.1, r.2) else value fuel depth cs
      let (v, cs) ← value fuel depth (← skipSign? ':' cs)
      let cs ← skip? cs
      if cs.head? = some ',' then
        let (es, cs) ← entries fuel depth areFields closing (cs.drop 1)
        some ((k, v) :: es, cs)
      else if cs.head? = some closing then some ([(k, v)], cs.drop 1)
      else none

end

/-! ## The whole -/

/-- Names of features that a text may ask for. None of them changes what is read. -/
def features : List String :=
  ["unwrap_newtypes", "implicit_some", "unwrap_variant_newtypes", "explicit_struct_names"]

/-- The rest behind a list of features, up to its closing parenthesis; `fuel` bounds their number. -/
def skipFeatures? : Nat → List Char → Option (List Char)
  | 0, _ => none
  | fuel + 1, cs => do
    let (s, cs) ← name cs
    if !features.contains s then none
    else
      match ← skip? cs with
      | ',' :: cs =>
        let cs ← skip? cs
        if cs.head?.any startsName then skipFeatures? fuel cs else some cs
      | cs => some cs

/-- The rest behind lines that ask for features; `fuel` bounds their number. -/
def skipAttributes? : Nat → List Char → Option (List Char)
  | 0, _ => none
  | fuel + 1, cs =>
    match cs with
    | '#' :: cs => do
      let cs ← skipSign? '(' (← skipText? "enable".toList (← skipSign? '[' (← skipSign? '!' cs)))
      let cs ← skipSign? ']' (← skipSign? ')' (← skipFeatures? cs.length cs))
      skipAttributes? fuel cs
    | cs => some cs

/-- Reads a RON text. -/
def parse? (s : String) : Option Value := do
  let cs ← skip? s.toList
  let cs ← skipAttributes? (cs.length + 1) cs
  let (v, cs) ← value (3 * cs.length + 3) greatestDepth cs
  if (← skip? cs) = [] then some v else none

end Ron

end NamedLock
