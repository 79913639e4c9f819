import NamedLock.Json.Value

/-!
# Reader — reading JSON texts

`parse?` reads one value with blanks around it. Texts nest at most 127 deep. An integer that fits 64
bits stays an integer; any other number becomes double precision: its leading digits, as many as fit 64 bits, are
rounded, then scaled by a rounded power of ten.
-/

namespace NamedLock

namespace Json

/-- A reader takes a value off the front of a text. -/
abbrev Reader (α : Type) := List Char → Option (α × List Char)

/-- How deep arrays and objects may nest. -/
def greatestDepth : Nat := 127

/-- Whether a character may stand between tokens. -/
def isBlank (c : Char) : Bool := c == ' ' || c == '\t' || c == '\n' || c == '\r'

/-- The text without the blanks in front. -/
def skipBlanks (cs : List Char) : List Char := cs.dropWhile isBlank

/-- Takes a fixed text off the front. -/
def skipText? : List Char → List Char → Option (List Char)
  | [], cs => some cs
  | _ :: _, [] => none
  | p :: ps, c :: cs => if p = c then skipText? ps cs else none

/-! ## Strings -/

/-- Whether a character is a hexadecimal digit. -/
def isHexDigit (c : Char) : Bool :=
  Number.isDigit c || ('a' ≤ c && c ≤ 'f') || ('A' ≤ c && c ≤ 'F')

/-- Four hexadecimal digits. -/
def fourHexDigits : Reader Nat
  | a :: b :: c :: d :: cs =>
    if [a, b, c, d].all isHexDigit then some (Number.ofDigits 16 [a, b, c, d], cs) else none
  | _ => none

/-- The character for the letter after a backslash. -/
def escapedChar? : Char → Option Char
  | '"' => some '"'
  | '\\' => some '\\'
  | '/' => some '/'
  | 'b' => some '\x08'
  | 'f' => some '\x0c'
  | 'n' => some '\n'
  | 'r' => some '\r'
  | 't' => some '\t'
  | _ => none

/-- The character after `\u`: a code unit, or two that form a pair. -/
def unicodeEscape : Reader Char := fun cs =>
  match fourHexDigits cs with
  | none => none
  | some (high, cs) =>
    if 0xD800 ≤ high ∧ high ≤ 0xDBFF then
      match cs with
      | '\\' :: 'u' :: cs =>
        match fourHexDigits cs with
        | some (low, cs) =>
          if 0xDC00 ≤ low ∧ low ≤ 0xDFFF then
            some (Char.ofNat (0x10000 + (high - 0xD800) * 0x400 + (low - 0xDC00)), cs)
          else none
        | none => none
      | _ => none
    else if 0xDC00 ≤ high ∧ high ≤ 0xDFFF then none
    else some (Char.ofNat high, cs)

/-- The rest of a string after its opening quote; `fuel` bounds the number of characters. -/
def stringBody : Nat → Reader (List Char)
  | 0, _ => none
  | _ + 1, [] => none
  | fuel + 1, c :: cs =>
    if c = '"' then some ([], cs)
    else if c = '\\' then
      match cs with
      | 'u' :: cs => do
        let (d, cs) ← unicodeEscape cs
        let (ds, cs) ← stringBody fuel cs
        some (d :: ds, cs)
      | e :: cs => do
        let d ← escapedChar? e
        let (ds, cs) ← stringBody fuel cs
        some (d :: ds, cs)
      | [] => none
    else if c.toNat < 32 then none
    else do
      let (ds, cs) ← stringBody fuel cs
      some (c :: ds, cs)

/-- A string after its opening quote. -/
def string : Reader String := fun cs =>
  (stringBody cs.length cs).map fun r => (String.ofList r.1, r.2)

/-! ## Numbers -/

/-- The bound of the digits that are kept. -/
def keptBound : Nat := Number.pow2 64

/-- The longest run of leading digits whose value stays below the bound. -/
def keepDigits (n : Nat) : List Char → Nat × List Char
  | [] => (n, [])
  | c :: cs =>
    let m := n * 10 + Number.digitValue c
    if m < keptBound then keepDigits m cs else (n, c :: cs)

/-- Scales a value by a power of ten that is rounded first; `none` when it grows beyond every finite
value. -/
def scale? (negative : Bool) (coefficient : Nat) (exponent : Int) : Option Binary64 :=
  let rounded := Binary64.ofNat coefficient
  if rounded.isZero then some (Binary64.zero negative)
  else
    let result :=
      if 0 ≤ exponent then
        if exponent ≤ 308 then
          Binary64.timesPower negative rounded exponent.toNat
        else .infinite negative
      else if -308 ≤ exponent then
        Binary64.overPower negative rounded (-exponent).toNat
      else if -616 ≤ exponent then
        Binary64.overPower negative (Binary64.overPower false rounded 308) (-exponent - 308).toNat
      else Binary64.zero negative
    match result with
    | .infinite _ => none
    | x => some x

/-- An exponent after its letter: an optional sign and digits. -/
def exponentPart : Reader Int := fun cs =>
  let (negative, cs) := Number.splitSign cs
  let ds := cs.takeWhile Number.isDigit
  if ds = [] then none
  else
    let n : Int := Number.ofDigits 10 ds
    some (if negative then -n else n, cs.dropWhile Number.isDigit)

/-- A number after its sign. -/
def unsignedNumber (negative : Bool) : Reader Numeral := fun cs =>
  let whole := cs.takeWhile Number.isDigit
  let cs := cs.dropWhile Number.isDigit
  match whole with
  | [] => none
  | '0' :: _ :: _ => none
  | _ =>
    let (n, dropped) := keepDigits 0 whole
    let fraction : Option (Option (List Char) × List Char) :=
      match cs with
      | '.' :: r =>
        let ds := r.takeWhile Number.isDigit
        if ds = [] then none else some (some ds, r.dropWhile Number.isDigit)
      | r => some (none, r)
    match fraction with
    | none => none
    | some (ds?, cs) =>
      let ds := ds?.getD []
      let (m, unused) := keepDigits n ds
      let places : Int := (dropped.length : Int) - ((ds.length - unused.length : Nat) : Int)
      let exponent : Option (Option Int × List Char) :=
        match cs with
        | 'e' :: r => (exponentPart r).map fun x => (some x.1, x.2)
        | 'E' :: r => (exponentPart r).map fun x => (some x.1, x.2)
        | r => some (none, r)
      match exponent with
      | none => none
      | some (e?, cs) =>
        if ds? = none ∧ e? = none ∧ dropped = [] then
          if !negative then some (.natural n, cs)
          else if n = 0 ∨ n > Number.pow2 63 then some (.real ((Binary64.ofNat n).withSign true), cs)
          else some (.negative (-(n : Int)), cs)
        else (scale? negative m (places + e?.getD 0)).map fun x => (.real x, cs)

/-- A number. -/
def number : Reader Numeral
  | '-' :: cs => unsignedNumber true cs
  | cs => unsignedNumber false cs

/-! ## Values -/

mutual

/-- A value without blanks in front; `depth` more arrays and objects may open. -/
def value : Nat → Nat → Reader Value
  | 0, _, _ => none
  | fuel + 1, depth, cs =>
    match cs with
    | '"' :: cs => (string cs).map fun r => (.text r.1, r.2)
    | '[' :: cs =>
      match depth with
      | 0 => none
      | depth + 1 =>
        match skipBlanks cs with
        | ']' :: cs => some (.array [], cs)
        | cs => (items fuel depth cs).map fun r => (.array r.1, r.2)
    | '\x7b' :: cs =>
      match depth with
      | 0 => none
      | depth + 1 =>
        match skipBlanks cs with
        | '\x7d' :: cs => some (.object [], cs)
        | cs => (members fuel depth cs).map fun r => (.object r.1, r.2)
    | 'n' :: cs => (skipText? ['u', 'l', 'l'] cs).map fun cs => (.null, cs)
    | 't' :: cs => (skipText? ['r', 'u', 'e'] cs).map fun cs => (.boolean true, cs)
    | 'f' :: cs => (skipText? ['a', 'l', 's', 'e'] cs).map fun cs => (.boolean false, cs)
    | cs => (number cs).map fun r => (.number r.1, r.2)

/-- The items of an array up to its end. -/
def items : Nat → Nat → Reader (List Value)
  | 0, _, _ => none
  | fuel + 1, depth, cs =>
    match value fuel depth cs with
    | none => none
    | some (v, cs) =>
      match skipBlanks cs with
      | ']' :: cs => some ([v], cs)
      | ',' :: cs => (items fuel depth (skipBlanks cs)).map fun r => (v :: r.1, r.2)
      | _ => none

/-- The members of an object up to its end. -/
def members : Nat → Nat → Reader (List (String × Value))
  | 0, _, _ => none
  | fuel + 1, depth, cs =>
    match cs with
    | '"' :: cs =>
      match string cs with
      | none => none
      | some (name, cs) =>
        match skipBlanks cs with
        | ':' :: cs =>
          match value fuel depth (skipBlanks cs) with
          | none => none
          | some (v, cs) =>
            match skipBlanks cs with
            | '\x7d' :: cs => some ([(name, v)], cs)
            | ',' :: cs =>
              (members fuel depth (skipBlanks cs)).map fun r => ((name, v) :: r.1, r.2)
            | _ => none
        | _ => none
    | _ => none

end

/-- Reads a text that holds one value and blanks around it. -/
def parse? (s : String) : Option Value :=
  let cs := skipBlanks s.toList
  match value (2 * cs.length + 1) greatestDepth cs with
  | some (v, rest) => if skipBlanks rest = [] then some v else none
  | none => none

end Json

end NamedLock
