import NamedLock.Json.Reader
import NamedLock.Text.Letter

/-!
# Relaxed — JSON texts written by hand

A relaxed text may hold comments, names and texts without or with either kind of quotes, commas behind the last
item, and numbers with a plus sign, in base 16, or with a point at their start or end. Integers are signed and
have 64 bits.
-/

namespace NamedLock

namespace Json

namespace Relaxed

/-! ## Between tokens -/

/-- Whether a character ends a line. -/
def isLineEnd (c : Char) : Bool := c == '\n' || c == '\r' || c == '\u2028' || c == '\u2029'

/-- Whether a character may stand between tokens. -/
def isFiller (c : Char) : Bool := (Text.isBlank c && c != '\u0085') || c == '\ufeff'

/-- The rest behind the end of a comment that may span lines. -/
def skipComment? : List Char → Option (List Char)
  | [] => none
  | '*' :: '/' :: cs => some cs
  | _ :: cs => skipComment? cs

/-- The text without blanks and comments in front; `fuel` bounds the number of characters. -/
def skipFiller? : Nat → List Char → Option (List Char)
  | 0, _ => none
  | fuel + 1, cs =>
    match cs with
    | '/' :: '/' :: cs => skipFiller? fuel (cs.dropWhile (!isLineEnd ·))
    | '/' :: '*' :: cs => (skipComment? cs).bind (skipFiller? fuel)
    | [] => some []
    | c :: cs => if isFiller c then skipFiller? fuel cs else some (c :: cs)

/-- The text without blanks and comments in front. -/
def skip? (cs : List Char) : Option (List Char) := skipFiller? (cs.length + 1) cs

/-! ## Strings and names -/

/-- The character for the one after a backslash. Digits other than zero stand for none. -/
def escapedChar? (c : Char) : Option Char :=
  match c with
  | 'b' => some '\x08'
  | 'f' => some '\x0c'
  | 'n' => some '\n'
  | 'r' => some '\r'
  | 't' => some '\t'
  | 'v' => some '\x0b'
  | '0' => some '\x00'
  | c => if Number.isDigit c then none else some c

/-- The rest of a string behind its opening quote. The end of a line behind a backslash counts as nothing.
`fuel` bounds the number of characters. -/
def stringBody (quote : Char) : Nat → Reader (List Char)
  | 0, _ => none
  | _ + 1, [] => none
  | fuel + 1, c :: cs =>
    let more (d : Char) (cs : List Char) := (stringBody quote fuel cs).map fun r => (d :: r.1, r.2)
    if c = quote then some ([], cs)
    else if isLineEnd c then none
    else if c ≠ '\\' then more c cs
    else
      match cs with
      | 'u' :: cs => (unicodeEscape cs).bind fun r => more r.1 r.2
      | 'x' :: a :: b :: cs =>
        if isHexDigit a && isHexDigit b then more (Char.ofNat (Number.ofDigits 16 [a, b])) cs else none
      | 'x' :: _ => none
      | '\r' :: '\n' :: cs => stringBody quote fuel cs
      | d :: cs =>
        if isLineEnd d then stringBody quote fuel cs else (escapedChar? d).bind fun e => more e cs
      | [] => none

/-- Whether a name may start with this character. -/
def startsName (c : Char) : Bool := Text.isAlphabetic c || c == '$' || c == '_'

/-- Whether a name may go on with this character. -/
def isNameChar (c : Char) : Bool :=
  Text.isAlphanumeric c || c == '$' || c == '_' || c == '\u200c' || c == '\u200d'

/-- The rest of a name; `fuel` bounds the number of characters. -/
def nameRest : Nat → List Char → List Char × List Char
  | 0, cs => ([], cs)
  | _ + 1, [] => ([], [])
  | fuel + 1, c :: cs =>
    let more (d : Char) (cs : List Char) :=
      let (ds, cs) := nameRest fuel cs
      (d :: ds, cs)
    if isNameChar c then more c cs
    else
      match c, cs with
      | '\\', 'u' :: cs' =>
        match unicodeEscape cs' with
        | some (d, cs') => more d cs'
        | none => ([], c :: cs)
      | _, _ => ([], c :: cs)

/-- The name of a member: a string, or a name without quotes. -/
def memberName : Reader String := fun cs =>
  let ofChars (r : List Char × List Char) : String × List Char := (String.ofList r.1, r.2)
  match cs with
  | [] => none
  | c :: cs' =>
    if c = '"' ∨ c = '\x27' then (stringBody c cs.length cs').map ofChars
    else if startsName c ∨ c = '\\' then
      match nameRest cs.length cs with
      | ([], _) => none
      | r => some (ofChars r)
    else none

/-! ## Numbers -/

/-- The number at the front behind its sign: digits with a point or an exponent, or not. -/
def decimal (negative : Bool) : Reader Numeral := fun cs =>
  let whole := cs.takeWhile Number.isDigit
  let cs := cs.dropWhile Number.isDigit
  let (fraction, cs) : Option (List Char) × List Char :=
    match cs with
    | '.' :: r => (some (r.takeWhile Number.isDigit), r.dropWhile Number.isDigit)
    | r => (none, r)
  let (exponent, cs) : Option Int × List Char :=
    match cs with
    | e :: r =>
      if e = 'e' ∨ e = 'E' then
        match exponentPart r with
        | some (n, r) => (some n, r)
        | none => (none, e :: r)
      else (none, e :: r)
    | [] => (none, [])
  let digits := whole ++ fraction.getD []
  if digits = [] ∨ (whole.head? = some '0' ∧ whole.length ≠ 1) then none
  else
    let n := Number.ofDigits 10 digits
    if fraction = none ∧ exponent = none then
      let value : Int := if negative then -(n : Int) else n
      if !Number.inSigned64 value then none
      else if value < 0 then some (.negative value, cs)
      else some (.natural n, cs)
    else
      let d : Number.Decimal :=
        { negative, coefficient := n, exponent := exponent.getD 0 - (fraction.getD []).length }
      match d.toBinary64 with
      | .infinite _ => none
      | x => some (.real x, cs)

/-- A number: decimal, in base 16, infinite or none at all. -/
def number : Reader Numeral := fun cs =>
  let (negative, cs) := Number.splitSign cs
  match skipText? "Infinity".toList cs, skipText? "NaN".toList cs with
  | some cs, _ => some (.real (.infinite negative), cs)
  | _, some cs => some (.real .nan, cs)
  | none, none =>
    match cs with
    | '0' :: x :: r =>
      if x = 'x' ∨ x = 'X' then
        let digits := r.takeWhile isHexDigit
        let n := Number.ofDigits 16 digits
        if digits = [] ∨ negative ∨ Number.pow2 32 ≤ n then none
        else some (.natural n, r.dropWhile isHexDigit)
      else decimal negative cs
    | _ => decimal negative cs

/-! ## Values -/

mutual

/-- A value without blanks in front; `fuel` bounds the number of steps, here and below. -/
def value : Nat → Reader Value
  | 0, _ => none
  | fuel + 1, cs =>
    match cs with
    | [] => none
    | c :: cs' =>
      if c = '"' ∨ c = '\x27' then
        (stringBody c cs.length cs').map fun r => (.text (String.ofList r.1), r.2)
      else if c = '[' then (items fuel cs').map fun r => (.array r.1, r.2)
      else if c = '\x7b' then (members fuel cs').map fun r => (.object r.1, r.2)
      else if c = 'n' then (skipText? "ull".toList cs').map fun cs => (.null, cs)
      else if c = 't' then (skipText? "rue".toList cs').map fun cs => (.boolean true, cs)
      else if c = 'f' then (skipText? "alse".toList cs').map fun cs => (.boolean false, cs)
      else (number cs).map fun r => (.number r.1, r.2)

/-- The items of an array up to its end. -/
def items : Nat → Reader (List Value)
  | 0, _ => none
  | fuel + 1, cs => do
    match ← skip? cs with
    | ']' :: cs => some ([], cs)
    | cs =>
      let (v, cs) ← value fuel cs
      match ← skip? cs with
      | ']' :: cs => some ([v], cs)
      | ',' :: cs =>
        let (vs, cs) ← items fuel cs
        some (v :: vs, cs)
      | _ => none

/-- The members of an object up to its end. -/
def members : Nat → Reader (List (String × Value))
  | 0, _ => none
  | fuel + 1, cs => do
    match ← skip? cs with
    | '\x7d' :: cs => some ([], cs)
    | cs =>
      let (name, cs) ← memberName cs
      match ← skip? cs with
      | ':' :: cs =>
        let (v, cs) ← value fuel (← skip? cs)
        match ← skip? cs with
        | '\x7d' :: cs => some ([(name, v)], cs)
        | ',' :: cs =>
          let (ms, cs) ← members fuel cs
          some ((name, v) :: ms, cs)
        | _ => none
      | _ => none

end

/-- Reads a relaxed text that holds one value. -/
def parse? (s : String) : Option Value := do
  let cs ← skip? s.toList
  let (v, cs) ← value (2 * cs.length + 1) cs
  if (← skip? cs) = [] then some v else none

end Relaxed

end Json

end NamedLock
