import NamedLock.Toml.Moment
import NamedLock.Toml.Value

/-!
# Bare — values that stand without quotes

A bare value is a truth value, an integer, a fraction, an infinity, not a number, or a moment. Underscores may
stand between digits. An integer has to fit 64 bits with its sign, and a fraction has to be finite.
-/

namespace NamedLock

namespace Toml

/-- Whether a character ends a bare value. -/
def endsBare (c : Char) : Bool :=
  c == ' ' || c == '\t' || c == '\n' || c == '\r' || c == ',' || c == ']' || c == '\x7d' || c == '#'

/-- Drops the underscores of a run of digits: each stands between two digits. `digit` says which characters
are digits, and `between` whether the character before was one. -/
def dropUnderscores (digit : Char → Bool) : Bool → List Char → Option (List Char)
  | between, [] => if between then some [] else none
  | between, c :: cs =>
    if digit c then (dropUnderscores digit true cs).map (c :: ·)
    else if c = '_' ∧ between then dropUnderscores digit false cs
    else none

/-- The digits of a number in this base. -/
def isDigitIn (base : Nat) (c : Char) : Bool :=
  (Number.isDigit c || ('a' ≤ c && c ≤ 'z') || ('A' ≤ c && c ≤ 'Z')) &&
    decide (Number.digitValue c < base)

/-- An integer that fits. -/
def fitting? (n : Int) : Option Value := if Number.inSigned64 n then some (.integer n) else none

/-- An integer in the base that its first two characters name. -/
def basedInteger? (base : Nat) (cs : List Char) : Option Value := do
  let ds ← dropUnderscores (isDigitIn base) false cs
  fitting? (Number.ofDigits base ds)

/-- Whether digits may start a number: a zero stands alone. -/
def startsNumber : List Char → Bool
  | '0' :: _ :: _ => false
  | _ => true

/-- The digits before a point or an exponent. -/
def wholeDigits? (cs : List Char) : Option (List Char) := do
  let ds ← dropUnderscores Number.isDigit false cs
  if startsNumber ds then some ds else none

/-- Whether a character belongs to a run of digits. -/
def inRun (c : Char) : Bool := Number.isDigit c || c == '_'

/-- The digits after a point, and the rest. -/
def fractionDigits? : List Char → Option (List Char × List Char)
  | '.' :: cs => (dropUnderscores Number.isDigit false (cs.takeWhile inRun)).map
      fun ds => (ds, cs.dropWhile inRun)
  | cs => some ([], cs)

/-- An exponent that makes up the rest. -/
def exponent? : List Char → Option Int
  | [] => some 0
  | c :: cs =>
    if c = 'e' ∨ c = 'E' then
      let (negative, cs) := Number.splitSign cs
      (dropUnderscores Number.isDigit false cs).map fun ds =>
        let n : Int := Number.ofDigits 10 ds
        if negative then -n else n
    else none

/-- A number after its sign. -/
def number? (negative : Bool) (cs : List Char) : Option Value := do
  let whole ← wholeDigits? (cs.takeWhile inRun)
  match cs.dropWhile inRun with
  | [] =>
    let n : Int := Number.ofDigits 10 whole
    fitting? (if negative then -n else n)
  | rest =>
    let (fraction, rest) ← fractionDigits? rest
    let e ← exponent? rest
    let d : Number.Decimal :=
      { negative, coefficient := Number.ofDigits 10 (whole ++ fraction), exponent := e - fraction.length }
    match d.toBinary64 with
    | .infinite _ => none
    | x => some (.real x)

/-- The infinity and the value that is not a number, after a sign. -/
def special? (negative : Bool) (cs : List Char) : Option Value :=
  if cs = ['i', 'n', 'f'] then some (.real (.infinite negative))
  else if cs = ['n', 'a', 'n'] then some (.real .nan)
  else none

/-- A bare value that makes up the whole text. -/
def bare? (cs : List Char) : Option Value :=
  if cs = ['t', 'r', 'u', 'e'] then some (.boolean true)
  else if cs = ['f', 'a', 'l', 's', 'e'] then some (.boolean false)
  else
    match Moment.parse? cs with
    | some m => some (.moment (String.ofList m.write))
    | none =>
      match cs with
      | '0' :: 'x' :: cs => basedInteger? 16 cs
      | '0' :: 'o' :: cs => basedInteger? 8 cs
      | '0' :: 'b' :: cs => basedInteger? 2 cs
      | cs =>
        let (negative, cs) := Number.splitSign cs
        match special? negative cs with
        | some v => some v
        | none => number? negative cs

/-- Takes a bare value off the front. A date may be followed by one blank and a time. -/
def takeBare? (cs : List Char) : Option (Value × List Char) :=
  let token := cs.takeWhile (!endsBare ·)
  let rest := cs.dropWhile (!endsBare ·)
  match Moment.date? token, rest with
  | some (_, []), ' ' :: c :: cs =>
    if Number.isDigit c then
      let time := (c :: cs).takeWhile (!endsBare ·)
      (bare? (token ++ ' ' :: time)).map fun v => (v, (c :: cs).dropWhile (!endsBare ·))
    else (bare? token).map fun v => (v, rest)
  | _, _ => (bare? token).map fun v => (v, rest)

end Toml

end NamedLock
