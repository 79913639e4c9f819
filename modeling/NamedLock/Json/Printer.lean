import NamedLock.Json.Value
import NamedLock.Uuid

/-!
# Printer — writing JSON values

A value is written on one line and without blanks. In a string only the quote, the backslash and the controls
are written with a backslash.
-/

namespace NamedLock

namespace Json

/-- How one character stands in a string. -/
def printChar (c : Char) : List Char :=
  match c with
  | '"' => ['\\', '"']
  | '\\' => ['\\', '\\']
  | '\n' => ['\\', 'n']
  | '\r' => ['\\', 'r']
  | '\t' => ['\\', 't']
  | '\x08' => ['\\', 'b']
  | '\x0c' => ['\\', 'f']
  | c => if c.toNat < 32 then '\\' :: 'u' :: Uuid.hexDigits 4 c.toNat else [c]

/-- A string between quotes. -/
def printString (s : String) : String :=
  String.ofList ('"' :: (s.toList.flatMap printChar ++ ['"']))

/-- A number. -/
def printNumeral : Numeral → String
  | .natural n => Number.showNat n
  | .negative n => Number.showInt n
  | .real x => Number.exchangeLayout.write x

mutual

/-- A value on one line. -/
def print : Value → String
  | .null => "null"
  | .boolean b => if b then "true" else "false"
  | .number n => printNumeral n
  | .text s => printString s
  | .array items => "[" ++ String.intercalate "," (printItems items) ++ "]"
  | .object ms => "\x7b" ++ String.intercalate "," (printMembers ms) ++ "\x7d"

/-- The items of an array. -/
def printItems : List Value → List String
  | [] => []
  | v :: vs => print v :: printItems vs

/-- The members of an object. -/
def printMembers : List (String × Value) → List String
  | [] => []
  | (k, v) :: ms => (printString k ++ ":" ++ print v) :: printMembers ms

end

/-- A whole number. -/
def ofInt (n : Int) : Value :=
  if n < 0 then .number (.negative n) else .number (.natural n.toNat)

end Json

end NamedLock
