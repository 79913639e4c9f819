import NamedLock.Text.Case
import NamedLock.Text.PrintTable

/-!
# Quoted — a text between quotes, as messages show it

A quote, a backslash and the common controls are written with a backslash. A character that has no
printed form of its own, or that would attach to its neighbour, is spelled by its code point in
lower-case hexadecimal between braces.
-/

namespace NamedLock

namespace Text

/-- A code point spelled out: `\u`, then its hexadecimal digits between braces. -/
def spellOut (c : Char) : List Char :=
  ['\\', 'u', '\x7b'] ++ Nat.toDigits 16 c.toNat ++ ['\x7d']

/-- Whether a quoted text has to spell this character out. -/
def needsSpelling (c : Char) : Bool :=
  if c.toNat < 128 then c.toNat < 32 || c.toNat == 127
  else inRanges extenderRanges c || inRanges unprintableRanges c

/-- How one character stands in a quoted text. -/
def quoteChar (c : Char) : List Char :=
  match c with
  | '\x00' => ['\\', '0']
  | '\t' => ['\\', 't']
  | '\r' => ['\\', 'r']
  | '\n' => ['\\', 'n']
  | '"' => ['\\', '"']
  | '\\' => ['\\', '\\']
  | c => if needsSpelling c then spellOut c else [c]

/-- The text between quotes. -/
def quote (s : String) : String :=
  String.ofList ('"' :: (s.toList.flatMap quoteChar ++ ['"']))

/-- An optional text: `None`, or the quoted text inside `Some(…)`. -/
def quoteOption : Option String → String
  | none => "None"
  | some s => "Some(" ++ quote s ++ ")"

end Text

end NamedLock
