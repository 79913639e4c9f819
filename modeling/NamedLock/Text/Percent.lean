import NamedLock.Number.Decimal

/-!
# Percent — percent-encoded texts

A byte may be written as a percent sign and two hexadecimal digits. Decoding gives bytes, which may or may not be
valid UTF-8: `decodeUtf8` finds the first fault, and `decodeLossy` puts a replacement character for each.
-/

namespace NamedLock

namespace Text

/-- Whether a character is a hexadecimal digit. -/
def isHexChar (c : Char) : Bool :=
  Number.isDigit c || ('a' ≤ c && c ≤ 'f') || ('A' ≤ c && c ≤ 'F')

/-- The UTF-8 bytes of a character. -/
def charBytes (c : Char) : List Nat := (String.singleton c).toUTF8.data.toList.map UInt8.toNat

/-- The bytes of a text in which some bytes are percent-encoded. -/
def percentBytes : List Char → List Nat
  | '%' :: a :: b :: cs =>
    if isHexChar a && isHexChar b then Number.ofDigits 16 [a, b] :: percentBytes cs
    else charBytes '%' ++ percentBytes (a :: b :: cs)
  | c :: cs => charBytes c ++ percentBytes cs
  | [] => []

/-! ## UTF-8 -/

/-- What stands at the front of a sequence of bytes. -/
inductive Utf8Step
  | char (code : Nat) (rest : List Nat)
  /-- So many bytes that cannot be the start of a character. -/
  | invalid (count : Nat)
  /-- The start of a character that is cut off. -/
  | incomplete
  deriving DecidableEq, Repr

/-- Whether a byte continues a character. -/
def isContinuation (b : Nat) : Bool := 0x80 ≤ b && b ≤ 0xBF

/-- The range of the second byte after this first byte of three or four. -/
def secondRange (b : Nat) : Nat × Nat :=
  if b = 0xE0 then (0xA0, 0xBF)
  else if b = 0xED then (0x80, 0x9F)
  else if b = 0xF0 then (0x90, 0xBF)
  else if b = 0xF4 then (0x80, 0x8F)
  else (0x80, 0xBF)

/-- Takes a character off the front. -/
def utf8Step : List Nat → Utf8Step
  | [] => .incomplete
  | a :: rest =>
    let second (b : Nat) : Bool := (secondRange a).1 ≤ b && b ≤ (secondRange a).2
    if a < 0x80 then .char a rest
    else if 0xC2 ≤ a ∧ a ≤ 0xDF then
      match rest with
      | [] => .incomplete
      | b :: r => if isContinuation b then .char ((a - 0xC0) * 0x40 + (b - 0x80)) r else .invalid 1
    else if 0xE0 ≤ a ∧ a ≤ 0xEF then
      match rest with
      | [] => .incomplete
      | b :: r =>
        if !second b then .invalid 1
        else
          match r with
          | [] => .incomplete
          | c :: r =>
            if isContinuation c then
              .char ((a - 0xE0) * 0x1000 + (b - 0x80) * 0x40 + (c - 0x80)) r
            else .invalid 2
    else if 0xF0 ≤ a ∧ a ≤ 0xF4 then
      match rest with
      | [] => .incomplete
      | b :: r =>
        if !second b then .invalid 1
        else
          match r with
          | [] => .incomplete
          | c :: r =>
            if !isContinuation c then .invalid 2
            else
              match r with
              | [] => .incomplete
              | d :: r =>
                if isContinuation d then
                  .char ((a - 0xF0) * 0x40000 + (b - 0x80) * 0x1000 + (c - 0x80) * 0x40 +
                    (d - 0x80)) r
                else .invalid 3
    else .invalid 1

/-- A fault in a sequence of bytes: where it starts, and how many bytes it spans unless the sequence just
ends too early. -/
structure Utf8Fault where
  start : Nat
  count : Option Nat
  deriving DecidableEq, Repr

/-- The message of a fault. -/
def Utf8Fault.message (f : Utf8Fault) : String :=
  match f.count with
  | some n =>
    "invalid utf-8 sequence of " ++ Number.showNat n ++ " bytes from index " ++ Number.showNat f.start
  | none => "incomplete utf-8 byte sequence from index " ++ Number.showNat f.start

/-- Decodes bytes from a position on; `fuel` bounds the number of characters. -/
def decodeFrom : Nat → Nat → List Nat → Except Utf8Fault (List Char)
  | _, _, [] => .ok []
  | 0, _, _ => .ok []
  | fuel + 1, start, bs =>
    match utf8Step bs with
    | .char code rest =>
      (decodeFrom fuel (start + (bs.length - rest.length)) rest).map (Char.ofNat code :: ·)
    | .invalid n => .error { start, count := some n }
    | .incomplete => .error { start, count := none }

/-- Decodes bytes, or finds the first fault. -/
def decodeUtf8 (bs : List Nat) : Except Utf8Fault String :=
  (decodeFrom bs.length 0 bs).map String.ofList

/-- Decodes bytes with a replacement for each fault; `fuel` bounds the number of characters. -/
def decodeLossyFrom : Nat → List Nat → List Char
  | _, [] => []
  | 0, _ => []
  | fuel + 1, bs =>
    match utf8Step bs with
    | .char code rest => Char.ofNat code :: decodeLossyFrom fuel rest
    | .invalid n => '\ufffd' :: decodeLossyFrom fuel (bs.drop n)
    | .incomplete => ['\ufffd']

/-- Decodes bytes with a replacement for each fault. -/
def decodeLossy (bs : List Nat) : String := String.ofList (decodeLossyFrom bs.length bs)

end Text

end NamedLock
