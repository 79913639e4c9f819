import NamedLock.Config.Error
import NamedLock.Config.Settings
import NamedLock.Config.Value
import NamedLock.Number.Shortest
import NamedLock.Text.Case
import NamedLock.Text.Quoted

/-!
# Reading — settings out of configuration values

Values are taken leniently: numbers and truth values read as texts, texts read as numbers and truth values.
A message names the value that was found, what was expected, the key and the origin.
-/

namespace NamedLock

namespace Config

/-- `true` or `false`. -/
def showBoolean (b : Bool) : String := if b then "true" else "false"

/-- How a message speaks of a value that cannot be converted. -/
def Scalar.describe : Scalar → String
  | .nothing => "unit value"
  | .boolean b => "boolean `" ++ showBoolean b ++ "`"
  | .integer n => "64-bit integer `" ++ Number.showInt n ++ "`"
  | .natural n => "64-bit unsigned integer `" ++ Number.showNat n ++ "`"
  | .real x => "floating point `" ++ Number.pointedLayout.write x ++ "`"
  | .text s => "string " ++ Text.quote s

/-- How a message speaks of a value that stands for a record. -/
def Scalar.describeInPlaceOfRecord : Scalar → String
  | .integer n => "integer `" ++ Number.showInt n ++ "`"
  | .natural n => "integer `" ++ Number.showNat n ++ "`"
  | s => s.describe

/-- How a message speaks of a value that cannot be converted. -/
def Value.describe : Value → String
  | .scalar s _ => s.describe
  | .array _ _ => "sequence"
  | .table _ _ => "map"

/-- An error about a value. -/
def unexpected (v : Value) (expected : String) : ConfigError :=
  .type v.describe expected none v.origin

/-- A text: numbers are written in full. -/
def readText : Value → Except ConfigError String
  | .scalar (.text s) _ => .ok s
  | .scalar (.boolean b) _ => .ok (showBoolean b)
  | .scalar (.integer n) _ => .ok (Number.showInt n)
  | .scalar (.natural n) _ => .ok (Number.showNat n)
  | .scalar (.real x) _ => .ok (Number.plainLayout.write x)
  | v => .error (unexpected v "a string")

/-- A text, or nothing where there is nothing. -/
def readOptionalText : Value → Except ConfigError (Option String)
  | .scalar .nothing _ => .ok none
  | v => (readText v).map some

/-- Words for true. -/
def wordsForTrue : List String := ["true", "on", "yes"]

/-- Words for false. -/
def wordsForFalse : List String := ["false", "off", "no"]

/-- A truth value: a number is true unless it is zero. -/
def readBoolean : Value → Except ConfigError Bool
  | .scalar (.boolean b) _ => .ok b
  | .scalar (.integer n) _ => .ok (n != 0)
  | .scalar (.natural n) _ => .ok (n != 0)
  | .scalar (.real x) _ => .ok (!x.isZero)
  | .scalar (.text s) o =>
    let small := Text.lower s
    if small = "1" ∨ small ∈ wordsForTrue then .ok true
    else if small = "0" ∨ small ∈ wordsForFalse then .ok false
    else .error (unexpected (.scalar (.text small) o) "a boolean")
  | v => .error (unexpected v "a boolean")

/-- The bound of unsigned 64-bit integers. -/
def wordBound : Nat := Number.pow2 64

/-- An unsigned 64-bit integer: a fraction is rounded, and cut off at the ends. -/
def readWord : Value → Except ConfigError Nat
  | .scalar (.natural n) _ => .ok n
  | .scalar (.integer n) o =>
    if n < 0 then
      .error (unexpected (.scalar (.integer n) o) "an unsigned 64 bit or less integer")
    else .ok n.toNat
  | .scalar (.real x) _ => .ok (x.roundSaturating wordBound)
  | .scalar (.boolean b) _ => .ok (if b then 1 else 0)
  | .scalar (.text s) o =>
    let small := Text.lower s
    if small ∈ wordsForTrue then .ok 1
    else if small ∈ wordsForFalse then .ok 0
    else
      match Number.readUnsigned? wordBound s with
      | some n => .ok n
      | none => .error (unexpected (.scalar (.text s) o) "an integer")
  | v => .error (unexpected v "an integer")

/-- An unsigned integer that fits its field. The error about one that does not names no origin. -/
def readUnsigned (w : Width) (v : Value) : Except ConfigError Nat :=
  match readWord v with
  | .error e => .error e
  | .ok n =>
    if n < w.bound then .ok n
    else
      .error (unexpected (.scalar (.natural n) none)
        ("an unsigned " ++ Number.showNat w.bits ++ " bit integer"))

/-- A record out of a table or an array; surplus items are passed over. -/
def readRecord {α : Type} (s : Shape ConfigError Value α) : Value → Except ConfigError α
  | .table es _ => s.ofEntries ConfigError.inside es
  | .array items _ =>
    s.ofItems (fun n => ConfigError.inside ("[" ++ Number.showNat n ++ "]")) items
  | .scalar v _ =>
    .error (.message
      ("invalid type: " ++ v.describeInPlaceOfRecord ++ ", expected struct " ++ s.name))

/-- The lenient ways to read a value. -/
def reading : Reading ConfigError Value where
  text := readText
  optionalText := readOptionalText
  boolean := readBoolean
  unsigned := readUnsigned
  record := readRecord

end Config

end NamedLock
