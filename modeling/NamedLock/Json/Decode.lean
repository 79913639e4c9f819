import NamedLock.Config.Settings
import NamedLock.Json.Value
import NamedLock.Key

/-!
# Decode — settings and lock classes out of JSON values

Types are taken strictly: a text is a string, a number is an integer of the right size. The members of an object are
visited in the order of their names, and the first that does not fit decides the error.
-/

namespace NamedLock

namespace Json

/-- Why a JSON value does not fit. -/
inductive Mismatch
  | wrongType (found : Value) (expected : String)
  | wrongValue (found : Numeral) (expected : String)
  | tooManyItems (count : Nat)
  /-- An object that should name a variant has none or several members. -/
  | notOneMember
  | unknownVariant (name : String)

namespace Mismatch

/-- The message of a mismatch. -/
def message : Mismatch → String
  | wrongType found expected => "invalid type: " ++ found.describe ++ ", expected " ++ expected
  | wrongValue found expected => "invalid value: " ++ found.describe ++ ", expected " ++ expected
  | tooManyItems count =>
    "invalid length " ++ Number.showNat count ++ ", expected fewer elements in array"
  | notOneMember => "invalid value: map, expected map with a single key"
  | unknownVariant name =>
    "unknown variant `" ++ name ++ "`, expected `migrations` or `dinosaurs`"

end Mismatch

/-- A text. -/
def readText : Value → Except Mismatch String
  | .text s => .ok s
  | v => .error (.wrongType v "a string")

/-- A text, or nothing for null. -/
def readOptionalText : Value → Except Mismatch (Option String)
  | .null => .ok none
  | v => (readText v).map some

/-- A truth value. -/
def readBoolean : Value → Except Mismatch Bool
  | .boolean b => .ok b
  | v => .error (.wrongType v "a boolean")

/-- The name of an unsigned integer of this width. -/
def widthName (w : Config.Width) : String := "u" ++ Number.showNat w.bits

/-- An unsigned integer. -/
def readUnsigned (w : Config.Width) : Value → Except Mismatch Nat
  | .number (.natural n) =>
    if n < w.bound then .ok n else .error (.wrongValue (.natural n) (widthName w))
  | .number (.negative n) => .error (.wrongValue (.negative n) (widthName w))
  | v => .error (.wrongType v (widthName w))

/-- A record out of an object or an array. -/
def readRecord {α : Type} (s : Config.Shape Mismatch Value α) : Value → Except Mismatch α
  | .object members => s.ofEntries (fun _ e => e) (sortedMembers members)
  | .array items =>
    match s.ofItems (fun _ e => e) items with
    | .error e => .error e
    | .ok a => if items.length ≤ s.fields.length then .ok a else .error (.tooManyItems items.length)
  | v => .error (.wrongType v ("struct " ++ s.name))

/-- The strict ways to read a value. -/
def reading : Config.Reading Mismatch Value where
  text := readText
  optionalText := readOptionalText
  boolean := readBoolean
  unsigned := readUnsigned
  record := readRecord

/-- A lock class named by a text. -/
def readVariant (name : String) : Except Mismatch LockClass :=
  match LockClass.ofLabel? name with
  | some c => .ok c
  | none => .error (.unknownVariant name)

/-- A lock class: its label, or an object with the label as its one name and null as its value. -/
def readLockClass : Value → Except Mismatch LockClass
  | .text s => readVariant s
  | .object members =>
    match sortedMembers members with
    | [(name, v)] =>
      match readVariant name, v with
      | .ok c, .null => .ok c
      | .ok _, v => .error (.wrongType v "unit")
      | .error e, _ => .error e
    | _ => .error .notOneMember
  | v => .error (.wrongType v "string or map")

end Json

end NamedLock
