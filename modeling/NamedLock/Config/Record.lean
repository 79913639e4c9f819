import NamedLock.Number.Power

/-!
# Record — reading a record out of named or positional values

A record has a default and fields, each with a name and a way to store a value in it. Values come by name, as
the entries of a table, or by position, as the items of an array. A field that gets no value keeps its default,
and a name that is no field is passed over.
-/

namespace NamedLock

namespace Config

/-- A field of a record `α` that is stored from a value of type `β`. -/
structure Field (ε β α : Type) where
  name : String
  store : β → α → Except ε α

/-- The shape of a record. -/
structure Shape (ε β α : Type) where
  name : String
  base : α
  fields : List (Field ε β α)

namespace Shape

variable {ε β α : Type}

/-- The field with this name. -/
def field? (s : Shape ε β α) (name : String) : Option (Field ε β α) :=
  s.fields.find? (·.name = name)

/-- Stores one entry; `inField` adds the name to an error. -/
def storeEntry (s : Shape ε β α) (inField : String → ε → ε) (entry : String × β) (a : α) :
    Except ε α :=
  match s.field? entry.1 with
  | some f => (f.store entry.2 a).mapError (inField entry.1)
  | none => .ok a

/-- Stores entries one after the other. -/
def storeEntries (s : Shape ε β α) (inField : String → ε → ε) :
    List (String × β) → α → Except ε α
  | [], a => .ok a
  | entry :: entries, a =>
    match s.storeEntry inField entry a with
    | .ok a => storeEntries s inField entries a
    | .error e => .error e

/-- The record with these entries. -/
def ofEntries (s : Shape ε β α) (inField : String → ε → ε) (entries : List (String × β)) :
    Except ε α :=
  s.storeEntries inField entries s.base

/-- Stores items in fields, first item in first field; `inItem` adds the position to an error. -/
def storeItems (inItem : Nat → ε → ε) : Nat → List (Field ε β α) → List β → α → Except ε α
  | position, f :: fs, b :: bs, a =>
    match (f.store b a).mapError (inItem position) with
    | .ok a => storeItems inItem (position + 1) fs bs a
    | .error e => .error e
  | _, _, _, a => .ok a

/-- The record with these items; surplus items are passed over. -/
def ofItems (s : Shape ε β α) (inItem : Nat → ε → ε) (items : List β) : Except ε α :=
  storeItems inItem 0 s.fields items s.base

end Shape

/-! ## Values of fields -/

/-- The sizes of unsigned integers. -/
inductive Width
  | bits16
  | bits32
  | bits64
  deriving DecidableEq, Repr

/-- The number of bits. -/
def Width.bits : Width → Nat
  | bits16 => 16
  | bits32 => 32
  | bits64 => 64

/-- The least number that does not fit. -/
def Width.bound (w : Width) : Nat := Number.pow2 w.bits

/-- The ways to read a value of type `β`. -/
structure Reading (ε β : Type) where
  text : β → Except ε String
  /-- A text, or nothing for an empty value. -/
  optionalText : β → Except ε (Option String)
  boolean : β → Except ε Bool
  /-- A number below the bound of the width. -/
  unsigned : Width → β → Except ε Nat
  /-- A record inside a record. -/
  record : {α : Type} → Shape ε β α → β → Except ε α

end Config

end NamedLock
