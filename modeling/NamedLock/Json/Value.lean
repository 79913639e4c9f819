import NamedLock.Number.Shortest
import NamedLock.Number.Decimal
import NamedLock.Text.Quoted

/-!
# Value — JSON values

Numbers come in three kinds: integers from zero up, negative integers, and all others. `describe` is how a message
speaks of a value that it did not expect.
-/

namespace NamedLock

namespace Json

/-- A number as it was written. -/
inductive Numeral
  /-- An unsigned 64-bit integer. -/
  | natural (n : Nat)
  /-- A negative signed 64-bit integer. -/
  | negative (n : Int)
  | real (x : Binary64)
  deriving DecidableEq, Repr

/-- A JSON value. The members of an object stand in the order in which they were written. -/
inductive Value
  | null
  | boolean (b : Bool)
  | number (n : Numeral)
  | text (s : String)
  | array (items : List Value)
  | object (members : List (String × Value))
  deriving Repr, Inhabited

/-- How a message speaks of a number. -/
def Numeral.describe : Numeral → String
  | natural n => "integer `" ++ Number.showNat n ++ "`"
  | negative n => "integer `" ++ Number.showInt n ++ "`"
  | real x => "floating point `" ++ Number.exchangeLayout.write x ++ "`"

/-- How a message speaks of a value. -/
def Value.describe : Value → String
  | null => "null"
  | boolean b => "boolean `" ++ (if b then "true" else "false") ++ "`"
  | number n => n.describe
  | text s => "string " ++ Text.quote s
  | array _ => "sequence"
  | object _ => "map"

/-- The value of the last member with this name. -/
def member? (members : List (String × Value)) (name : String) : Option Value :=
  (members.reverse.find? (·.1 = name)).map (·.2)

/-- The members of an object by name, each name once: a later member replaces an earlier one. -/
def sortedMembers (members : List (String × Value)) : List (String × Value) :=
  let names := (members.map (·.1)).eraseDups.mergeSort fun a b => decide (a ≤ b)
  names.filterMap fun name => (member? members name).map fun v => (name, v)

end Json

end NamedLock
