import NamedLock.Number.Binary64

/-!
# Value — what a TOML document holds

Dates and times are kept as their normalised text.
-/

namespace NamedLock

namespace Toml

/-- A TOML value. -/
inductive Value
  | text (s : String)
  /-- A signed 64-bit integer. -/
  | integer (n : Int)
  | real (x : Binary64)
  | boolean (b : Bool)
  /-- A date, a time or both. -/
  | moment (s : String)
  | array (items : List Value)
  | table (entries : List (String × Value))
  deriving Repr, Inhabited

end Toml

end NamedLock
