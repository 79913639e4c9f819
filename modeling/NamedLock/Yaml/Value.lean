import NamedLock.Number.Decimal
import NamedLock.Text.Percent

/-!
# Value — what a YAML document holds

A plain scalar is a text that says by its look what it stands for: nothing, a truth value, an integer, a real or
itself. A real keeps the text in which it was written.
-/

namespace NamedLock

namespace Yaml

/-- A YAML value. -/
inductive Value
  | nothing
  | boolean (b : Bool)
  /-- A signed 64-bit integer. -/
  | integer (n : Int)
  | real (written : String)
  | text (s : String)
  | sequence (items : List Value)
  | mapping (entries : List (Value × Value))
  /-- A scalar that is not what its tag says. -/
  | faulty
  deriving BEq, Repr, Inhabited

namespace Value

/-! ## Plain scalars -/

/-- A signed 64-bit integer in some base: an optional sign and digits. -/
def readInteger? (base : Nat) (s : String) : Option Int :=
  let (negative, ds) := Number.splitSign s.toList
  let value : Int := if negative then -(Number.ofDigits base ds : Int) else Number.ofDigits base ds
  let areDigits := ds.all fun c => Text.isHexChar c && Number.digitValue c < base
  if ds ≠ [] ∧ areDigits ∧ Number.inSigned64 value then some value else none

/-- An integer with a mark of its base, or with a second sign. -/
def markedInteger? (cs : List Char) : Option Int :=
  match cs with
  | '0' :: 'x' :: ds => readInteger? 16 (String.ofList ds)
  | '0' :: 'o' :: ds => readInteger? 8 (String.ofList ds)
  | '+' :: ds => readInteger? 10 (String.ofList ds)
  | _ => none

/-- Words for what is beyond every number, and for what is none. -/
def wordsForReals : List String :=
  [".inf", ".Inf", ".INF", "+.inf", "+.Inf", "+.INF", "-.inf", "-.Inf", "-.INF", ".nan", ".NaN", ".NAN"]

/-- Whether a text is a real: one of the words, or a decimal fraction with a digit in it. -/
def isReal (s : String) : Bool :=
  wordsForReals.contains s || (s.toList.any Number.isDigit && (Number.readReal? s).isSome)

/-- What a plain scalar stands for. -/
def ofPlain (s : String) : Value :=
  match markedInteger? s.toList with
  | some n => .integer n
  | none =>
    if s ∈ ["", "~", "null"] then .nothing
    else if s = "true" then .boolean true
    else if s = "false" then .boolean false
    else
      match readInteger? 10 s with
      | some n => .integer n
      | none => if isReal s then .real s else .text s

/-! ## Tags -/

/-- The name space of the tags for the kinds of scalars. -/
def coreTags : String := "tag:yaml.org,2002:"

/-- What a plain scalar with a tag stands for. A tag of another kind makes it a text. -/
def ofTagged (space name s : String) : Value :=
  if space ≠ coreTags then .text s
  else
    match name with
    | "bool" => if s = "true" then .boolean true else if s = "false" then .boolean false else .faulty
    | "int" => ((readInteger? 10 s).map .integer).getD .faulty
    | "float" => if isReal s then .real s else .faulty
    | "null" => if s = "~" ∨ s = "null" then .nothing else .faulty
    | _ => .text s

/-! ## Mappings -/

/-- Pairs keys with values; what is faulty is no key. `key` is the key whose value comes next. -/
def pairUp (key : Option Value) : List Value → List (Value × Value)
  | [] => []
  | v :: vs =>
    match key, v with
    | none, .faulty => pairUp none vs
    | none, k => pairUp (some k) vs
    | some k, v => (k, v) :: pairUp none vs

/-- A mapping out of its keys and values by turns; no key may stand twice. -/
def ofPairs? (nodes : List Value) : Option Value :=
  let entries := pairUp none nodes
  if (entries.map (·.1)).eraseDups.length = entries.length then some (.mapping entries) else none

end Value

end Yaml

end NamedLock
