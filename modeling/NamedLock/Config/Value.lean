import NamedLock.Ini.Reader
import NamedLock.Json.Value
import NamedLock.Keyed
import NamedLock.Ron.Reader
import NamedLock.Toml.Value
import NamedLock.Yaml.Value

/-!
# Value — configuration values

Values of every format become values of one kind. Each remembers where it came from, so that a message can tell.
-/

namespace NamedLock

namespace Config

/-- Where a value came from, when it came from somewhere. -/
abbrev Origin := Option String

/-- A value without parts. -/
inductive Scalar
  | nothing
  | boolean (b : Bool)
  /-- A signed 64-bit integer. -/
  | integer (n : Int)
  /-- An unsigned 64-bit integer. -/
  | natural (n : Nat)
  | real (x : Binary64)
  | text (s : String)
  deriving DecidableEq, Repr, Inhabited

/-- A configuration value. -/
inductive Value
  | scalar (s : Scalar) (origin : Origin)
  | array (items : List Value) (origin : Origin)
  | table (entries : List (String × Value)) (origin : Origin)
  deriving Repr, Inhabited

namespace Value

/-- The value of a place that was never filled. -/
def nothing : Value := .scalar .nothing none

/-- An empty table. -/
def emptyTable : Value := .table [] none

/-- Where a value came from. -/
def origin : Value → Origin
  | scalar _ o => o
  | array _ o => o
  | table _ o => o

/-! ## From other formats -/

mutual

/-- A value out of a TOML document. -/
def ofToml (o : Origin) : Toml.Value → Value
  | .text s => .scalar (.text s) o
  | .integer n => .scalar (.integer n) o
  | .real x => .scalar (.real x) o
  | .boolean b => .scalar (.boolean b) o
  | .moment s => .scalar (.text s) o
  | .array items => .array (itemsOfToml o items) o
  | .table es => .table (entriesOfToml o es) o

/-- The items of a TOML array. -/
def itemsOfToml (o : Origin) : List Toml.Value → List Value
  | [] => []
  | v :: vs => ofToml o v :: itemsOfToml o vs

/-- The entries of a TOML table. -/
def entriesOfToml (o : Origin) : List (String × Toml.Value) → List (String × Value)
  | [] => []
  | (k, v) :: es => (k, ofToml o v) :: entriesOfToml o es

end

/-- A number out of a JSON text: an integer that does not fit 64 bits with its sign becomes a real. -/
def ofNumeral : Json.Numeral → Scalar
  | .natural n => if n < Number.pow2 63 then .integer n else .real (Binary64.ofNat n)
  | .negative n => .integer n
  | .real x => .real x

mutual

/-- A value out of a JSON text. -/
def ofJson (o : Origin) : Json.Value → Value
  | .null => .scalar .nothing o
  | .boolean b => .scalar (.boolean b) o
  | .number n => .scalar (ofNumeral n) o
  | .text s => .scalar (.text s) o
  | .array items => .array (itemsOfJson o items) o
  | .object ms => .table (entriesOfJson o ms) o

/-- The items of a JSON array. -/
def itemsOfJson (o : Origin) : List Json.Value → List Value
  | [] => []
  | v :: vs => ofJson o v :: itemsOfJson o vs

/-- The members of a JSON object. -/
def entriesOfJson (o : Origin) : List (String × Json.Value) → List (String × Value)
  | [] => []
  | (k, v) :: ms => (k, ofJson o v) :: entriesOfJson o ms

end

/-- The entries of an INI text: those without a section stand beside the sections. What is written last counts. -/
def entriesOfIni (o : Origin) (ss : List Ini.Section) : Keyed String Value :=
  let add (es : Keyed String Value) (e : String × String) := es.set e.1 (.scalar (.text e.2) o)
  ss.foldl (fun es s =>
    match s.name with
    | none => s.entries.foldl add es
    | some name => es.set name (.table (s.entries.foldl add []) o)) []

/-- The text of a key in a YAML mapping. -/
def keyOfYaml? : Yaml.Value → Option String
  | .text s => some s
  | .integer n => some (Number.showInt n)
  | .boolean b => some (if b then "true" else "false")
  | .real s => some s
  | _ => none

mutual

/-- A value out of a YAML document; `none` when a key has no text, or when a real is a word. -/
def ofYaml? (o : Origin) : Yaml.Value → Option Value
  | .nothing => some (.scalar .nothing o)
  | .faulty => some (.scalar .nothing o)
  | .boolean b => some (.scalar (.boolean b) o)
  | .integer n => some (.scalar (.integer n) o)
  | .real s => (Number.readReal? s).map fun x => .scalar (.real x) o
  | .text s => some (.scalar (.text s) o)
  | .sequence vs => (itemsOfYaml? o vs).map (.array · o)
  | .mapping es => (entriesOfYaml? o [] es).map (.table · o)

/-- The items of a YAML sequence. -/
def itemsOfYaml? (o : Origin) : List Yaml.Value → Option (List Value)
  | [] => some []
  | v :: vs => do some ((← ofYaml? o v) :: (← itemsOfYaml? o vs))

/-- The entries of a YAML mapping, behind those `done`. -/
def entriesOfYaml? (o : Origin) (done : Keyed String Value) :
    List (Yaml.Value × Yaml.Value) → Option (Keyed String Value)
  | [] => some done
  | (k, v) :: es => do entriesOfYaml? o (done.set (← keyOfYaml? k) (← ofYaml? o v)) es

end

mutual

/-- A value out of a RON text; `none` when a key is no text. -/
def ofRon? (o : Origin) : Ron.Value → Option Value
  | .nothing => some (.scalar .nothing o)
  | .boolean b => some (.scalar (.boolean b) o)
  | .natural n => some (.scalar (.natural n) o)
  | .integer n => some (.scalar (.integer n) o)
  | .real x => some (.scalar (.real x) o)
  | .text s => some (.scalar (.text s) o)
  | .sequence vs => (itemsOfRon? o vs).map (.array · o)
  | .mapping es => (entriesOfRon? o [] es).map (.table · o)

/-- The items of a RON sequence. -/
def itemsOfRon? (o : Origin) : List Ron.Value → Option (List Value)
  | [] => some []
  | v :: vs => do some ((← ofRon? o v) :: (← itemsOfRon? o vs))

/-- The entries of a RON mapping, behind those `done`. -/
def entriesOfRon? (o : Origin) (done : Keyed String Value) :
    List (Ron.Value × Ron.Value) → Option (Keyed String Value)
  | [] => some done
  | (.text k, v) :: es => do entriesOfRon? o (done.set k (← ofRon? o v)) es
  | _ :: _ => none

end

end Value

end Config

end NamedLock
