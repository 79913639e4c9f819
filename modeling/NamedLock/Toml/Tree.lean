import NamedLock.Keyed
import NamedLock.Toml.Value

/-!
# Tree — tables under construction

A document defines its tables piece by piece, and no table may be defined twice. A table remembers how it came
about: as the parent of a header, by dotted keys, or by a header of its own. A value, an inline table or an array
that is written out is closed and cannot be extended.
-/

namespace NamedLock

namespace Toml

/-- How a table came about. -/
inductive Mark
  /-- As a parent of a table with a header. -/
  | implied
  /-- By dotted keys. -/
  | dotted
  /-- By a header. -/
  | headed
  deriving DecidableEq, Repr

/-- A node of a tree: a closed value, a table, or an array of tables whose newest is open. -/
inductive Node
  | leaf (v : Value)
  | table (mark : Mark) (entries : List (String × Node))
  | tables (newest : List (String × Node)) (earlier : List (List (String × Node)))

/-- The entries of a table under construction. -/
abbrev Branch := Keyed String Node

/-- An action on a table: it sees how the table came about. -/
abbrev Action := Mark → Branch → Option Branch

/-- Which tables a walk may enter, and how it marks those that it creates. -/
structure Walk where
  enters : Mark → Bool
  creates : Mark

/-- Headers enter every table. -/
def headerWalk : Walk where
  enters _ := true
  creates := .implied

/-- Dotted keys enter only tables without a header. -/
def dottedWalk : Walk where
  enters m := m != .headed
  creates := .dotted

/-- Acts on the table at a path below a table. An array of tables stands for its newest table. -/
def actAt (w : Walk) (act : Action) : List String → Action
  | [], mark, b => act mark b
  | k :: ks, _, b =>
    match b.get? k with
    | none => (actAt w act ks w.creates []).map fun b' => b.set k (.table w.creates b')
    | some (.table mark es) =>
      if w.enters mark then (actAt w act ks mark es).map fun b' => b.set k (.table mark b')
      else none
    | some (.tables newest earlier) =>
      (actAt w act ks .headed newest).map fun b' => b.set k (.tables b' earlier)
    | some (.leaf _) => none

/-- Adds a value under a key that is free. `viaDots` says whether dotted keys led here: they end in a table of
their own, and a plain key does not. -/
def addLeaf (viaDots : Bool) (k : String) (v : Value) : Action := fun mark b =>
  if (mark == .dotted) != viaDots then none
  else if b.contains k then none
  else some (b.set k (.leaf v))

/-- Opens the table of a header. -/
def openTable (k : String) : Action := fun _ b =>
  match b.get? k with
  | none => some (b.set k (.table .headed []))
  | some (.table .implied es) => some (b.set k (.table .headed es))
  | _ => none

/-- Opens another table of an array of tables. -/
def openItem (k : String) : Action := fun _ b =>
  match b.get? k with
  | none => some (b.set k (.tables [] []))
  | some (.tables newest earlier) => some (b.set k (.tables [] (newest :: earlier)))
  | _ => none

/-- Adds a value at a dotted path below a table. -/
def addAt (path : List String) (k : String) (v : Value) : Action :=
  actAt dottedWalk (addLeaf (path != []) k v) path

mutual

/-- The finished value of a node. -/
def Node.toValue : Node → Value
  | .leaf v => v
  | .table _ es => .table (finished es)
  | .tables newest earlier => .array (finishedItems earlier [.table (finished newest)])

/-- The finished entries of a table. -/
def finished : List (String × Node) → List (String × Value)
  | [] => []
  | (k, n) :: es => (k, n.toValue) :: finished es

/-- The finished tables of an array, newest first, put before the later ones. -/
def finishedItems : List (List (String × Node)) → List Value → List Value
  | [], later => later
  | es :: earlier, later => finishedItems earlier (.table (finished es) :: later)

end

end Toml

end NamedLock
