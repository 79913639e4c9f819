import NamedLock.Config.Path
import NamedLock.Config.Value
import NamedLock.Keyed

/-!
# Layers — laying configurations over each other

A layer is a list of entries, each put at the place that its key names. A table is laid over a table entry by entry;
any other value replaces what was there. The way to a place is made on demand: what is not a table or an array on
the way is replaced by an empty one.
-/

namespace NamedLock

namespace Config

/-- The entries of a table; any other value counts as an empty table. -/
def Value.entries : Value → Keyed String Value
  | .table es _ => es
  | _ => []

/-- The origin of a table; any other value is replaced by a table without one. -/
def Value.tableOrigin : Value → Origin
  | .table _ o => o
  | _ => none

/-- The items of an array; any other value counts as an empty array. -/
def Value.items : Value → List Value
  | .array vs _ => vs
  | _ => []

/-- The origin of an array; any other value is replaced by an array without one. -/
def Value.arrayOrigin : Value → Origin
  | .array _ o => o
  | _ => none

/-- The value under a key, or nothing. -/
def entryAt (es : Keyed String Value) (k : String) : Value := (es.get? k).getD .nothing

mutual

/-- What remains of `present` when `incoming` is laid over it. -/
def overlay (present : Value) : Value → Value
  | .table es _ => .table (overlayEntries present.entries es) present.tableOrigin
  | v => v

/-- Lays entries over the entries of a table. -/
def overlayEntries (present : Keyed String Value) : List (String × Value) → Keyed String Value
  | [] => present
  | (k, v) :: es => overlayEntries (present.set k (overlay (entryAt present k) v)) es

end

/-- Makes room for a position: the array, filled up behind or in front, and the position from its start. -/
def reach (items : List Value) (index : Int) : List Value × Nat :=
  if 0 ≤ index then
    let n := index.toNat
    (items ++ List.replicate (n + 1 - items.length) .nothing, n)
  else
    let back := (-index).toNat
    (List.replicate (back - items.length) .nothing ++ items, items.length - back)

/-- Lays a value over the place that a path names. -/
def place (incoming : Value) : Path → Value → Value
  | [], present => overlay present incoming
  | .child k :: steps, present =>
    let es := present.entries
    .table (es.set k (place incoming steps (entryAt es k))) present.tableOrigin
  | .subscript index :: steps, present =>
    let (items, n) := reach present.items index
    .array (items.set n (place incoming steps (items.getD n .nothing))) present.arrayOrigin

/-- A layer: values and the texts that name their places. -/
abbrev Layer := List (String × Value)

/-- Lays a layer over a configuration. -/
def applyLayer (present : Value) (layer : Layer) : Value :=
  layer.foldl (fun v e => place e.2 (Path.ofText e.1) v) present

/-- Lays layers over an empty configuration, first layer lowest. -/
def applyLayers (layers : List Layer) : Value := layers.foldl applyLayer .emptyTable

end Config

end NamedLock
