import NamedLock.Config.Layers

/-!
# Merging — layers as one list of entries

Laying a list of entries over a table can be followed key by key. Scalars replace each other, so that the last one
counts; tables are merged, so that their entries count as if they had been written in one table. Layers whose keys name
places of one or two steps come to one list of entries, the entries of the lowest layer first.
-/

namespace NamedLock

namespace Config

/-! ## What a list of entries gives for a key -/

section Given

variable {α β : Type} {es : List (String × α)} {k : String} {a : α}

/-- The values under a key, in order. -/
def given (es : List (String × α)) (k : String) : List α := (es.filter (·.1 = k)).map (·.2)

@[simp] theorem given_nil (k : String) : given ([] : List (String × α)) k = [] := rfl

theorem given_cons (e : String × α) (es : List (String × α)) (k : String) :
    given (e :: es) k = if e.1 = k then e.2 :: given es k else given es k := by
  unfold given
  by_cases h : e.1 = k <;> simp [h]

@[simp] theorem given_append (es es' : List (String × α)) (k : String) :
    given (es ++ es') k = given es k ++ given es' k := by
  simp [given]

theorem mem_given : a ∈ given es k ↔ (k, a) ∈ es := by
  simp [given]

theorem given_map (f : α → β) (es : List (String × α)) (k : String) :
    given (es.map fun e => (e.1, f e.2)) k = (given es k).map f := by
  induction es with
  | nil => rfl
  | cons e es ih =>
    rw [List.map_cons, given_cons, given_cons, ih]
    by_cases h : e.1 = k <;> simp [h]

/-- Under a key that no entry has, nothing is given. -/
theorem given_eq_nil (h : k ∉ Keyed.keys es) : given es k = [] := by
  rw [List.eq_nil_iff_forall_not_mem]
  intro a ha
  exact h (List.mem_map_of_mem (mem_given.1 ha))

/-- With different keys, a key gives what is found under it. -/
theorem given_of_nodup (h : (Keyed.keys es).Nodup) (k : String) : given es k = (Keyed.get? es k).toList := by
  induction es with
  | nil => rfl
  | cons e es ih =>
    obtain ⟨k', a⟩ := e
    obtain ⟨hnot, hrest⟩ := List.nodup_cons.1 h
    rw [given_cons]
    by_cases hk : k' = k
    · subst hk
      simp [given_eq_nil hnot, Keyed.get?]
    · simp [hk, ih hrest, Keyed.get?]

end Given

/-! ## Kinds of values -/

namespace Value

/-- A value without parts. -/
def IsScalar (v : Value) : Prop := ∃ s o, v = .scalar s o

def IsTable (v : Value) : Prop := ∃ es o, v = .table es o

variable {v : Value}

/-- A scalar replaces what was there. -/
theorem IsScalar.overlay (h : v.IsScalar) (present : Value) : Config.overlay present v = v := by
  obtain ⟨s, o, rfl⟩ := h
  rfl

/-- A table is merged into what was there. -/
theorem IsTable.overlay (h : v.IsTable) (present : Value) :
    Config.overlay present v = .table (overlayEntries present.entries v.entries) present.tableOrigin := by
  obtain ⟨es, o, rfl⟩ := h
  rfl

end Value

/-! ## Laying entries over entries -/

variable {present es : List (String × Value)} {k : String}

theorem overlayEntries_append (present es es' : List (String × Value)) :
    overlayEntries present (es ++ es') = overlayEntries (overlayEntries present es) es' := by
  induction es generalizing present with
  | nil => rfl
  | cons e es ih =>
    simp only [List.cons_append, overlayEntries]
    exact ih _

theorem nodup_overlayEntries (h : (Keyed.keys present).Nodup) (es : List (String × Value)) :
    (Keyed.keys (overlayEntries present es)).Nodup := by
  induction es generalizing present with
  | nil => exact h
  | cons e es ih =>
    simp only [overlayEntries]
    exact ih (Keyed.nodup_keys_set h _ _)

/-- Lays a value over what may be there. -/
def overlayAt (present : Option Value) (v : Value) : Option Value := some (overlay (present.getD .nothing) v)

/-- What is found under a key comes of the values given for it, laid over each other in order. -/
theorem get?_overlayEntries (present es : List (String × Value)) (k : String) :
    Keyed.get? (overlayEntries present es) k = (given es k).foldl overlayAt (Keyed.get? present k) := by
  induction es generalizing present with
  | nil => rfl
  | cons e es ih =>
    obtain ⟨k', v⟩ := e
    simp only [overlayEntries]
    -- the first entry changes what is found under its own key, and nothing else
    rw [ih, given_cons, Keyed.get?_set]
    by_cases hk : k' = k
    · subst hk
      simp [overlayAt, entryAt]
    · simp [hk, Ne.symm hk]

/-- Of scalars the last one counts. -/
theorem foldl_overlayAt_scalars (vs : List Value) (h : ∀ v ∈ vs, v.IsScalar) (present : Option Value) :
    vs.foldl overlayAt present = vs.getLast?.or present := by
  induction vs generalizing present with
  | nil => rfl
  | cons v vs ih =>
    obtain ⟨hv, hvs⟩ := List.forall_mem_cons.1 h
    calc
      (v :: vs).foldl overlayAt present = vs.foldl overlayAt (some v) := by
        rw [List.foldl_cons, overlayAt, hv.overlay]
      _ = vs.getLast?.or (some v) := ih hvs _
      _ = (v :: vs).getLast?.or present := by
        rw [List.getLast?_cons]
        cases vs.getLast? <;> rfl

theorem get?_overlayEntries_scalars (h : ∀ v ∈ given es k, v.IsScalar) :
    Keyed.get? (overlayEntries present es) k = (given es k).getLast?.or (Keyed.get? present k) := by
  rw [get?_overlayEntries, foldl_overlayAt_scalars _ h]

/-- Tables come to one table with the entries of all. -/
theorem foldl_overlayAt_tables (vs : List Value) (h : ∀ v ∈ vs, v.IsTable) (present : Option Value) :
    ((vs.foldl overlayAt present).getD .nothing).entries =
      overlayEntries (present.getD .nothing).entries (vs.flatMap Value.entries) := by
  induction vs generalizing present with
  | nil => rfl
  | cons v vs ih =>
    obtain ⟨hv, hvs⟩ := List.forall_mem_cons.1 h
    rw [List.foldl_cons, ih hvs, overlayAt, hv.overlay, List.flatMap_cons, overlayEntries_append]
    rfl

theorem entries_overlayEntries (h : ∀ v ∈ given es k, v.IsTable) :
    (entryAt (overlayEntries present es) k).entries =
      overlayEntries (entryAt present k).entries ((given es k).flatMap Value.entries) := by
  rw [entryAt, get?_overlayEntries, foldl_overlayAt_tables _ h]
  rfl

/-- Where only tables are given, there is a table or nothing. -/
theorem isTable_of_overlayEntries (h : ∀ v ∈ given es k, v.IsTable) (hp : ∀ v, Keyed.get? present k = some v → v.IsTable)
    {v : Value} (hv : Keyed.get? (overlayEntries present es) k = some v) : v.IsTable := by
  rw [get?_overlayEntries] at hv
  generalize Keyed.get? present k = at? at hp hv
  generalize given es k = vs at h hv
  induction vs generalizing at? with
  | nil => exact hp v hv
  | cons w vs ih =>
    obtain ⟨hw, hvs⟩ := List.forall_mem_cons.1 h
    refine ih (overlayAt at? w) ?_ hvs hv
    intro v' hv'
    rw [overlayAt, hw.overlay] at hv'
    cases hv'
    exact ⟨_, _, rfl⟩

/-! ## Layers as entries of the root -/

/-- A key that names a place of one or two steps by name. -/
inductive Shallow (key : String) : Prop
  | root (k : String) (h : Path.ofText key = [.child k])
  | inSection (s k : String) (h : Path.ofText key = [.child s, .child k])

/-- An entry of a layer as an entry of the root: what is put into a section comes as a section of its own. -/
def rooted (e : String × Value) : String × Value :=
  match Path.ofText e.1 with
  | [.child k] => (k, e.2)
  | [.child s, .child k] => (s, .table [(k, e.2)] none)
  | _ => e

/-- Putting a value at a shallow place comes to laying one entry over the root. -/
theorem place_shallow {e : String × Value} (h : Shallow e.1) (es : List (String × Value)) (o : Origin) :
    place e.2 (Path.ofText e.1) (.table es o) = .table (overlayEntries es [rooted e]) o := by
  cases h with
  | root k h =>
    rw [rooted, h]
    simp [place, overlayEntries, Value.entries, Value.tableOrigin]
  | inSection s k h =>
    rw [rooted, h]
    simp [place, overlay, overlayEntries, Value.entries, Value.tableOrigin]

theorem applyLayer_shallow {layer : Layer} (h : ∀ e ∈ layer, Shallow e.1) (es : List (String × Value)) (o : Origin) :
    applyLayer (.table es o) layer = .table (overlayEntries es (layer.map rooted)) o := by
  unfold applyLayer
  induction layer generalizing es with
  | nil => rfl
  | cons e layer ih =>
    obtain ⟨he, hlayer⟩ := List.forall_mem_cons.1 h
    rw [List.foldl_cons, place_shallow he, ih hlayer, ← overlayEntries_append]
    rfl

/-- Layers with shallow keys come to one list of entries. -/
theorem applyLayers_shallow {layers : List Layer} (h : ∀ layer ∈ layers, ∀ e ∈ layer, Shallow e.1) :
    applyLayers layers = .table (overlayEntries [] (layers.flatMap (·.map rooted))) none := by
  -- from any table, since each layer leaves one for the next
  have hfold : ∀ (layers : List Layer) (es : List (String × Value)), (∀ layer ∈ layers, ∀ e ∈ layer, Shallow e.1) →
      layers.foldl applyLayer (.table es none) =
        .table (overlayEntries es (layers.flatMap (·.map rooted))) none := by
    intro layers
    induction layers with
    | nil => intro es _; rfl
    | cons layer layers ih =>
      intro es h
      obtain ⟨hlayer, hlayers⟩ := List.forall_mem_cons.1 h
      rw [List.foldl_cons, applyLayer_shallow hlayer, ih _ hlayers, List.flatMap_cons, overlayEntries_append]
  exact hfold layers [] h

end Config

end NamedLock
