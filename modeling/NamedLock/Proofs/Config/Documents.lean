import NamedLock.Proofs.Config.Supply

/-!
# Documents — what a file says about settings

A document says what a setting is by its entries and by those of its sections; the value must have the type of the
setting and lie in its range. The layer of a document that keeps to this supplies just what the document says.
-/

namespace NamedLock

/-! ## Values of documents -/

namespace Toml.Value

/-- Whether a value is a table. -/
def isTable : Toml.Value → Bool
  | .table _ => true
  | _ => false

/-- The entries of a table; any other value counts as an empty table. -/
def entries : Toml.Value → List (String × Toml.Value)
  | .table es => es
  | _ => []

mutual

/-- Whether two values are the same. -/
def same : Toml.Value → Toml.Value → Bool
  | .text s, .text t => s == t
  | .integer m, .integer n => m == n
  | .real x, .real y => x == y
  | .boolean a, .boolean b => a == b
  | .moment s, .moment t => s == t
  | .array vs, .array ws => sameItems vs ws
  | .table es, .table fs => sameEntries es fs
  | _, _ => false

def sameItems : List Toml.Value → List Toml.Value → Bool
  | [], [] => true
  | v :: vs, w :: ws => same v w && sameItems vs ws
  | _, _ => false

def sameEntries : List (String × Toml.Value) → List (String × Toml.Value) → Bool
  | [], [] => true
  | (k, v) :: es, (l, w) :: fs => k == l && same v w && sameEntries es fs
  | _, _ => false

end

mutual

theorem same_iff (v w : Toml.Value) : same v w = true ↔ v = w := by
  cases v <;> cases w <;> simp [same]
  case array.array vs ws => exact sameItems_iff vs ws
  case table.table es fs => exact sameEntries_iff es fs

theorem sameItems_iff (vs ws : List Toml.Value) : sameItems vs ws = true ↔ vs = ws := by
  cases vs with
  | nil => cases ws <;> simp [sameItems]
  | cons v vs =>
    cases ws with
    | nil => simp [sameItems]
    | cons w ws => simp [sameItems, same_iff v w, sameItems_iff vs ws]

theorem sameEntries_iff (es fs : List (String × Toml.Value)) : sameEntries es fs = true ↔ es = fs := by
  cases es with
  | nil => cases fs <;> simp [sameEntries]
  | cons e es =>
    obtain ⟨k, v⟩ := e
    cases fs with
    | nil => simp [sameEntries]
    | cons f fs =>
      obtain ⟨l, w⟩ := f
      simp [sameEntries, same_iff v w, sameEntries_iff es fs]

end

instance : DecidableEq Toml.Value := fun v w => decidable_of_iff (same v w = true) (same_iff v w)

end Toml.Value

namespace Config

/-! ## What a document says -/

/-- The datum that a value of a document is, when it has the type of the setting and lies in its range. -/
def Kind.ofToml? : Kind → Toml.Value → Option Datum
  | text, .text s => some (.text s)
  | optionalText, .text s => some (.text s)
  | truth, .boolean b => some (.truth b)
  | number w, .integer n => if 0 ≤ n ∧ n < w.bound then some (.number n.toNat) else none
  | _, _ => none

/-- What a document says about a setting. -/
def Setting.inDocument (f : Setting) (es : List (String × Toml.Value)) : List Datum :=
  (f.givenIn Toml.Value.entries es).filterMap f.kind.ofToml?

/-- A document with plain keys, whose sections are tables, and whose settings have their types and ranges. What else
it holds does not matter. -/
structure Proper (es : List (String × Toml.Value)) : Prop where
  plain : ∀ e ∈ es, Plain e.1
  sections : ∀ k ∈ sectionNames, ∀ v ∈ given es k, v.isTable = true
  settings : ∀ f : Setting, ∀ v ∈ f.givenIn Toml.Value.entries es, (f.kind.ofToml? v).isSome = true

instance (es : List (String × Toml.Value)) : Decidable (Proper es) :=
  decidable_of_iff ((∀ e ∈ es, Plain e.1) ∧ (∀ k ∈ sectionNames, ∀ v ∈ given es k, v.isTable = true) ∧
      ∀ f ∈ Setting.all, ∀ v ∈ f.givenIn Toml.Value.entries es, (f.kind.ofToml? v).isSome = true)
    ⟨fun h => ⟨h.1, h.2.1, fun f => h.2.2 f f.mem_all⟩, fun h => ⟨h.plain, h.sections, fun f _ => h.settings f⟩⟩

section Documents

variable {es : List (String × Toml.Value)} {o : Origin} {v : Toml.Value} {d : Datum}

/-- A value of the right type is a scalar that reads as itself. -/
theorem Kind.read_ofToml {k : Kind} (h : k.ofToml? v = some d) :
    (Value.ofToml o v).IsScalar ∧ k.read (Value.ofToml o v) = .ok d := by
  cases k <;> cases v <;> simp only [Kind.ofToml?, reduceCtorEq, Option.some.injEq] at h
  case text.text s =>
    subst h
    exact ⟨⟨_, _, rfl⟩, rfl⟩
  case optionalText.text s =>
    subst h
    exact ⟨⟨_, _, rfl⟩, rfl⟩
  case truth.boolean b =>
    subst h
    exact ⟨⟨_, _, rfl⟩, rfl⟩
  case number.integer w n =>
    split_ifs at h with hn
    cases h
    refine ⟨⟨_, _, rfl⟩, ?_⟩
    have hword : readWord (Value.ofToml o (.integer n)) = .ok n.toNat := by
      simp [Value.ofToml, readWord, hn.1]
    have hfits : n.toNat < w.bound := by omega
    simp [Kind.read, readUnsigned, hword, hfits, Except.map]

theorem entriesOfToml_eq_map (es : List (String × Toml.Value)) :
    Value.entriesOfToml o es = es.map fun e => (e.1, Value.ofToml o e.2) := by
  induction es with
  | nil => rfl
  | cons e es ih => rw [Value.entriesOfToml, ih, List.map_cons]

theorem given_entriesOfToml (es : List (String × Toml.Value)) (k : String) :
    given (Value.entriesOfToml o es) k = (given es k).map (Value.ofToml o) := by
  rw [entriesOfToml_eq_map, given_map]

/-- What is given in a document is given by its layer. -/
theorem givenIn_entriesOfToml (f : Setting) (es : List (String × Toml.Value)) :
    f.givenIn Value.entries (Value.entriesOfToml o es) =
      (f.givenIn Toml.Value.entries es).map (Value.ofToml o) := by
  have hentries : ∀ v : Toml.Value, (Value.ofToml o v).entries = Value.entriesOfToml o v.entries := by
    intro v
    cases v <;> rfl
  have hsection : ∀ vs : List Toml.Value,
      (vs.map (Value.ofToml o)).flatMap Value.entries = Value.entriesOfToml o (vs.flatMap Toml.Value.entries) := by
    intro vs
    induction vs with
    | nil => rfl
    | cons v vs ih =>
      rw [List.map_cons, List.flatMap_cons, ih, hentries]
      simp [entriesOfToml_eq_map]
  unfold Setting.givenIn
  cases f.section? with
  | none => exact given_entriesOfToml es _
  | some k =>
    calc
      given ((given (Value.entriesOfToml o es) k).flatMap Value.entries) f.name
        = given (Value.entriesOfToml o ((given es k).flatMap Toml.Value.entries)) f.name := by
          rw [given_entriesOfToml, hsection]
      _ = (given ((given es k).flatMap Toml.Value.entries) f.name).map (Value.ofToml o) := given_entriesOfToml _ _

/-- A proper document supplies what it says. -/
theorem Proper.supplies (h : Proper es) (o : Origin) : Supplies (Value.entriesOfToml o es) (·.inDocument es) := by
  have hrooted : (Value.entriesOfToml o es).map rooted = Value.entriesOfToml o es := by
    rw [entriesOfToml_eq_map, List.map_map]
    apply List.map_congr_left
    intro e he
    simp [rooted, (h.plain e he).ofText]
  constructor
  case shallow =>
    intro e he
    rw [entriesOfToml_eq_map] at he
    obtain ⟨e', he', rfl⟩ := List.mem_map.1 he
    exact .root _ (h.plain e' he').ofText
  case tables =>
    intro k hk v hv
    rw [hrooted, given_entriesOfToml] at hv
    obtain ⟨v', hv', rfl⟩ := List.mem_map.1 hv
    have htable := h.sections k hk v' hv'
    cases v' with
    | table inner => exact ⟨_, _, rfl⟩
    | _ => cases htable
  case scalars =>
    intro f v hv
    rw [hrooted, givenIn_entriesOfToml] at hv
    obtain ⟨v', hv', rfl⟩ := List.mem_map.1 hv
    obtain ⟨d, hd⟩ := Option.isSome_iff_exists.1 (h.settings f v' hv')
    exact (Kind.read_ofToml hd).1
  case reads =>
    intro f
    rw [hrooted, givenIn_entriesOfToml, Setting.inDocument]
    have hread := h.settings f
    generalize f.givenIn Toml.Value.entries es = vs at hread
    induction vs with
    | nil => rfl
    | cons v vs ih =>
      obtain ⟨hv, hvs⟩ := List.forall_mem_cons.1 hread
      obtain ⟨d, hd⟩ := Option.isSome_iff_exists.1 hv
      simp only [List.map_cons, List.filterMap_cons, hd, (Kind.read_ofToml hd).2, ih hvs]

end Documents

end Config

end NamedLock
