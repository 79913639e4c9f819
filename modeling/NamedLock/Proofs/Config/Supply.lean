import NamedLock.Proofs.Config.Names
import NamedLock.Proofs.Config.Settings

/-!
# Supply — what a layer supplies for settings

Every setting has a key, a variable and a place of its own. A layer supplies data when what it gives for settings reads
as these data; then it has nothing else to say about them. Layers that supply data make settings, and each setting is
the last datum that is supplied for it.
-/

namespace NamedLock

namespace Config

/-! ## Settings by name -/

namespace Setting

/-- Every setting. -/
def all : List Setting :=
  [serviceName, environment] ++
    [.url, .maxConnections, .minConnections, .connectTimeoutSeconds, .idleTimeoutSeconds].map database ++
    [.serviceName, .otlpEndpoint, .metricsPort, .metricsEnabled, .logLevel, .jsonLogs].map observability ++
    [.resourceId, .lockClass, .holdSeconds].map probe

theorem mem_all (f : Setting) : f ∈ all := by
  cases f with
  | serviceName => decide
  | environment => decide
  | database i => cases i <;> decide
  | observability i => cases i <;> decide
  | probe i => cases i <;> decide

/-- The key of a setting from the root. -/
def key (f : Setting) : String :=
  String.ofList (f.section?.elim [] (fun k => k.toList ++ ['.']) ++ f.name.toList)

/-- The characters of the variable that sets a setting: two underscores stand between section and name. -/
def variableChars (f : Setting) : List Char :=
  "LOCK_".toList ++ (f.section?.elim [] (fun k => k.toList ++ ['_', '_']) ++ f.name.toList).map Char.toUpper

/-- The variable that sets a setting. -/
def variableName (f : Setting) : String := String.ofList f.variableChars

/-- The place of a setting. -/
def place (f : Setting) : Path := f.section?.elim [.child f.name] fun k => [.child k, .child f.name]

/-- The entry of the root that gives a value for a setting; `table` makes a table of one entry. -/
def placed {α : Type} (f : Setting) (table : String → α → α) (a : α) : String × α :=
  f.section?.elim (f.name, a) fun k => (k, table f.name a)

variable (f g : Setting)

/-- The name of a variable is read back, although single underscores stand in names too. -/
theorem key?_variableName : Environment.key? f.variableName = some f.key := by
  -- only lists of characters are computed with: texts would have to be encoded and decoded each time
  have hall : ∀ f ∈ all, Environment.keyHead.isPrefixOf (Text.lowerFrom [] f.variableChars) = true ∧
      String.ofList (Environment.dotted ((Text.lowerFrom [] f.variableChars).drop Environment.keyHead.length)) = f.key := by
    decide +kernel
  obtain ⟨hhead, hdotted⟩ := hall f f.mem_all
  simp only [Environment.key?, Text.lower, variableName, String.toList_ofList, hhead, if_true, hdotted]

theorem ofText_key : Path.ofText f.key = f.place := by
  have hall : ∀ f ∈ all, Path.ofText f.key = f.place := by decide +kernel
  exact hall f f.mem_all

theorem shallow_key : Shallow f.key := by
  have hplace := f.ofText_key
  unfold place at hplace
  cases hf : f.section? with
  | none => exact .root _ (hf ▸ hplace)
  | some k => exact .inSection _ _ (hf ▸ hplace)

theorem place_injective : Function.Injective place := by
  intro f g h
  -- names differ at the root and within each section, and places of different kinds differ in their first step
  cases f <;> cases g <;> simp [place, section?, name] at h ⊢
  case database.database => exact databaseShape_told.injective h
  case observability.observability => exact observabilityShape_told.injective h
  case probe.probe => exact probeShape_told.injective h

theorem variableName_injective : Function.Injective variableName := by
  intro f g h
  have hkey : f.key = g.key := by
    have hread := congrArg Environment.key? h
    rwa [key?_variableName, key?_variableName, Option.some_inj] at hread
  apply place_injective
  rw [← ofText_key, ← ofText_key, hkey]

section Given

variable {α β : Type} {inside : α → List (String × α)} {f g : Setting}

@[simp] theorem givenIn_append (es es' : List (String × α)) :
    f.givenIn inside (es ++ es') = f.givenIn inside es ++ f.givenIn inside es' := by
  unfold givenIn
  cases f.section? <;> simp

theorem mem_sectionNames {k : String} (hf : f.section? = some k) : k ∈ sectionNames := by
  cases f <;> simp_all [section?, sectionNames]

/-- No setting at the root is named like a section. -/
theorem name_ne_section {k : String} (hf : f.section? = none) (hk : k ∈ sectionNames) : f.name ≠ k := by
  cases f with
  | serviceName => exact fun h => absurd (h ▸ hk) (by decide)
  | environment => exact fun h => absurd (h ▸ hk) (by decide)
  | database i => cases hf
  | observability i => cases hf
  | probe i => cases hf

/-- An entry that is placed for a setting gives tables for sections. -/
theorem given_placed {table : String → α → α} {a : α} {k : String} (hk : k ∈ sectionNames) :
    ∀ b ∈ given [f.placed table a] k, ∃ n, b = table n a := by
  intro b hb
  rw [mem_given, List.mem_singleton, placed] at hb
  cases hf : f.section? with
  | none =>
    rw [hf] at hb
    exact absurd (congrArg Prod.fst hb).symm (name_ne_section hf hk)
  | some k' =>
    rw [hf] at hb
    exact ⟨_, congrArg Prod.snd hb⟩

section Placed

variable {table : String → α → α} (htable : ∀ k a, inside (table k a) = [(k, a)]) (a : α)

include htable

/-- It gives its value for the setting. -/
theorem givenIn_placed_self : f.givenIn inside [f.placed table a] = [a] := by
  cases hf : f.section? <;> simp [givenIn, placed, hf, given_cons, htable]

/-- It gives nothing for any other setting. -/
theorem givenIn_placed_of_ne (hfg : f ≠ g) : f.givenIn inside [g.placed table a] = [] := by
  have hplace : f.place ≠ g.place := fun h => hfg (place_injective h)
  cases hf : f.section? with
  | none =>
    cases hg : g.section? with
    | none =>
      have hname : g.name ≠ f.name := by simpa [place, hf, hg, eq_comm] using hplace
      simp [givenIn, placed, hf, hg, given_cons, hname]
    | some k => simp [givenIn, placed, hf, hg, given_cons, (name_ne_section hf (mem_sectionNames hg)).symm]
  | some k =>
    cases hg : g.section? with
    | none => simp [givenIn, placed, hf, hg, given_cons, name_ne_section hg (mem_sectionNames hf)]
    | some k' =>
      by_cases hk : k' = k
      · subst hk
        have hname : g.name ≠ f.name := by simpa [place, hf, hg, eq_comm] using hplace
        simp [givenIn, placed, hf, hg, given_cons, htable, hname]
      · simp [givenIn, placed, hf, hg, given_cons, hk]

end Placed

section Keyed

variable (f g : Setting) (v : Value)

theorem map_rooted_keyed : [(g.key, v)].map rooted = [g.placed (fun k v => .table [(k, v)] none) v] := by
  rw [List.map_singleton, rooted, ofText_key, place, placed]
  cases g.section? <;> rfl

/-- An entry with the key of a setting gives its value for this setting only. -/
theorem givenIn_keyed : f.givenIn Value.entries ([(g.key, v)].map rooted) = if f = g then [v] else [] := by
  have htable : ∀ k v, (Value.table [(k, v)] none).entries = [(k, v)] := fun k v => rfl
  rw [map_rooted_keyed]
  split_ifs with hf
  · exact hf ▸ givenIn_placed_self htable v
  · exact givenIn_placed_of_ne htable v hf

variable {g v}

theorem isTable_of_keyed {k : String} (hk : k ∈ sectionNames) : ∀ w ∈ given ([(g.key, v)].map rooted) k, w.IsTable := by
  intro w hw
  rw [map_rooted_keyed] at hw
  obtain ⟨n, rfl⟩ := given_placed hk w hw
  exact ⟨_, _, rfl⟩

end Keyed

end Given

end Setting

/-! ## What a layer supplies -/

/-- A layer that supplies data: what it gives for a setting are scalars that read as the data. -/
structure Supplies (layer : Layer) (data : Setting → List Datum) : Prop where
  shallow : ∀ e ∈ layer, Shallow e.1
  tables : ∀ k ∈ sectionNames, ∀ v ∈ given (layer.map rooted) k, v.IsTable
  scalars : ∀ f : Setting, ∀ v ∈ f.givenIn Value.entries (layer.map rooted), v.IsScalar
  reads : ∀ f : Setting, (f.givenIn Value.entries (layer.map rooted)).map f.kind.read = (data f).map .ok

namespace Supplies

variable {layer layer' : Layer} {data data' : Setting → List Datum}

theorem nil : Supplies [] fun _ => [] where
  shallow := by simp
  tables := by simp
  scalars := by
    intro f
    cases f <;> simp [Setting.givenIn, Setting.section?]
  reads := by
    intro f
    cases f <;> rfl

theorem append (h : Supplies layer data) (h' : Supplies layer' data') :
    Supplies (layer ++ layer') fun f => data f ++ data' f where
  shallow := by
    intro e he
    exact (List.mem_append.1 he).elim (h.shallow e) (h'.shallow e)
  tables := by
    intro k hk v hv
    rw [List.map_append, given_append] at hv
    exact (List.mem_append.1 hv).elim (h.tables k hk v) (h'.tables k hk v)
  scalars := by
    intro f v hv
    rw [List.map_append, Setting.givenIn_append] at hv
    exact (List.mem_append.1 hv).elim (h.scalars f v) (h'.scalars f v)
  reads := by
    intro f
    rw [List.map_append, Setting.givenIn_append, List.map_append, List.map_append, h.reads f, h'.reads f]

/-- One layer after the other supplies one datum after the other. -/
theorem flatMap {ι : Type} {layer : ι → Layer} {data : ι → Setting → List Datum} (is : List ι)
    (h : ∀ i ∈ is, Supplies (layer i) (data i)) : Supplies (is.flatMap layer) fun f => is.flatMap (data · f) := by
  induction is with
  | nil => exact nil
  | cons i is ih =>
    obtain ⟨hi, his⟩ := List.forall_mem_cons.1 h
    exact hi.append (ih his)

/-- One value at the place of a setting. -/
theorem placed {g : Setting} {v : Value} {d : Datum} (hscalar : v.IsScalar) (hread : g.kind.read v = .ok d) :
    Supplies [(g.key, v)] fun f => if f = g then [d] else [] := by
  constructor
  case shallow =>
    intro e he
    rw [List.mem_singleton.1 he]
    exact g.shallow_key
  case tables => exact fun k => Setting.isTable_of_keyed
  case scalars =>
    intro f w hw
    rw [Setting.givenIn_keyed] at hw
    split_ifs at hw
    · rw [List.mem_singleton.1 hw]
      exact hscalar
    · cases hw
  case reads =>
    intro f
    rw [Setting.givenIn_keyed]
    split_ifs with hf
    · subst hf
      simp [hread]
    · rfl

/-- A value at the root that is neither a setting nor a section. -/
theorem passedOver {k : String} {v : Value} (hkey : Path.ofText k = [.child k]) (hsection : k ∉ sectionNames)
    (hsetting : ∀ f : Setting, f.section? = none → f.name ≠ k) : Supplies [(k, v)] fun _ => [] := by
  have hrooted : [(k, v)].map rooted = [(k, v)] := by simp [rooted, hkey]
  have hgiven : ∀ f : Setting, f.givenIn Value.entries ([(k, v)].map rooted) = [] := by
    intro f
    rw [hrooted]
    cases hf : f.section? with
    | none => simp [Setting.givenIn, hf, given_cons, (hsetting f hf).symm]
    | some k' =>
      have hne : k ≠ k' := by
        rintro rfl
        exact hsection (Setting.mem_sectionNames hf)
      simp [Setting.givenIn, hf, given_cons, hne]
  constructor
  case shallow =>
    intro e he
    rw [List.mem_singleton.1 he]
    exact .root k hkey
  case tables =>
    intro k' hk' w hw
    rw [hrooted, mem_given, List.mem_singleton] at hw
    cases hw
    exact absurd hk' hsection
  case scalars =>
    intro f w hw
    rw [hgiven] at hw
    cases hw
  case reads =>
    intro f
    rw [hgiven]
    rfl

/-- Layers that supply data make settings: of each the last datum, or its default. -/
theorem readRecord {layers : List Layer} (h : Supplies layers.flatten data) :
    ∃ app, readRecord (appShape reading) (applyLayers layers) = .ok app ∧
      ∀ f : Setting, f.get app = (data f).getLast?.getD (f.get {}) := by
  have hshallow : ∀ layer ∈ layers, ∀ e ∈ layer, Shallow e.1 :=
    fun layer hlayer e he => h.shallow e (List.mem_flatten_of_mem hlayer he)
  have hmerged : applyLayers layers = .table (overlayEntries [] (layers.flatten.map rooted)) none := by
    rw [applyLayers_shallow hshallow, List.map_flatten, List.flatMap_def]
  -- what reads as a datum can be read
  have hreadable : Readable (layers.flatten.map rooted) := by
    refine ⟨h.tables, fun f v hv => ⟨h.scalars f v hv, ?_⟩⟩
    have hmem : f.kind.read v ∈ (data f).map .ok := h.reads f ▸ List.mem_map_of_mem hv
    obtain ⟨d, -, hd⟩ := List.mem_map.1 hmem
    exact ⟨d, hd.symm⟩
  obtain ⟨app, hok, hlast⟩ := hreadable.readRecord
  refine ⟨app, hmerged ▸ hok, ?_⟩
  intro f
  have hread : lastRead f.kind.read (f.get {}) (f.givenIn Value.entries (layers.flatten.map rooted)) =
      .ok ((data f).getLast?.getD (f.get {})) := lastRead_of_map (h.reads f)
  exact Except.ok.inj ((hlast f).symm.trans hread)

end Supplies

end Config

end NamedLock
