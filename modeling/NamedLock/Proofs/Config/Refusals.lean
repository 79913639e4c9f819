import NamedLock.Proofs.Config.Sources

/-!
# Refusals — values that settings do not take

A field that cannot read a value refuses it, and with it the whole record: nothing is read at all. This carries over
from a section to the root, and through merging, where the last value given for a setting is the one that counts. So a
variable whose text its setting cannot read is an error, whatever the files and the other variables say.
-/

namespace NamedLock

namespace Config

/-! ## Records -/

section Records

variable {ε β α : Type} {s : Shape ε β α} {k : String} {b : β}

/-- A record does not take a value in a field, whatever it holds. -/
def Shape.Refuses (s : Shape ε β α) (k : String) (b : β) : Prop :=
  ∃ f, s.field? k = some f ∧ ∀ a, ∃ e, f.store b a = .error e

/-- One entry that is refused is enough. -/
theorem Shape.Refuses.storeEntries (h : s.Refuses k b) (inField : String → ε → ε) {es : List (String × β)}
    (hmem : (k, b) ∈ es) (a : α) : ∃ e, s.storeEntries inField es a = .error e := by
  obtain ⟨f, hf, hrefused⟩ := h
  induction es generalizing a with
  | nil => cases hmem
  | cons entry es ih =>
    cases hentry : s.storeEntry inField entry a with
    | error e =>
      -- this one, or another one before it
      exact ⟨e, by simp only [Shape.storeEntries, hentry]⟩
    | ok a' =>
      rcases List.mem_cons.1 hmem with rfl | hrest
      · obtain ⟨e, he⟩ := hrefused a
        simp [Shape.storeEntry, hf, he, Except.mapError] at hentry
      · obtain ⟨e, he⟩ := ih hrest a'
        exact ⟨e, by simp only [Shape.storeEntries, hentry, he]⟩

/-- What cannot be read is not set. -/
theorem refused_of_map {γ δ δ' : Type} {r : Except ε γ} {read : γ → δ} {set : γ → δ'} {e : ε}
    (h : r.map read = .error e) : ∃ e', r.map set = .error e' := by
  cases r with
  | error e' => exact ⟨e', rfl⟩
  | ok c => cases h

end Records

section Settings

variable {v : Value} {e : ConfigError}

theorem databaseShape_refuses {i : DatabaseField} (h : i.kind.read v = .error e) :
    (databaseShape reading).Refuses i.name v := by
  cases i <;> exact ⟨_, rfl, fun _ => refused_of_map h⟩

theorem observabilityShape_refuses {i : ObservabilityField} (h : i.kind.read v = .error e) :
    (observabilityShape reading).Refuses i.name v := by
  cases i <;> exact ⟨_, rfl, fun _ => refused_of_map h⟩

theorem probeShape_refuses {i : ProbeField} (h : i.kind.read v = .error e) : (probeShape reading).Refuses i.name v := by
  cases i <;> exact ⟨_, rfl, fun _ => refused_of_map h⟩

theorem appShape_refuses {i : RootField} (h : i.read v = .error e) : (appShape reading).Refuses i.name v := by
  cases i <;> exact ⟨_, rfl, fun _ => refused_of_map h⟩

/-- A section is not read when an entry of it is refused. -/
theorem readRecord_of_refused {α : Type} {shape : Shape ConfigError Value α} {k : String} {es : List (String × Value)}
    (h : shape.Refuses k v) (hmem : (k, v) ∈ es) (o : Origin) : ∃ e, readRecord shape (.table es o) = .error e :=
  h.storeEntries ConfigError.inside hmem shape.base

theorem section_refused {f : Setting} {k : String} (hf : f.section? = some k) (h : f.kind.read v = .error e)
    {es : List (String × Value)} (hmem : (f.name, v) ∈ es) (o : Origin) : (appShape reading).Refuses k (.table es o) := by
  cases f with
  | serviceName => cases hf
  | environment => cases hf
  | database i =>
    cases hf
    obtain ⟨e', he⟩ := readRecord_of_refused (databaseShape_refuses h) hmem o
    exact appShape_refuses (i := .database) (congrArg (Except.map RootDatum.database) he)
  | observability i =>
    cases hf
    obtain ⟨e', he⟩ := readRecord_of_refused (observabilityShape_refuses h) hmem o
    exact appShape_refuses (i := .observability) (congrArg (Except.map RootDatum.observability) he)
  | probe i =>
    cases hf
    obtain ⟨e', he⟩ := readRecord_of_refused (probeShape_refuses h) hmem o
    exact appShape_refuses (i := .probe) (congrArg (Except.map RootDatum.probe) he)

theorem root_refused {f : Setting} (hf : f.section? = none) (h : f.kind.read v = .error e) :
    (appShape reading).Refuses f.name v := by
  cases f with
  | serviceName => exact ⟨_, rfl, fun _ => refused_of_map h⟩
  | environment => exact ⟨_, rfl, fun _ => refused_of_map h⟩
  | database i => cases hf
  | observability i => cases hf
  | probe i => cases hf

/-! ## Merged entries -/

variable {es : List (String × Value)}

/-- Merged entries make no settings when the last value given for one of them cannot be read. -/
theorem readRecord_of_last {f : Setting} (tables : ∀ k ∈ sectionNames, ∀ v ∈ given es k, v.IsTable)
    (scalars : ∀ v ∈ f.givenIn Value.entries es, v.IsScalar) (hlast : (f.givenIn Value.entries es).getLast? = some v)
    (hread : f.kind.read v = .error e) :
    ∃ e', readRecord (appShape reading) (.table (overlayEntries [] es) none) = .error e' := by
  cases hf : f.section? with
  | none =>
    have hgiven : f.givenIn Value.entries es = given es f.name := by rw [Setting.givenIn, hf]
    rw [hgiven] at scalars hlast
    have hmem : v ∈ given (overlayEntries [] es) f.name := by
      rw [given_merged_scalars scalars, hlast]
      exact List.mem_singleton_self v
    exact readRecord_of_refused (root_refused hf hread) (mem_given.1 hmem) none
  | some k =>
    have hgiven : f.givenIn Value.entries es = given ((given es k).flatMap Value.entries) f.name := by
      rw [Setting.givenIn, hf]
    rw [hgiven] at scalars hlast
    have hmem : v ∈ given (overlayEntries [] ((given es k).flatMap Value.entries)) f.name := by
      rw [given_merged_scalars scalars, hlast]
      exact List.mem_singleton_self v
    -- a section that gives something is there
    have hpresent : given (overlayEntries [] es) k ≠ [] := by
      intro hnone
      rw [given_eq_nil_of_merged hnone] at hlast
      cases hlast
    obtain ⟨t, ht⟩ := List.exists_mem_of_ne_nil _ hpresent
    obtain ⟨o, rfl⟩ := section_merged (tables k (Setting.mem_sectionNames hf)) ht
    exact readRecord_of_refused (section_refused hf hread (mem_given.1 hmem) o) (mem_given.1 ht) none

/-- Nor do layers that supply data when one more entry is refused. -/
theorem Supplies.refused {before : Layer} {data : Setting → List Datum} (h : Supplies before data) {f : Setting}
    {layers : List Layer} (hlayers : layers.flatten = before ++ [(f.key, v)]) (hscalar : v.IsScalar)
    (hread : f.kind.read v = .error e) : ∃ e', Config.readRecord (appShape reading) (applyLayers layers) = .error e' := by
  have hrooted : layers.flatMap (·.map rooted) = before.map rooted ++ [(f.key, v)].map rooted := by
    rw [← List.map_append, ← hlayers, List.map_flatten, List.flatMap_def]
  have hshallow : ∀ layer ∈ layers, ∀ entry ∈ layer, Shallow entry.1 := by
    intro layer hlayer entry hentry
    have hmem : entry ∈ before ++ [(f.key, v)] := hlayers ▸ List.mem_flatten_of_mem hlayer hentry
    rcases List.mem_append.1 hmem with hbefore | hlast
    · exact h.shallow entry hbefore
    · rw [List.mem_singleton.1 hlast]
      exact f.shallow_key
  have hgiven : f.givenIn Value.entries (before.map rooted ++ [(f.key, v)].map rooted) =
      f.givenIn Value.entries (before.map rooted) ++ [v] := by
    rw [Setting.givenIn_append, Setting.givenIn_keyed, if_pos rfl]
  rw [applyLayers_shallow hshallow, hrooted]
  refine readRecord_of_last (f := f) ?tables ?scalars ?last hread
  case tables =>
    intro k hk w hw
    rw [given_append] at hw
    exact (List.mem_append.1 hw).elim (h.tables k hk w) (Setting.isTable_of_keyed hk w)
  case scalars =>
    intro w hw
    rw [hgiven] at hw
    rcases List.mem_append.1 hw with hbefore | hlast
    · exact h.scalars f w hbefore
    · exact List.mem_singleton.1 hlast ▸ hscalar
  case last => rw [hgiven, List.getLast?_concat]

end Settings

/-! ## The settings of a service -/

theorem read_of_ofText?_eq_none {k : Kind} {s : String} (h : k.ofText? s = none) :
    ∃ e, k.read (.scalar (Environment.guess s) (some Environment.origin)) = .error e := by
  unfold Kind.ofText? at h
  cases hread : k.read (.scalar (Environment.guess s) (some Environment.origin)) with
  | error e => exact ⟨e, rfl⟩
  | ok d => simp [hread, Except.toOption] at h

/-- A variable whose text its setting cannot be converted to makes loading fail, whatever the files and the variables
before it supply. -/
theorem load_refused {service s : String} {vs before : Environment.Variables} {files : Files}
    {layerOf : FilePath → Layer} {ofFile : FilePath → Setting → List Datum} {f : Setting}
    (hvs : vs = before ++ [(f.variableName, s)])
    (hfiles : ∀ p ∈ configFiles service vs, fileLayer files p = .ok (layerOf p) ∧ Supplies (layerOf p) (ofFile p))
    (hbefore : ∀ v ∈ before, Admissible v) (hs : f.kind.ofText? s = none) :
    ∃ e, load service vs files = .error e := by
  obtain ⟨e, hread⟩ := read_of_ofText?_eq_none hs
  have hlayer : Environment.layer vs =
      Environment.layer before ++ [(f.key, .scalar (Environment.guess s) (some Environment.origin))] := by
    rw [hvs, ← layer_of_setting]
    exact List.filterMap_append
  -- all but the last entry supply data
  have hsupplies := (baseLayer_supplies service (environmentName vs)).append
    ((Supplies.flatMap (configFiles service vs) fun p hp => (hfiles p hp).2).append (variables_supply hbefore))
  have hflatten : (baseLayer service (environmentName vs) :: (configFiles service vs).map layerOf ++
      [Environment.layer vs]).flatten =
        (baseLayer service (environmentName vs) ++
          ((configFiles service vs).flatMap layerOf ++ Environment.layer before)) ++
            [(f.key, .scalar (Environment.guess s) (some Environment.origin))] := by
    simp [List.flatMap_def, hlayer]
  rw [load, layers_of_files fun p hp => (hfiles p hp).1]
  exact hsupplies.refused hflatten ⟨_, _, rfl⟩ hread

/-- One variable alone is enough. -/
theorem load_refused_ofOneVariable {f : Setting} {s : String} (service : String) (hs : f.kind.ofText? s = none) :
    ∃ e, load service [(f.variableName, s)] (fun _ => none) = .error e := by
  apply load_refused (List.nil_append _).symm (fun p _ => missing_supplies p) _ hs
  simp

end Config

end NamedLock
