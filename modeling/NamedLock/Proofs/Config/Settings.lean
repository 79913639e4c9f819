import NamedLock.Proofs.Config.Fields

/-!
# Settings — all settings of a program

A setting stands at the root of a configuration or in a section. What a list of entries gives for it are the values
under its name, in the sections that the list gives one after the other. When all of this can be read, the merged
entries make settings, each as the last value given for it reads.
-/

namespace NamedLock

namespace Config

/-- A setting: of the program, or of one of its sections. -/
inductive Setting
  | serviceName
  | environment
  | database (i : DatabaseField)
  | observability (i : ObservabilityField)
  | probe (i : ProbeField)
  deriving DecidableEq, Repr

namespace Setting

/-- The section that a setting stands in. -/
def section? : Setting → Option String
  | serviceName => none
  | environment => none
  | database _ => some "database"
  | observability _ => some "observability"
  | probe _ => some "probe"

/-- The name of a setting, where it stands. -/
def name : Setting → String
  | serviceName => "service_name"
  | environment => "environment"
  | database i => i.name
  | observability i => i.name
  | probe i => i.name

def kind : Setting → Kind
  | serviceName => .text
  | environment => .text
  | database i => i.kind
  | observability i => i.kind
  | probe i => i.kind

/-- The value of a setting. -/
def get : Setting → AppSettings → Datum
  | serviceName, s => .text s.serviceName
  | environment, s => .text s.environment
  | database i, s => i.get s.database
  | observability i, s => i.get s.observability
  | probe i, s => i.get s.probe

/-- All settings are known by their values. -/
theorem get_injective {s s' : AppSettings} (h : ∀ f : Setting, f.get s = f.get s') : s = s' := by
  have hname := h .serviceName
  have henvironment := h .environment
  have hdatabase := DatabaseField.get_injective fun i => h (.database i)
  have hobservability := ObservabilityField.get_injective fun i => h (.observability i)
  have hprobe := ProbeField.get_injective fun i => h (.probe i)
  cases s
  cases s'
  simp_all [get]

/-- The values that a list of entries gives for a setting, in order; `inside` are the entries of a section. -/
def givenIn {α : Type} (f : Setting) (inside : α → List (String × α)) (es : List (String × α)) : List α :=
  match f.section? with
  | none => given es f.name
  | some k => given ((given es k).flatMap inside) f.name

end Setting

/-- The names of the sections. -/
def sectionNames : List String := ["database", "observability", "probe"]

/-! ## The root -/

/-- A setting at the root, or a whole section. -/
inductive RootField
  | serviceName
  | environment
  | database
  | observability
  | probe
  deriving DecidableEq, Repr

/-- What stands at the root. -/
inductive RootDatum
  | text (s : String)
  | database (s : DatabaseSettings)
  | observability (s : ObservabilitySettings)
  | probe (s : ProbeSettings)

namespace RootField

def name : RootField → String
  | serviceName => "service_name"
  | environment => "environment"
  | database => "database"
  | observability => "observability"
  | probe => "probe"

def read : RootField → Value → Except ConfigError RootDatum
  | serviceName, v => (readText v).map .text
  | environment, v => (readText v).map .text
  | database, v => (readRecord (databaseShape reading) v).map .database
  | observability, v => (readRecord (observabilityShape reading) v).map .observability
  | probe, v => (readRecord (probeShape reading) v).map .probe

def get : RootField → AppSettings → RootDatum
  | serviceName, s => .text s.serviceName
  | environment, s => .text s.environment
  | database, s => .database s.database
  | observability, s => .observability s.observability
  | probe, s => .probe s.probe

end RootField

section Stored

variable {α ι γ δ : Type} {name : String} {get : ι → α → γ} {wrap : δ → γ} {i : ι} {v : Value} {a : α} {c : γ}

theorem rootText_stored {wrap : String → γ} {set : String → α → α} (hc : (readText v).map wrap = .ok c)
    (self : ∀ s, get i (set s a) = wrap s) (others : ∀ s j, j ≠ i → get j (set s a) = get j a) :
    ∃ a', (textField reading name set).store v a = .ok a' ∧ get i a' = c ∧ ∀ j, j ≠ i → get j a' = get j a :=
  stored_of_set hc (fun s _ => self s) others

theorem recordField_stored {shape : Shape ConfigError Value δ} {set : δ → α → α}
    (hc : (readRecord shape v).map wrap = .ok c) (self : ∀ d, get i (set d a) = wrap d)
    (others : ∀ d j, j ≠ i → get j (set d a) = get j a) :
    ∃ a', (recordField reading name shape set).store v a = .ok a' ∧ get i a' = c ∧ ∀ j, j ≠ i → get j a' = get j a :=
  stored_of_set hc (fun d _ => self d) others

end Stored

theorem appShape_told : (appShape reading).Told RootField.name RootField.read RootField.get where
  injective := by
    intro i j h
    cases i <;> cases j <;> first | rfl | exact absurd h (by decide)
  names := ⟨[.serviceName, .environment, .database, .observability, .probe], rfl⟩
  stores := by
    intro i v a c hc
    cases i
    case' serviceName => refine ⟨_, rfl, rootText_stored hc (fun s => rfl) ?_⟩
    case' environment => refine ⟨_, rfl, rootText_stored hc (fun s => rfl) ?_⟩
    case' database => refine ⟨_, rfl, recordField_stored hc (fun d => rfl) ?_⟩
    case' observability => refine ⟨_, rfl, recordField_stored hc (fun d => rfl) ?_⟩
    case' probe => refine ⟨_, rfl, recordField_stored hc (fun d => rfl) ?_⟩
    -- each sets its own field and no other one
    all_goals
      intro d j hj
      cases j <;> first | rfl | exact absurd rfl hj

/-! ## Merged entries -/

variable {es : List (String × Value)} {k : String}

theorem given_merged (es : List (String × Value)) (k : String) :
    given (overlayEntries [] es) k = (Keyed.get? (overlayEntries [] es) k).toList :=
  given_of_nodup (nodup_overlayEntries (show (Keyed.keys []).Nodup from List.nodup_nil) es) k

/-- Of the scalars under a key, merging keeps the last one. -/
theorem given_merged_scalars (h : ∀ v ∈ given es k, v.IsScalar) :
    given (overlayEntries [] es) k = (given es k).getLast?.toList := by
  rw [given_merged, get?_overlayEntries_scalars h, Keyed.get?_nil, Option.or_none]

/-- A section of merged entries is made of the merged entries of all sections of its name. -/
theorem section_merged (h : ∀ v ∈ given es k, v.IsTable) {v : Value} (hv : v ∈ given (overlayEntries [] es) k) :
    ∃ o, v = .table (overlayEntries [] ((given es k).flatMap Value.entries)) o := by
  have hget : Keyed.get? (overlayEntries [] es) k = some v := by
    rw [given_merged, Option.mem_toList] at hv
    exact hv
  obtain ⟨es', o, rfl⟩ := isTable_of_overlayEntries h (by simp) hget
  have hentries : (entryAt (overlayEntries [] es) k).entries =
      overlayEntries [] ((given es k).flatMap Value.entries) := entries_overlayEntries h
  rw [entryAt, hget] at hentries
  exact ⟨o, congrArg (Value.table · o) hentries⟩

/-- Nothing is merged under a key that nothing is given for. -/
theorem given_eq_nil_of_merged (h : given (overlayEntries [] es) k = []) : given es k = [] := by
  rw [given_merged, Option.toList_eq_nil_iff, get?_overlayEntries] at h
  generalize given es k = vs at h
  cases vs with
  | nil => rfl
  | cons v vs =>
    have hsome : ∀ (vs : List Value) v, vs.foldl overlayAt (some v) ≠ none := by
      intro vs
      induction vs with
      | nil => simp
      | cons w vs ih => exact fun v => ih _
    exact absurd h (hsome vs _)

section Sections

variable {α ι : Type} {shape : Shape ConfigError Value α} {name : ι → String} {kind : ι → Kind} {get : ι → α → Datum}

/-- A merged section can be read, and each field comes out as the last value given for it reads. -/
theorem Shape.Told.readSection (told : shape.Told name (fun i => (kind i).read) get)
    (tables : ∀ v ∈ given es k, v.IsTable)
    (readable : ∀ i, ∀ v ∈ given ((given es k).flatMap Value.entries) (name i),
      v.IsScalar ∧ ∃ c, (kind i).read v = .ok c) :
    (∀ v ∈ given (overlayEntries [] es) k, ∃ a, readRecord shape v = .ok a) ∧
      ∀ a, lastRead (readRecord shape) shape.base (given (overlayEntries [] es) k) = .ok a →
        ∀ i, lastRead (kind i).read (get i shape.base) (given ((given es k).flatMap Value.entries) (name i)) =
          .ok (get i a) := by
  have hmerged : ∀ i, given (overlayEntries [] ((given es k).flatMap Value.entries)) (name i) =
      (given ((given es k).flatMap Value.entries) (name i)).getLast?.toList :=
    fun i => given_merged_scalars fun v hv => (readable i v hv).1
  have hreadable : ∀ i, ∀ v ∈ given (overlayEntries [] ((given es k).flatMap Value.entries)) (name i),
      ∃ c, (kind i).read v = .ok c := by
    intro i v hv
    rw [hmerged, Option.mem_toList] at hv
    exact (readable i v (List.mem_of_getLast? hv)).2
  obtain ⟨a, hok, hlast⟩ := told.storeEntries ConfigError.inside _ hreadable shape.base
  -- there is at most one merged section, and it reads as the merged entries of all sections do
  have hread : ∀ v ∈ given (overlayEntries [] es) k, readRecord shape v = .ok a := by
    intro v hv
    obtain ⟨o, rfl⟩ := section_merged tables hv
    exact hok
  refine ⟨fun v hv => ⟨a, hread v hv⟩, ?_⟩
  intro a' ha' i
  unfold lastRead at ha'
  cases hpresent : (given (overlayEntries [] es) k).getLast? with
  | none =>
    -- there is no such section at all
    rw [hpresent] at ha'
    cases ha'
    rw [given_eq_nil_of_merged (List.getLast?_eq_none_iff.1 hpresent)]
    rfl
  | some v =>
    rw [hpresent, Option.elim_some, hread v (List.mem_of_getLast? hpresent)] at ha'
    cases ha'
    rw [← hlast i, hmerged, lastRead_getLast?]

end Sections

/-- Entries whose sections are tables, and whose values for settings are scalars that can be read. -/
structure Readable (es : List (String × Value)) : Prop where
  tables : ∀ k ∈ sectionNames, ∀ v ∈ given es k, v.IsTable
  settings : ∀ f : Setting, ∀ v ∈ f.givenIn Value.entries es, v.IsScalar ∧ ∃ d, f.kind.read v = .ok d

namespace Readable

section Text

variable (f : Setting) (hkind : f.kind = .text) (hroot : f.section? = none)

include hkind hroot

/-- Of the texts at the root only the last one is merged, and it can be read. -/
theorem text_given (h : Readable es) :
    given (overlayEntries [] es) f.name = (f.givenIn Value.entries es).getLast?.toList ∧
      ∀ v ∈ f.givenIn Value.entries es, ∃ s, readText v = .ok s := by
  have hgiven : f.givenIn Value.entries es = given es f.name := by rw [Setting.givenIn, hroot]
  constructor
  · rw [hgiven]
    exact given_merged_scalars fun v hv => (h.settings f v (hgiven ▸ hv)).1
  · intro v hv
    obtain ⟨d, hd⟩ := (h.settings f v hv).2
    rw [hkind] at hd
    obtain ⟨s, hs, -⟩ := map_eq_ok_iff.1 hd
    exact ⟨s, hs⟩

theorem text_readable (h : Readable es) {wrap : String → RootDatum} :
    ∀ v ∈ given (overlayEntries [] es) f.name, ∃ c, (readText v).map wrap = .ok c := by
  obtain ⟨hmerged, hread⟩ := h.text_given f hkind hroot
  intro v hv
  rw [hmerged, Option.mem_toList] at hv
  obtain ⟨s, hs⟩ := hread v (List.mem_of_getLast? hv)
  exact ⟨wrap s, map_eq_ok_iff.2 ⟨s, hs, rfl⟩⟩

theorem text_get (h : Readable es) {s s' : String}
    (hlast : lastRead (fun v => (readText v).map RootDatum.text) (.text s) (given (overlayEntries [] es) f.name) =
      .ok (.text s')) :
    lastRead f.kind.read (.text s) (f.givenIn Value.entries es) = .ok (.text s') := by
  rw [(h.text_given f hkind hroot).1, lastRead_getLast?] at hlast
  have hread : lastRead readText s (f.givenIn Value.entries es) = .ok s' :=
    lastRead_of_wrap (fun _ _ => RootDatum.text.inj) hlast
  rw [hkind]
  calc
    lastRead Kind.text.read (.text s) (f.givenIn Value.entries es)
      = (lastRead readText s (f.givenIn Value.entries es)).map .text := lastRead_wrap Datum.text _
    _ = .ok (.text s') := by rw [hread]; rfl

end Text

/-- Readable entries, merged, make settings, and each setting comes out as the last value given for it reads. -/
theorem readRecord (h : Readable es) :
    ∃ app, readRecord (appShape reading) (.table (overlayEntries [] es) none) = .ok app ∧
      ∀ f : Setting, lastRead f.kind.read (f.get {}) (f.givenIn Value.entries es) = .ok (f.get app) := by
  obtain ⟨database_ok, database_get⟩ := databaseShape_told.readSection
    (h.tables "database" (by decide)) fun i => h.settings (.database i)
  obtain ⟨observability_ok, observability_get⟩ := observabilityShape_told.readSection
    (h.tables "observability" (by decide)) fun i => h.settings (.observability i)
  obtain ⟨probe_ok, probe_get⟩ := probeShape_told.readSection
    (h.tables "probe" (by decide)) fun i => h.settings (.probe i)
  -- a section at the root is readable because its own entries are
  have hreadable : ∀ i : RootField, ∀ v ∈ given (overlayEntries [] es) i.name, ∃ c, i.read v = .ok c := by
    intro i v hv
    cases i with
    | serviceName => exact h.text_readable .serviceName rfl rfl v hv
    | environment => exact h.text_readable .environment rfl rfl v hv
    | database =>
      obtain ⟨a, ha⟩ := database_ok v hv
      exact ⟨_, map_eq_ok_iff.2 ⟨a, ha, rfl⟩⟩
    | observability =>
      obtain ⟨a, ha⟩ := observability_ok v hv
      exact ⟨_, map_eq_ok_iff.2 ⟨a, ha, rfl⟩⟩
    | probe =>
      obtain ⟨a, ha⟩ := probe_ok v hv
      exact ⟨_, map_eq_ok_iff.2 ⟨a, ha, rfl⟩⟩
  obtain ⟨app, hok, hlast⟩ := appShape_told.storeEntries ConfigError.inside _ hreadable {}
  refine ⟨app, hok, ?_⟩
  intro f
  cases f with
  | serviceName => exact h.text_get .serviceName rfl rfl (hlast .serviceName)
  | environment => exact h.text_get .environment rfl rfl (hlast .environment)
  | database i =>
    exact database_get app.database (lastRead_of_wrap (fun _ _ => RootDatum.database.inj) (hlast .database)) i
  | observability i =>
    exact observability_get app.observability
      (lastRead_of_wrap (fun _ _ => RootDatum.observability.inj) (hlast .observability)) i
  | probe i => exact probe_get app.probe (lastRead_of_wrap (fun _ _ => RootDatum.probe.inj) (hlast .probe)) i

end Readable

end Config

end NamedLock
