import Mathlib.Data.List.Nodup
import NamedLock.Json.Decode
import NamedLock.Proofs.Config.Documents
import NamedLock.Proofs.Toml.Writing

/-!
# Partial — sections that are written in part

A section may be written with some of its fields only, in any order, and with keys that are no fields. Read leniently
from a document in TOML or strictly from an object in JSON, it comes out the same: the fields that were written have
their values, and all others their defaults.
-/

namespace NamedLock

/-! ## Members of an object -/

/-- Without its duplicates a list has none. -/
theorem nodup_eraseDups {κ : Type} [DecidableEq κ] (ks : List κ) : ks.eraseDups.Nodup := by
  match ks with
  | [] => exact List.nodup_nil
  | k :: ks =>
    rw [List.eraseDups_cons, List.nodup_cons]
    refine ⟨?_, nodup_eraseDups _⟩
    intro hmem
    have hfilter := (List.mem_filter.1 (List.mem_eraseDups.1 hmem)).2
    simp at hfilter
termination_by ks.length
decreasing_by exact Nat.lt_succ_of_le (List.length_filter_le _ _)

namespace Config

/-- Entries that are made for names that differ: a name gives what was made for it. -/
theorem given_filterMap {ι α : Type} {name : ι → String} (hname : Function.Injective name) (f : ι → Option α)
    {is : List ι} (hnodup : is.Nodup) {j : ι} (hj : j ∈ is ∨ f j = none) :
    given (is.filterMap fun i => (f i).map fun a => (name i, a)) (name j) = (f j).toList := by
  induction is with
  | nil =>
    rcases hj with hmem | hnone
    · cases hmem
    · simp [hnone]
  | cons i is ih =>
    obtain ⟨hi, his⟩ := List.nodup_cons.1 hnodup
    cases hf : f i with
    | none =>
      rw [List.filterMap_cons_none (by simp [hf])]
      refine ih his ?_
      rcases hj with hmem | hnone
      · rcases List.mem_cons.1 hmem with rfl | hmem
        · exact .inr hf
        · exact .inl hmem
      · exact .inr hnone
    | some a =>
      rw [List.filterMap_cons_some (b := (name i, a)) (by simp [hf]), given_cons]
      by_cases he : i = j
      · -- nothing that follows has the same name
        subst he
        have hrest : given (is.filterMap fun i => (f i).map fun a => (name i, a)) (name i) = [] := by
          apply given_eq_nil
          intro hmem
          obtain ⟨e, he, hname'⟩ := List.mem_map.1 hmem
          obtain ⟨i', hi', he'⟩ := List.mem_filterMap.1 he
          obtain ⟨a', -, rfl⟩ := Option.map_eq_some_iff.1 he'
          exact hi (hname hname' ▸ hi')
        rw [if_pos rfl, hrest, hf]
        rfl
      · rw [if_neg fun h => he (hname h)]
        refine ih his (hj.imp_left fun hmem => ?_)
        exact (List.mem_cons.1 hmem).resolve_left (Ne.symm he)

end Config

namespace Json

open Config (given)

/-- The value of a member is the last one given under its name. -/
theorem member?_eq (members : List (String × Value)) (name : String) :
    member? members name = (given members name).getLast? := by
  rw [member?, given, List.getLast?_map, List.getLast?_filter]

/-- Sorting keeps the last member of each name. -/
theorem given_sortedMembers (members : List (String × Value)) (name : String) :
    given (sortedMembers members) name = (given members name).getLast?.toList := by
  have hnodup : ((members.map (·.1)).eraseDups.mergeSort fun a b => decide (a ≤ b)).Nodup :=
    (List.mergeSort_perm _ _).nodup_iff.2 (nodup_eraseDups _)
  have hnames : name ∈ (members.map (·.1)).eraseDups.mergeSort (fun a b => decide (a ≤ b)) ∨
      member? members name = none := by
    by_cases hmem : name ∈ members.map (·.1)
    · exact .inl ((List.mergeSort_perm _ _).mem_iff.2 (List.mem_eraseDups.2 hmem))
    · refine .inr ?_
      rw [member?_eq, Config.given_eq_nil hmem]
      rfl
  calc given (sortedMembers members) name
      = (member? members name).toList :=
        Config.given_filterMap Function.injective_id (member? members) hnodup hnames
    _ = (given members name).getLast?.toList := by rw [member?_eq]

/-- The value of an object that stands for a literal. -/
def ofLiteral : Literal → Value
  | .text s => .text s
  | .truth b => .boolean b
  | .number n => .number (.natural n)

theorem reading_fitting : reading.Fitting := by
  intro w v n h
  change readUnsigned w v = .ok n at h
  unfold readUnsigned at h
  split at h
  next =>
    split at h
    next hlt =>
      cases h
      exact hlt
    next => cases h
  next => cases h
  next => cases h

end Json

namespace Config

/-! ## Sections -/

/-- A section of the settings. -/
inductive Section
  | database
  | observability
  | probe
  deriving DecidableEq, Repr

namespace Section

/-- What a section holds. -/
def Settings : Section → Type
  | database => DatabaseSettings
  | observability => ObservabilitySettings
  | probe => ProbeSettings

/-- The fields of a section. -/
def Field : Section → Type
  | database => DatabaseField
  | observability => ObservabilityField
  | probe => ProbeField

def fieldName : (x : Section) → x.Field → String
  | database => DatabaseField.name
  | observability => ObservabilityField.name
  | probe => ProbeField.name

def kind : (x : Section) → x.Field → Kind
  | database => DatabaseField.kind
  | observability => ObservabilityField.kind
  | probe => ProbeField.kind

/-- The value of a field. -/
def get : (x : Section) → x.Field → x.Settings → Datum
  | database => DatabaseField.get
  | observability => ObservabilityField.get
  | probe => ProbeField.get

/-- The settings of a section that is not written at all. -/
def default : (x : Section) → x.Settings
  | database => ({} : DatabaseSettings)
  | observability => ({} : ObservabilitySettings)
  | probe => ({} : ProbeSettings)

def shape {ε β : Type} (r : Reading ε β) : (x : Section) → Shape ε β x.Settings
  | database => databaseShape r
  | observability => observabilityShape r
  | probe => probeShape r

/-- A section out of a document. -/
def ofToml (x : Section) (document : String) : Except ConfigError x.Settings :=
  (ofTomlText document).bind (readRecord (x.shape reading))

/-- A section out of the members of an object. -/
def ofJson (x : Section) (members : List (String × Json.Value)) : Except Json.Mismatch x.Settings :=
  Json.readRecord (x.shape Json.reading) (.object members)

/-- The fields, as they are listed in the settings. -/
def fields : (x : Section) → List x.Field
  | database => DatabaseField.all
  | observability => ObservabilityField.all
  | probe => ProbeField.all

section Facts

variable {ε β : Type} {r : Reading ε β} (x : Section)

theorem mem_fields (i : x.Field) : i ∈ x.fields := by
  cases x with
  | database => exact DatabaseField.mem_all i
  | observability => exact ObservabilityField.mem_all i
  | probe => exact ProbeField.mem_all i

theorem nodup_fields : x.fields.Nodup := by
  cases x with
  | database => exact (by decide : DatabaseField.all.Nodup)
  | observability => exact (by decide : ObservabilityField.all.Nodup)
  | probe => exact (by decide : ProbeField.all.Nodup)

theorem base_shape : (x.shape r).base = x.default := by
  cases x <;> rfl

theorem shape_told (hr : r.Fitting) : (x.shape r).Told x.fieldName (fun i => (x.kind i).readWith r) x.get := by
  cases x with
  | database => exact databaseShape_toldWith hr
  | observability => exact observabilityShape_toldWith hr
  | probe => exact probeShape_toldWith hr

theorem get_injective {s s' : x.Settings} (h : ∀ i, x.get i s = x.get i s') : s = s' := by
  cases x with
  | database => exact DatabaseField.get_injective h
  | observability => exact ObservabilityField.get_injective h
  | probe => exact ProbeField.get_injective h

theorem plain_fieldName (i : x.Field) : Plain (x.fieldName i) := by
  cases x with
  | database => cases i <;> decide
  | observability => cases i <;> decide
  | probe => cases i <;> decide

end Facts

end Section

/-! ## Parts of sections -/

/-- The datum that a literal stands for. -/
def Datum.ofLiteral : Literal → Datum
  | .text s => .text s
  | .truth b => .truth b
  | .number n => .number n

/-- Whether a literal has the type of a setting and lies in its range; integers stay below `2 ^ 63`. -/
def Kind.Takes : Kind → Literal → Prop
  | text, .text _ => True
  | optionalText, .text _ => True
  | truth, .truth _ => True
  | number w, .number n => n < w.bound ∧ n < 2 ^ 63
  | _, _ => False

instance (k : Kind) (v : Literal) : Decidable (k.Takes v) :=
  match k, v with
  | .text, .text _ | .optionalText, .text _ | .truth, .truth _ => .isTrue trivial
  | .number w, .number n => @instDecidableAnd (n < w.bound) (n < 2 ^ 63) (Nat.decLt ..) (Nat.decLt ..)
  | .text, .truth _ | .text, .number _ | .optionalText, .truth _ | .optionalText, .number _ => .isFalse id
  | .truth, .text _ | .truth, .number _ | .number _, .text _ | .number _, .truth _ => .isFalse id

/-- Values for some fields of a section. -/
structure Part (x : Section) where
  value : x.Field → Option Literal
  takes : ∀ i v, value i = some v → (x.kind i).Takes v

namespace Part

variable {x : Section} (p : Part x)

/-- What a field comes to: its value, or its default. -/
def datum (i : x.Field) : Datum := ((p.value i).map Datum.ofLiteral).getD (x.get i x.default)

/-- Entries that give the fields their values, each once, and nothing to the other fields. Keys that are no fields may
have any values, and all entries may stand in any order. -/
def GivenBy {α : Type} (write : Literal → α) (es : List (String × α)) : Prop :=
  ∀ i, given es (x.fieldName i) = ((p.value i).map write).toList

end Part

/-! ## Reading a part -/

section Literals

variable {k : Kind} {v : Literal}

/-- A literal of the right type is read leniently as what it stands for. -/
theorem Kind.Takes.read (h : k.Takes v) (o : Origin) :
    (Value.ofToml o (Toml.ofLiteral v)).IsScalar ∧
      k.readWith reading (Value.ofToml o (Toml.ofLiteral v)) = .ok (Datum.ofLiteral v) := by
  have hdatum : k.ofToml? (Toml.ofLiteral v) = some (Datum.ofLiteral v) := by
    cases k <;> cases v <;> first | exact absurd h id | rfl | skip
    case number.number w n =>
      have hrange : (0 : Int) ≤ n ∧ (n : Int) < w.bound := by
        have hlt : n < w.bound := h.1
        omega
      exact if_pos hrange
  obtain ⟨hscalar, hread⟩ := Kind.read_ofToml (o := o) hdatum
  exact ⟨hscalar, (congrFun k.readWith_reading _).trans hread⟩

/-- A literal of the right type is read strictly as what it stands for. -/
theorem Kind.Takes.readJson (h : k.Takes v) :
    k.readWith Json.reading (Json.ofLiteral v) = .ok (Datum.ofLiteral v) := by
  cases k <;> cases v <;> first | exact absurd h id | rfl | skip
  case number.number w n =>
    have hread : Json.readUnsigned w (.number (.natural n)) = .ok n := if_pos h.1
    exact congrArg (Except.map Datum.number) hread

end Literals

/-- Entries that give every field one readable value or none are stored. -/
theorem Shape.Told.stored {ε β α ι γ : Type} {s : Shape ε β α} {name : ι → String} {read : ι → β → Except ε γ}
    {get : ι → α → γ} (told : s.Told name read get) (inField : String → ε → ε) {es : List (String × β)}
    {bs : ι → Option β} (hgiven : ∀ i, given es (name i) = (bs i).toList) {ds : ι → γ}
    (hread : ∀ i b, bs i = some b → read i b = .ok (ds i)) {a : α} (hkept : ∀ i, bs i = none → get i a = ds i) :
    ∃ a', s.storeEntries inField es a = .ok a' ∧ ∀ i, get i a' = ds i := by
  have hreadable : ∀ i, ∀ b ∈ given es (name i), ∃ c, read i b = .ok c := by
    intro i b hb
    rw [hgiven i, Option.mem_toList] at hb
    exact ⟨ds i, hread i b hb⟩
  obtain ⟨a', hok, hlast⟩ := told.storeEntries inField es hreadable a
  refine ⟨a', hok, ?_⟩
  intro i
  have hi := hlast i
  rw [hgiven i] at hi
  cases hb : bs i with
  | none =>
    rw [hb] at hi
    exact (Except.ok.inj hi).symm.trans (hkept i hb)
  | some b =>
    rw [hb] at hi
    exact Except.ok.inj (hi.symm.trans (hread i b hb))

namespace Part

variable {x : Section} (p : Part x)

/-- A field without a value has its default. -/
theorem datum_of_none {i : x.Field} (h : p.value i = none) : p.datum i = x.get i x.default := by
  simp [datum, h]

theorem datum_of_some {i : x.Field} {v : Literal} (h : p.value i = some v) : p.datum i = Datum.ofLiteral v := by
  simp [datum, h]

/-- Fields that are given their values by entries come to what the part says. -/
theorem stored {ε β : Type} {r : Reading ε β} (hr : r.Fitting) {write : Literal → β}
    (hread : ∀ i v, (x.kind i).Takes v → (x.kind i).readWith r (write v) = .ok (Datum.ofLiteral v))
    (inField : String → ε → ε) {es : List (String × β)} (h : p.GivenBy write es) :
    ∃ a, (x.shape r).ofEntries inField es = .ok a ∧ ∀ i, x.get i a = p.datum i := by
  refine (x.shape_told hr).stored inField h ?_ ?_
  · intro i b hb
    obtain ⟨v, hv, rfl⟩ := Option.map_eq_some_iff.1 hb
    rw [p.datum_of_some hv]
    exact hread i v (p.takes i v hv)
  · intro i hb
    rw [p.datum_of_none (Option.map_eq_none_iff.1 hb), x.base_shape]

/-- Members give a part to an object. -/
theorem ofJson {members : List (String × Json.Value)} (h : p.GivenBy Json.ofLiteral members) :
    ∃ s, x.ofJson members = .ok s ∧ ∀ i, x.get i s = p.datum i := by
  have hsorted : p.GivenBy Json.ofLiteral (Json.sortedMembers members) := by
    intro i
    rw [Json.given_sortedMembers, h i]
    cases (p.value i).map Json.ofLiteral <;> rfl
  exact p.stored Json.reading_fitting (fun _ _ => Kind.Takes.readJson) (fun _ e => e) hsorted

/-- A document with plain keys gives a part. -/
theorem ofToml {document : String} {es : List (String × Toml.Value)} (hes : Toml.parse? document = some es)
    (hplain : ∀ e ∈ es, Plain e.1) (h : p.GivenBy Toml.ofLiteral es) :
    ∃ s, x.ofToml document = .ok s ∧ ∀ i, x.get i s = p.datum i := by
  -- plain keys are no paths, so the document makes one layer, which is taken over key by key
  have hlayer : ∀ e ∈ Value.entriesOfToml none es, Plain e.1 := by
    intro e he
    rw [entriesOfToml_eq_map] at he
    obtain ⟨e', he', rfl⟩ := List.mem_map.1 he
    exact hplain e' he'
  have hrooted : (Value.entriesOfToml none es).map rooted = Value.entriesOfToml none es := by
    calc (Value.entriesOfToml none es).map rooted
        = (Value.entriesOfToml none es).map id := by
          apply List.map_congr_left
          intro e he
          simp [rooted, (hlayer e he).ofText]
      _ = Value.entriesOfToml none es := List.map_id _
  have hdocument : ofTomlText document = .ok (.table (overlayEntries [] (Value.entriesOfToml none es)) none) := by
    have hformat : Format.toml.parse? none document = some (Value.entriesOfToml none es) := by
      simp [Format.parse?, hes]
    have hshallow : ∀ layer ∈ [Value.entriesOfToml none es], ∀ e ∈ layer, Shallow e.1 := by
      intro layer hmem e he
      rw [List.mem_singleton.1 hmem] at he
      exact .root _ (hlayer e he).ofText
    simp only [ofTomlText, hformat, applyLayers_shallow hshallow, List.flatMap_singleton, hrooted]
  -- no field is given twice, so merging leaves each value as it was written
  have hmerged : p.GivenBy (fun v => Value.ofToml none (Toml.ofLiteral v))
      (overlayEntries [] (Value.entriesOfToml none es)) := by
    intro i
    have hgiven : given (Value.entriesOfToml none es) (x.fieldName i) =
        ((p.value i).map fun v => Value.ofToml none (Toml.ofLiteral v)).toList := by
      rw [given_entriesOfToml, h i]
      cases p.value i <;> rfl
    have hscalars : ∀ v ∈ given (Value.entriesOfToml none es) (x.fieldName i), v.IsScalar := by
      intro v hv
      rw [hgiven, Option.mem_toList] at hv
      obtain ⟨w, hw, rfl⟩ := Option.map_eq_some_iff.1 hv
      exact ((p.takes i w hw).read none).1
    rw [given_merged_scalars hscalars, hgiven]
    cases (p.value i).map fun v => Value.ofToml none (Toml.ofLiteral v) <;> rfl
  obtain ⟨s, hok, hget⟩ := p.stored reading_fitting (fun i v hv => (hv.read none).2) ConfigError.inside hmerged
  refine ⟨s, ?_, hget⟩
  rw [Section.ofToml, hdocument]
  exact hok

/-- A part written out: its fields in their order. -/
def entries : List (String × Literal) :=
  x.fields.filterMap fun i => (p.value i).map fun v => (x.fieldName i, v)

theorem givenBy_entries : p.GivenBy id p.entries := by
  intro i
  rw [entries, given_filterMap (x.shape_told reading_fitting).injective p.value x.nodup_fields (.inl (x.mem_fields i)),
    Option.map_id, id]

theorem writable_entries : Toml.Writable p.entries where
  plain := by
    intro e he
    obtain ⟨i, -, hi⟩ := List.mem_filterMap.1 he
    obtain ⟨v, -, rfl⟩ := Option.map_eq_some_iff.1 hi
    exact x.plain_fieldName i
  nodup := by
    have hkeys : Keyed.keys p.entries = (x.fields.filter fun i => (p.value i).isSome).map x.fieldName := by
      unfold entries Keyed.keys
      induction x.fields with
      | nil => rfl
      | cons i is ih => cases hv : p.value i <;> simp [hv, ih]
    rw [hkeys]
    exact List.Nodup.map (x.shape_told reading_fitting).injective (x.nodup_fields.filter _)
  fits := by
    intro e he
    obtain ⟨i, -, hi⟩ := List.mem_filterMap.1 he
    obtain ⟨v, hv, rfl⟩ := Option.map_eq_some_iff.1 hi
    have htakes := p.takes i v hv
    cases v with
    | text s => exact trivial
    | truth b => exact trivial
    | number n =>
      cases hk : x.kind i with
      | number w =>
        rw [hk] at htakes
        exact htakes.2
      | _ =>
        rw [hk] at htakes
        exact htakes.elim

end Part

/-- A section that is written in part has, for each field, the value that was written or else the default; and one
reading differs from the other neither by the way types are taken nor by the syntax. This goes for every choice of
fields and of values of their types, for every document in TOML with plain keys and every object in JSON that give
these values to these fields, in whatever order and with whatever else under other keys; and every such choice can be
written, with any further plain keys. -/
theorem partial_section_keeps_defaults (x : Section) (p : Part x) :
    ∃ settings : x.Settings,
      (∀ s, s = settings ↔ ∀ i, x.get i s = p.datum i) ∧
      (∀ document es, Toml.parse? document = some es → (∀ e ∈ es, Plain e.1) → p.GivenBy Toml.ofLiteral es →
        x.ofToml document = .ok settings) ∧
      (∀ members, p.GivenBy Json.ofLiteral members → x.ofJson members = .ok settings) ∧
      (∀ es, Toml.Writable es → p.GivenBy id es →
        x.ofToml (Toml.write es) = .ok settings ∧
          x.ofJson (es.map fun e => (e.1, Json.ofLiteral e.2)) = .ok settings) ∧
      ∃ es, Toml.Writable es ∧ p.GivenBy id es := by
  have hwritten : ∀ {α : Type} (write : Literal → α) {es : List (String × Literal)}, p.GivenBy id es →
      p.GivenBy write (es.map fun e => (e.1, write e.2)) := by
    intro α write es h i
    rw [given_map, h i, Option.map_id, id]
    cases p.value i <;> rfl
  obtain ⟨settings, -, hget⟩ := p.ofJson (hwritten Json.ofLiteral p.givenBy_entries)
  have hsame : ∀ s, (∀ i, x.get i s = p.datum i) → s = settings := by
    intro s hs
    exact x.get_injective fun i => (hs i).trans (hget i).symm
  have htoml : ∀ document es, Toml.parse? document = some es → (∀ e ∈ es, Plain e.1) → p.GivenBy Toml.ofLiteral es →
      x.ofToml document = .ok settings := by
    intro document es hes hplain h
    obtain ⟨s, hok, hs⟩ := p.ofToml hes hplain h
    rw [hok, hsame s hs]
  have hjson : ∀ members, p.GivenBy Json.ofLiteral members → x.ofJson members = .ok settings := by
    intro members h
    obtain ⟨s, hok, hs⟩ := p.ofJson h
    rw [hok, hsame s hs]
  refine ⟨settings, ?_, htoml, hjson, ?_, p.entries, p.writable_entries, p.givenBy_entries⟩
  · intro s
    constructor
    · rintro rfl
      exact hget
    · exact hsame s
  · intro es hes h
    refine ⟨htoml _ _ (Toml.parse?_write hes) ?_ (hwritten Toml.ofLiteral h), hjson _ (hwritten Json.ofLiteral h)⟩
    intro e he
    obtain ⟨e', he', rfl⟩ := List.mem_map.1 he
    exact hes.plain e' he'

/-- Two fields of one section. -/
def portAndLogs : Part .observability where
  value
    | ObservabilityField.metricsPort => some (.number 9464)
    | ObservabilityField.jsonLogs => some (.truth true)
    | _ => none
  takes i v h := by
    cases i <;> cases h
    · decide
    · trivial

/-- Two fields that are written around a key that is no field, in one syntax and in the other. -/
theorem partial_section_keeps_defaults_port :
    Section.observability.ofToml "json_logs = true\ncolour = \"red\"\nmetrics_port = 9464\n" =
        .ok ({ metricsPort := 9464, jsonLogs := true } : ObservabilitySettings) ∧
      Section.observability.ofJson
          [("metrics_port", .number (.natural 9464)), ("json_logs", .boolean true), ("colour", .null)] =
        .ok ({ metricsPort := 9464, jsonLogs := true } : ObservabilitySettings) := by
  obtain ⟨settings, hsame, -, hjson, hwrite, -⟩ := partial_section_keeps_defaults .observability portAndLogs
  have hsettings : ({ metricsPort := 9464, jsonLogs := true } : ObservabilitySettings) = settings :=
    (hsame _).2 fun i => by cases i <;> rfl
  have htoml := (hwrite [("json_logs", .truth true), ("colour", .text "red"), ("metrics_port", .number 9464)]
    (by decide) fun i => by cases i <;> rfl).1
  rw [hsettings]
  exact ⟨htoml, hjson _ fun i => by cases i <;> rfl⟩

end Config

end NamedLock
