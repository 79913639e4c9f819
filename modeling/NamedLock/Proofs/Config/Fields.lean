import NamedLock.Config.Reading
import NamedLock.Proofs.Config.Merging

/-!
# Fields — settings one by one

A record is read by storing entries one after the other. Its fields can be told apart: storing a value in one field
leaves the others as they are. So each field comes out as the last value given for it reads, or with its default, and
this carries over from the sections to all settings, and through the merging of what was given.
-/

namespace NamedLock

namespace Config

/-! ## Values of settings -/

/-- The value of a setting. -/
inductive Datum
  | absent
  | text (s : String)
  | truth (b : Bool)
  | number (n : Nat)
  deriving DecidableEq, Repr

/-- What kind of value a setting has. -/
inductive Kind
  | text
  | optionalText
  | truth
  | number (w : Width)
  deriving DecidableEq, Repr

/-- Reads the value of a setting of this kind. -/
def Kind.read : Kind → Value → Except ConfigError Datum
  | text, v => (readText v).map .text
  | optionalText, v => (readOptionalText v).map fun s => s.elim .absent .text
  | truth, v => (readBoolean v).map .truth
  | number w, v => (readUnsigned w v).map .number

/-- Reads the value of a setting of this kind in any way. -/
def Kind.readWith {ε β : Type} (r : Reading ε β) : Kind → β → Except ε Datum
  | text, b => (r.text b).map .text
  | optionalText, b => (r.optionalText b).map fun s => s.elim .absent .text
  | truth, b => (r.boolean b).map .truth
  | number w, b => (r.unsigned w b).map .number

theorem Kind.readWith_reading (k : Kind) : k.readWith reading = k.read := by
  cases k <;> rfl

/-- A way to read in which every number fits the width of its field. -/
def Reading.Fitting {ε β : Type} (r : Reading ε β) : Prop := ∀ w b n, r.unsigned w b = .ok n → n < w.bound

theorem map_eq_ok_iff {ε α β : Type} {f : α → β} {r : Except ε α} {b : β} :
    r.map f = .ok b ↔ ∃ a, r = .ok a ∧ f a = b := by
  cases r <;> simp [Except.map]

/-- A number that was read fits its width. -/
theorem lt_of_readUnsigned {w : Width} {v : Value} {n : Nat} (h : readUnsigned w v = .ok n) : n < w.bound := by
  unfold readUnsigned at h
  split at h
  next => cases h
  next m _ =>
    split at h
    next hlt =>
      cases h
      exact hlt
    next => cases h

theorem reading_fitting : reading.Fitting := fun _ _ _ => lt_of_readUnsigned

/-- How the last of some values reads; without one, the default. -/
def lastRead {ε β γ : Type} (read : β → Except ε γ) (default : γ) (bs : List β) : Except ε γ :=
  bs.getLast?.elim (.ok default) read

section LastRead

variable {ε β γ : Type} {read : β → Except ε γ} {default : γ}

theorem lastRead_cons {b : β} {c : γ} (h : read b = .ok c) (bs : List β) :
    lastRead read default (b :: bs) = lastRead read c bs := by
  unfold lastRead
  rw [List.getLast?_cons]
  cases bs.getLast? with
  | none => exact h
  | some b' => rfl

/-- Only the last value matters. -/
theorem lastRead_getLast? (bs : List β) : lastRead read default bs.getLast?.toList = lastRead read default bs := by
  unfold lastRead
  cases bs.getLast? <;> rfl

/-- What is read may be wrapped before or after. -/
theorem lastRead_wrap {δ : Type} (wrap : γ → δ) (bs : List β) :
    lastRead (fun b => (read b).map wrap) (wrap default) bs = (lastRead read default bs).map wrap := by
  unfold lastRead
  cases bs.getLast? <;> rfl

theorem lastRead_of_wrap {δ : Type} {wrap : γ → δ} (hwrap : Function.Injective wrap) {bs : List β} {c : γ}
    (h : lastRead (fun b => (read b).map wrap) (wrap default) bs = .ok (wrap c)) : lastRead read default bs = .ok c := by
  rw [lastRead_wrap] at h
  obtain ⟨c', hc', heq⟩ := map_eq_ok_iff.1 h
  rw [hc', hwrap heq]

theorem lastRead_of_map {bs : List β} {cs : List γ} (h : bs.map read = cs.map .ok) :
    lastRead read default bs = .ok (cs.getLast?.getD default) := by
  have hlast := congrArg List.getLast? h
  rw [List.getLast?_map, List.getLast?_map] at hlast
  unfold lastRead
  cases hb : bs.getLast? with
  | none =>
    cases hc : cs.getLast? with
    | none => rfl
    | some c => simp [hb, hc] at hlast
  | some b =>
    cases hc : cs.getLast? with
    | none => simp [hb, hc] at hlast
    | some c => simpa [hb, hc] using hlast

end LastRead

/-! ## Records whose fields can be told apart -/

/-- The fields of a record, by an index: each is stored from what it reads, and storing it leaves the others as they
are. -/
structure Shape.Told {ε β α ι γ : Type} (s : Shape ε β α) (name : ι → String) (read : ι → β → Except ε γ)
    (get : ι → α → γ) : Prop where
  injective : Function.Injective name
  names : ∃ is : List ι, s.fields.map (·.name) = is.map name
  stores : ∀ i b a c, read i b = .ok c → ∃ f, s.field? (name i) = some f ∧
    ∃ a', f.store b a = .ok a' ∧ get i a' = c ∧ ∀ j, j ≠ i → get j a' = get j a

/-- Every field has an index. -/
theorem Shape.Told.named {ε β α ι γ : Type} {s : Shape ε β α} {name : ι → String} {read : ι → β → Except ε γ}
    {get : ι → α → γ} (h : s.Told name read get) {k : String} {f : Field ε β α} (hf : s.field? k = some f) :
    ∃ i, name i = k := by
  have hname : f.name = k := by simpa using List.find?_some hf
  have hmem : f.name ∈ s.fields.map (·.name) := List.mem_map_of_mem (List.mem_of_find?_eq_some hf)
  obtain ⟨is, his⟩ := h.names
  rw [his, hname] at hmem
  obtain ⟨i, -, hi⟩ := List.mem_map.1 hmem
  exact ⟨i, hi⟩

/-- A field that is stored by setting what was read. -/
theorem stored_of_set {ε β α ι γ δ : Type} {readAs : β → Except ε δ} {wrap : δ → γ} {set : δ → α → α} {get : ι → α → γ}
    {i : ι} {b : β} {a : α} {c : γ} (hc : (readAs b).map wrap = .ok c)
    (self : ∀ d, readAs b = .ok d → get i (set d a) = wrap d) (others : ∀ d j, j ≠ i → get j (set d a) = get j a) :
    ∃ a', (readAs b).map (fun d => set d a) = .ok a' ∧ get i a' = c ∧ ∀ j, j ≠ i → get j a' = get j a := by
  obtain ⟨d, hd, rfl⟩ := map_eq_ok_iff.1 hc
  exact ⟨set d a, map_eq_ok_iff.2 ⟨d, hd, rfl⟩, self d hd, others d⟩

/-- Entries that can be read are stored, and each field comes out as the last value given for it reads. -/
theorem Shape.Told.storeEntries {ε β α ι γ : Type} {s : Shape ε β α} {name : ι → String} {read : ι → β → Except ε γ}
    {get : ι → α → γ} (h : s.Told name read get) (inField : String → ε → ε) (es : List (String × β))
    (readable : ∀ i, ∀ b ∈ given es (name i), ∃ c, read i b = .ok c) (a : α) :
    ∃ a', s.storeEntries inField es a = .ok a' ∧
      ∀ i, lastRead (read i) (get i a) (given es (name i)) = .ok (get i a') := by
  induction es generalizing a with
  | nil => exact ⟨a, rfl, fun i => rfl⟩
  | cons e es ih =>
    obtain ⟨k, b⟩ := e
    have hrest : ∀ i, ∀ b ∈ given es (name i), ∃ c, read i b = .ok c := by
      intro i b' hb'
      exact readable i b' (mem_given.2 (List.mem_cons_of_mem _ (mem_given.1 hb')))
    by_cases hk : ∃ i, name i = k
    · -- the entry sets its field to what it reads as, and the entries behind it start from there
      obtain ⟨i, rfl⟩ := hk
      obtain ⟨c, hc⟩ := readable i b (mem_given.2 List.mem_cons_self)
      obtain ⟨f, hf, a₁, hstore, hget, hothers⟩ := h.stores i b a c hc
      obtain ⟨a', hok, hlast⟩ := ih hrest a₁
      have hentry : s.storeEntry inField (name i, b) a = .ok a₁ := by
        simp only [Shape.storeEntry, hf, hstore]
        rfl
      refine ⟨a', ?_, ?_⟩
      · simp only [Shape.storeEntries, hentry]
        exact hok
      · intro j
        rw [given_cons]
        by_cases hj : j = i
        · subst hj
          rw [if_pos rfl, lastRead_cons hc, ← hget]
          exact hlast j
        · rw [if_neg fun hname => hj (h.injective hname.symm), ← hothers j hj]
          exact hlast j
    · -- the entry is passed over
      have hnone : s.field? k = none := by
        cases hf : s.field? k with
        | none => rfl
        | some f => exact absurd (h.named hf) hk
      obtain ⟨a', hok, hlast⟩ := ih hrest a
      refine ⟨a', ?_, ?_⟩
      · simp only [Shape.storeEntries, Shape.storeEntry, hnone]
        exact hok
      · intro j
        rw [given_cons, if_neg fun hname => hk ⟨j, hname.symm⟩]
        exact hlast j

/-! ## The sections -/

inductive DatabaseField
  | url
  | maxConnections
  | minConnections
  | connectTimeoutSeconds
  | idleTimeoutSeconds
  deriving DecidableEq, Repr

namespace DatabaseField

def all : List DatabaseField := [url, maxConnections, minConnections, connectTimeoutSeconds, idleTimeoutSeconds]

theorem mem_all (i : DatabaseField) : i ∈ all := by
  cases i <;> decide

def name : DatabaseField → String
  | url => "url"
  | maxConnections => "max_connections"
  | minConnections => "min_connections"
  | connectTimeoutSeconds => "connect_timeout_seconds"
  | idleTimeoutSeconds => "idle_timeout_seconds"

def kind : DatabaseField → Kind
  | url => .text
  | maxConnections => .number .bits32
  | minConnections => .number .bits32
  | connectTimeoutSeconds => .number .bits64
  | idleTimeoutSeconds => .number .bits64

def get : DatabaseField → DatabaseSettings → Datum
  | url, s => .text s.url
  | maxConnections, s => .number s.maxConnections.toNat
  | minConnections, s => .number s.minConnections.toNat
  | connectTimeoutSeconds, s => .number s.connectTimeoutSeconds.toNat
  | idleTimeoutSeconds, s => .number s.idleTimeoutSeconds.toNat

/-- A section is known by the values of its fields. -/
theorem get_injective {s s' : DatabaseSettings} (h : ∀ i : DatabaseField, i.get s = i.get s') : s = s' := by
  have hurl := h .url
  have hmax := h .maxConnections
  have hmin := h .minConnections
  have hconnect := h .connectTimeoutSeconds
  have hidle := h .idleTimeoutSeconds
  cases s
  cases s'
  simp_all [get, UInt32.toNat_inj, UInt64.toNat_inj]

end DatabaseField

inductive ObservabilityField
  | serviceName
  | otlpEndpoint
  | metricsPort
  | metricsEnabled
  | logLevel
  | jsonLogs
  deriving DecidableEq, Repr

namespace ObservabilityField

def all : List ObservabilityField := [serviceName, otlpEndpoint, metricsPort, metricsEnabled, logLevel, jsonLogs]

theorem mem_all (i : ObservabilityField) : i ∈ all := by
  cases i <;> decide

def name : ObservabilityField → String
  | serviceName => "service_name"
  | otlpEndpoint => "otlp_endpoint"
  | metricsPort => "metrics_port"
  | metricsEnabled => "metrics_enabled"
  | logLevel => "log_level"
  | jsonLogs => "json_logs"

def kind : ObservabilityField → Kind
  | serviceName => .text
  | otlpEndpoint => .optionalText
  | metricsPort => .number .bits16
  | metricsEnabled => .truth
  | logLevel => .text
  | jsonLogs => .truth

def get : ObservabilityField → ObservabilitySettings → Datum
  | serviceName, s => .text s.serviceName
  | otlpEndpoint, s => s.otlpEndpoint.elim .absent .text
  | metricsPort, s => .number s.metricsPort.toNat
  | metricsEnabled, s => .truth s.metricsEnabled
  | logLevel, s => .text s.logLevel
  | jsonLogs, s => .truth s.jsonLogs

theorem get_injective {s s' : ObservabilitySettings} (h : ∀ i : ObservabilityField, i.get s = i.get s') : s = s' := by
  have hname := h .serviceName
  have hendpoint := h .otlpEndpoint
  have hport := h .metricsPort
  have henabled := h .metricsEnabled
  have hlevel := h .logLevel
  have hjson := h .jsonLogs
  rcases s with ⟨_, endpoint, _, _, _, _⟩
  rcases s' with ⟨_, endpoint', _, _, _, _⟩
  -- an endpoint that is absent differs from one with any text
  cases endpoint <;> cases endpoint' <;> simp_all [get, UInt16.toNat_inj]

end ObservabilityField

inductive ProbeField
  | resourceId
  | lockClass
  | holdSeconds
  deriving DecidableEq, Repr

namespace ProbeField

def all : List ProbeField := [resourceId, lockClass, holdSeconds]

theorem mem_all (i : ProbeField) : i ∈ all := by
  cases i <;> decide

def name : ProbeField → String
  | resourceId => "resource_id"
  | lockClass => "lock_class"
  | holdSeconds => "hold_seconds"

def kind : ProbeField → Kind
  | resourceId => .text
  | lockClass => .text
  | holdSeconds => .number .bits64

def get : ProbeField → ProbeSettings → Datum
  | resourceId, s => .text s.resourceId
  | lockClass, s => .text s.lockClass
  | holdSeconds, s => .number s.holdSeconds.toNat

theorem get_injective {s s' : ProbeSettings} (h : ∀ i : ProbeField, i.get s = i.get s') : s = s' := by
  have hid := h .resourceId
  have hclass := h .lockClass
  have hhold := h .holdSeconds
  cases s
  cases s'
  simp_all [get, UInt64.toNat_inj]

end ProbeField

section Stored

variable {ε β α ι : Type} {r : Reading ε β} {name : String} {get : ι → α → Datum} {i : ι} {b : β} {a : α} {c : Datum}

theorem textField_stored {set : String → α → α} (hc : Kind.text.readWith r b = .ok c)
    (self : ∀ s, get i (set s a) = .text s) (others : ∀ s j, j ≠ i → get j (set s a) = get j a) :
    ∃ a', (textField r name set).store b a = .ok a' ∧ get i a' = c ∧ ∀ j, j ≠ i → get j a' = get j a :=
  stored_of_set hc (fun s _ => self s) others

theorem optionalTextField_stored {set : Option String → α → α} (hc : Kind.optionalText.readWith r b = .ok c)
    (self : ∀ s, get i (set s a) = s.elim .absent .text) (others : ∀ s j, j ≠ i → get j (set s a) = get j a) :
    ∃ a', (optionalTextField r name set).store b a = .ok a' ∧ get i a' = c ∧ ∀ j, j ≠ i → get j a' = get j a :=
  stored_of_set hc (fun s _ => self s) others

theorem booleanField_stored {set : Bool → α → α} (hc : Kind.truth.readWith r b = .ok c)
    (self : ∀ t, get i (set t a) = .truth t) (others : ∀ t j, j ≠ i → get j (set t a) = get j a) :
    ∃ a', (booleanField r name set).store b a = .ok a' ∧ get i a' = c ∧ ∀ j, j ≠ i → get j a' = get j a :=
  stored_of_set hc (fun t _ => self t) others

theorem unsignedField_stored (hr : r.Fitting) {w : Width} {set : Nat → α → α}
    (hc : (Kind.number w).readWith r b = .ok c) (self : ∀ n, n < w.bound → get i (set n a) = .number n)
    (others : ∀ n j, j ≠ i → get j (set n a) = get j a) :
    ∃ a', (unsignedField r w name set).store b a = .ok a' ∧ get i a' = c ∧ ∀ j, j ≠ i → get j a' = get j a :=
  stored_of_set hc (fun n hn => self n (hr w b n hn)) others

end Stored

theorem number_bits16 {n : Nat} (h : n < Width.bits16.bound) : Datum.number (UInt16.ofNat n).toNat = .number n :=
  congrArg Datum.number (UInt16.toNat_ofNat_of_lt' h)

theorem number_bits32 {n : Nat} (h : n < Width.bits32.bound) : Datum.number (UInt32.ofNat n).toNat = .number n :=
  congrArg Datum.number (UInt32.toNat_ofNat_of_lt' h)

theorem number_bits64 {n : Nat} (h : n < Width.bits64.bound) : Datum.number (UInt64.ofNat n).toNat = .number n :=
  congrArg Datum.number (UInt64.toNat_ofNat_of_lt' h)

section Told

variable {ε β : Type} {r : Reading ε β} (hr : r.Fitting)

include hr

theorem databaseShape_toldWith :
    (databaseShape r).Told DatabaseField.name (fun i => i.kind.readWith r) DatabaseField.get where
  injective := by
    intro i j h
    cases i <;> cases j <;> first | rfl | exact absurd h (by decide)
  names := ⟨[.url, .maxConnections, .minConnections, .connectTimeoutSeconds, .idleTimeoutSeconds], rfl⟩
  stores := by
    intro i b a c hc
    cases i
    case' url => refine ⟨_, rfl, textField_stored hc (fun s => rfl) ?_⟩
    case' maxConnections => refine ⟨_, rfl, unsignedField_stored hr hc (fun _ => number_bits32) ?_⟩
    case' minConnections => refine ⟨_, rfl, unsignedField_stored hr hc (fun _ => number_bits32) ?_⟩
    case' connectTimeoutSeconds => refine ⟨_, rfl, unsignedField_stored hr hc (fun _ => number_bits64) ?_⟩
    case' idleTimeoutSeconds => refine ⟨_, rfl, unsignedField_stored hr hc (fun _ => number_bits64) ?_⟩
    -- each sets its own field and no other one
    all_goals
      intro d j hj
      cases j <;> first | rfl | exact absurd rfl hj

theorem observabilityShape_toldWith :
    (observabilityShape r).Told ObservabilityField.name (fun i => i.kind.readWith r) ObservabilityField.get where
  injective := by
    intro i j h
    cases i <;> cases j <;> first | rfl | exact absurd h (by decide)
  names := ⟨[.serviceName, .otlpEndpoint, .metricsPort, .metricsEnabled, .logLevel, .jsonLogs], rfl⟩
  stores := by
    intro i b a c hc
    cases i
    case' serviceName => refine ⟨_, rfl, textField_stored hc (fun s => rfl) ?_⟩
    case' otlpEndpoint => refine ⟨_, rfl, optionalTextField_stored hc (fun s => rfl) ?_⟩
    case' metricsPort => refine ⟨_, rfl, unsignedField_stored hr hc (fun _ => number_bits16) ?_⟩
    case' metricsEnabled => refine ⟨_, rfl, booleanField_stored hc (fun t => rfl) ?_⟩
    case' logLevel => refine ⟨_, rfl, textField_stored hc (fun s => rfl) ?_⟩
    case' jsonLogs => refine ⟨_, rfl, booleanField_stored hc (fun t => rfl) ?_⟩
    -- each sets its own field and no other one
    all_goals
      intro d j hj
      cases j <;> first | rfl | exact absurd rfl hj

theorem probeShape_toldWith :
    (probeShape r).Told ProbeField.name (fun i => i.kind.readWith r) ProbeField.get where
  injective := by
    intro i j h
    cases i <;> cases j <;> first | rfl | exact absurd h (by decide)
  names := ⟨[.resourceId, .lockClass, .holdSeconds], rfl⟩
  stores := by
    intro i b a c hc
    cases i
    case' resourceId => refine ⟨_, rfl, textField_stored hc (fun s => rfl) ?_⟩
    case' lockClass => refine ⟨_, rfl, textField_stored hc (fun s => rfl) ?_⟩
    case' holdSeconds => refine ⟨_, rfl, unsignedField_stored hr hc (fun _ => number_bits64) ?_⟩
    -- each sets its own field and no other one
    all_goals
      intro d j hj
      cases j <;> first | rfl | exact absurd rfl hj

end Told

/-! ### Read leniently -/

theorem databaseShape_told :
    (databaseShape reading).Told DatabaseField.name (fun i => i.kind.read) DatabaseField.get := by
  simpa only [Kind.readWith_reading] using databaseShape_toldWith reading_fitting

theorem observabilityShape_told :
    (observabilityShape reading).Told ObservabilityField.name (fun i => i.kind.read) ObservabilityField.get := by
  simpa only [Kind.readWith_reading] using observabilityShape_toldWith reading_fitting

theorem probeShape_told :
    (probeShape reading).Told ProbeField.name (fun i => i.kind.read) ProbeField.get := by
  simpa only [Kind.readWith_reading] using probeShape_toldWith reading_fitting

end Config

end NamedLock
