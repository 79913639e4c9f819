import NamedLock.Proofs.Config.Documents

/-!
# Sources — what files and variables make of settings

A variable says what a setting is by its name, and its text is converted. With files and variables that supply data,
the settings of a service are what the last source says, or else what there is without any source.
-/

namespace NamedLock

namespace Config

/-! ## Variables -/

/-- The datum that the text of a variable is converted to. -/
def Kind.ofText? (k : Kind) (s : String) : Option Datum :=
  (k.read (.scalar (Environment.guess s) (some Environment.origin))).toOption

/-- What variables say about a setting. -/
def Setting.inVariables (f : Setting) (vs : Environment.Variables) : List Datum :=
  (given vs f.variableName).filterMap f.kind.ofText?

/-- A variable that is no key at all, that names the environment, or that sets a setting to what its text is converted
to. -/
inductive Admissible (v : String × String) : Prop
  | foreign (h : Environment.key? v.1 = none)
  | environment (h : v.1 = "LOCK_ENV")
  | setting (f : Setting) (d : Datum) (hname : v.1 = f.variableName) (hconverts : f.kind.ofText? v.2 = some d)

section Variables

variable {v : String × String} {vs : Environment.Variables} {f : Setting}

theorem key?_environment : Environment.key? "LOCK_ENV" = some "env" := by decide +kernel

/-- The variable that names the environment sets no setting. -/
theorem Setting.variableName_ne_environment (f : Setting) : f.variableName ≠ "LOCK_ENV" := by
  intro hname
  have hkey : some f.key = some "env" := by rw [← f.key?_variableName, hname, key?_environment]
  have hno : ∀ f ∈ Setting.all, some f.key ≠ some "env" := by decide +kernel
  exact hno f f.mem_all hkey

theorem environmentName_ofOneVariable (f : Setting) (s : String) :
    environmentName [(f.variableName, s)] = "development" := by
  simp [environmentName, Environment.lookup?, Keyed.get?, f.variableName_ne_environment]

theorem inVariables_of_ne (h : v.1 ≠ f.variableName) : f.inVariables [v] = [] := by
  simp [Setting.inVariables, given_cons, h]

theorem layer_of_setting (f : Setting) (s : String) : Environment.layer [(f.variableName, s)] =
    [(f.key, .scalar (Environment.guess s) (some Environment.origin))] := by
  simp [Environment.layer, Setting.key?_variableName]

/-- An admissible variable supplies what it says. -/
theorem Admissible.supplies (h : Admissible v) : Supplies (Environment.layer [v]) (·.inVariables [v]) := by
  cases h with
  | foreign h =>
    have hlayer : Environment.layer [v] = [] := by simp [Environment.layer, h]
    have hdata : ∀ f : Setting, f.inVariables [v] = [] := by
      intro f
      apply inVariables_of_ne
      rintro hname
      rw [hname, Setting.key?_variableName] at h
      cases h
    rw [hlayer, funext hdata]
    exact .nil
  | environment h =>
    have hlayer : Environment.layer [v] = [("env", .scalar (Environment.guess v.2) (some Environment.origin))] := by
      simp [Environment.layer, h, key?_environment]
    have hdata : ∀ f : Setting, f.inVariables [v] = [] := by
      intro f
      apply inVariables_of_ne
      exact fun hname => f.variableName_ne_environment (hname.symm.trans h)
    rw [hlayer, funext hdata]
    refine .passedOver (by decide +kernel) (by decide) ?_
    intro f hf
    cases f <;> first | decide | cases hf
  | setting f d hname hconverts =>
    have hlayer : Environment.layer [v] = [(f.key, .scalar (Environment.guess v.2) (some Environment.origin))] := by
      rw [← layer_of_setting, ← hname]
    have hread : f.kind.read (.scalar (Environment.guess v.2) (some Environment.origin)) = .ok d := by
      unfold Kind.ofText? at hconverts
      cases hr : f.kind.read (.scalar (Environment.guess v.2) (some Environment.origin)) with
      | error e => simp [hr, Except.toOption] at hconverts
      | ok d' => simpa [hr, Except.toOption] using hconverts
    have hdata : ∀ g : Setting, g.inVariables [v] = if g = f then [d] else [] := by
      intro g
      split_ifs with hg
      · subst hg
        simp [Setting.inVariables, given_cons, hname, hconverts]
      · apply inVariables_of_ne
        rw [hname]
        exact fun h => hg (Setting.variableName_injective h).symm
    rw [hlayer, funext hdata]
    exact .placed ⟨_, _, rfl⟩ hread

theorem variables_supply (h : ∀ v ∈ vs, Admissible v) : Supplies (Environment.layer vs) (·.inVariables vs) := by
  have hlayer : Environment.layer vs = vs.flatMap fun v => Environment.layer [v] := by
    clear h
    induction vs with
    | nil => rfl
    | cons v vs ih =>
      rw [List.flatMap_cons, ← ih]
      cases hkey : Environment.key? v.1 <;> simp [Environment.layer, hkey]
  have hdata : (fun f : Setting => f.inVariables vs) = fun f => vs.flatMap fun v => f.inVariables [v] := by
    funext f
    clear h hlayer
    induction vs with
    | nil => rfl
    | cons v vs ih =>
      rw [List.flatMap_cons, ← ih]
      simp only [Setting.inVariables, ← List.filterMap_append, ← given_append, List.singleton_append]
  rw [hlayer, hdata]
  exact .flatMap vs fun v hv => (h v hv).supplies

end Variables

/-! ## The settings of a service -/

/-- What a setting is when no source says anything. -/
def Setting.fallback (service env : String) : Setting → Datum
  | .serviceName => .text service
  | .environment => .text env
  | f => f.get {}

section Load

variable {service : String} {vs : Environment.Variables} {files : Files} {layerOf : FilePath → Layer}

/-- The names of the service and of the environment stand below everything else. -/
theorem baseLayer_supplies (service environment : String) : Supplies (baseLayer service environment) fun f =>
    (if f = .serviceName then [.text service] else []) ++ (if f = .environment then [.text environment] else []) := by
  have hkeys : baseLayer service environment =
      [(Setting.serviceName.key, .scalar (.text service) none)] ++
        [(Setting.environment.key, .scalar (.text environment) none)] := by
    have hservice : Setting.serviceName.key = "service_name" := by decide
    have henvironment : Setting.environment.key = "environment" := by decide
    rw [hservice, henvironment]
    rfl
  rw [hkeys]
  exact (Supplies.placed ⟨_, _, rfl⟩ rfl).append (.placed ⟨_, _, rfl⟩ rfl)

/-- Files that can be read give one layer each. -/
theorem mapM_fileLayer (ps : List FilePath) (h : ∀ p ∈ ps, fileLayer files p = .ok (layerOf p)) :
    ps.mapM (fileLayer files) = .ok (ps.map layerOf) := by
  induction ps with
  | nil => rfl
  | cons p ps ih =>
    obtain ⟨hp, hps⟩ := List.forall_mem_cons.1 h
    rw [List.mapM_cons, hp, ih hps]
    rfl

/-- The base, then the files, then the variables. -/
theorem layers_of_files (h : ∀ p ∈ configFiles service vs, fileLayer files p = .ok (layerOf p)) :
    layers service vs files = .ok
      (baseLayer service (environmentName vs) :: (configFiles service vs).map layerOf ++ [Environment.layer vs]) := by
  simp only [layers, mapM_fileLayer _ h]
  rfl

/-- When files and variables supply data, the settings are what the last of them says, or what there is without any. -/
theorem load_of_supplies {ofFile : FilePath → Setting → List Datum} {ofVariables : Setting → List Datum}
    (hfiles : ∀ p ∈ configFiles service vs, fileLayer files p = .ok (layerOf p) ∧ Supplies (layerOf p) (ofFile p))
    (hvariables : Supplies (Environment.layer vs) ofVariables) :
    ∃ app, load service vs files = .ok app ∧ ∀ f : Setting, f.get app =
      (((configFiles service vs).flatMap fun p => ofFile p f) ++ ofVariables f).getLast?.getD
        (f.fallback service (environmentName vs)) := by
  have hsupplies := (baseLayer_supplies service (environmentName vs)).append
    ((Supplies.flatMap (configFiles service vs) fun p hp => (hfiles p hp).2).append hvariables)
  have hflatten : baseLayer service (environmentName vs) ++
      ((configFiles service vs).flatMap layerOf ++ Environment.layer vs) =
        (baseLayer service (environmentName vs) :: (configFiles service vs).map layerOf ++
          [Environment.layer vs]).flatten := by
    simp [List.flatMap_def]
  rw [hflatten] at hsupplies
  obtain ⟨app, hok, hget⟩ := hsupplies.readRecord
  refine ⟨app, ?_, ?_⟩
  · rw [load, layers_of_files fun p hp => (hfiles p hp).1]
    exact hok
  · intro f
    rw [hget f, List.getLast?_append]
    cases f <;> simp [Setting.fallback, Setting.get]

/-- Where there are no files, none supplies anything. -/
theorem missing_supplies (p : FilePath) : fileLayer (fun _ => none) p = .ok [] ∧ Supplies [] fun _ => [] :=
  ⟨fileLayer_of_missing rfl fun _ _ => rfl, .nil⟩

/-- Loading from one variable and no files: its setting is what its text is converted to, and the others are as without
any source. -/
theorem load_ofOneVariable {f : Setting} {s : String} {d : Datum} (service : String) (hd : f.kind.ofText? s = some d) :
    ∃ app, load service [(f.variableName, s)] (fun _ => none) = .ok app ∧
      ∀ g : Setting, g.get app = if g = f then d else g.fallback service "development" := by
  have hadmissible : ∀ v ∈ [(f.variableName, s)], Admissible v := by
    intro v hv
    rw [List.mem_singleton.1 hv]
    exact .setting f d rfl hd
  have hvariables : ∀ g : Setting, g.inVariables [(f.variableName, s)] = if g = f then [d] else [] := by
    intro g
    split_ifs with hg
    · subst hg
      simp [Setting.inVariables, given_cons, hd]
    · exact inVariables_of_ne fun h => hg (Setting.variableName_injective h).symm
  obtain ⟨app, hok, hget⟩ := load_of_supplies (fun p _ => missing_supplies p) (variables_supply hadmissible)
  refine ⟨app, hok, ?_⟩
  intro g
  rw [hget g, hvariables, environmentName_ofOneVariable]
  split_ifs <;> simp [configFiles]

end Load

end Config

end NamedLock
