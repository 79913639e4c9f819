import NamedLock.Proofs.Config.Sources

/-!
# Lookup — each setting comes from the last source that defines it

The merging of files and variables amounts to one look-up for each setting: the file for all programs, the file of the
environment, the file of the service and the variables, in this order; the last one that says anything about the setting
decides. A setting that none of them mentions has its default.
-/

namespace NamedLock

namespace Config

/-- The entries of the configuration file at a path; a missing file has none. -/
def document (files : Files) (p : FilePath) : List (String × Toml.Value) :=
  ((files p).bind fun s => Toml.parse? (dropMark s)).getD []

/-- Everything that sources say about a setting, lowest source first. -/
def Setting.definitions (f : Setting) (service : String) (vs : Environment.Variables) (files : Files) : List Datum :=
  ((configFiles service vs).flatMap fun p => f.inDocument (document files p)) ++ f.inVariables vs

section Files

variable {service : String} {vs : Environment.Variables} {files : Files} {p : FilePath}

theorem proper_nil : Proper [] := by decide

/-- A configuration file has a plain name. -/
theorem mem_configFiles (hservice : Plain service) (henvironment : Plain (environmentName vs))
    (hp : p ∈ configFiles service vs) : ∃ name, Plain name ∧ p = configFile vs name := by
  rcases List.mem_cons.1 hp with rfl | hp
  · exact ⟨"default", by decide, rfl⟩
  rcases List.mem_cons.1 hp with rfl | hp
  · exact ⟨environmentName vs, henvironment, rfl⟩
  rcases List.mem_cons.1 hp with rfl | hp
  · exact ⟨service, hservice, rfl⟩
  · cases hp

/-- With no other files around, the layer of a configuration file is made of its document, and of nothing when it is
missing. -/
theorem fileLayer_eq (hservice : Plain service) (henvironment : Plain (environmentName vs))
    (hothers : ∀ p, p ∉ configFiles service vs → files p = none)
    (hp : p ∈ configFiles service vs)
    (hdocument : ∀ s, files p = some s → ∃ es, Toml.parse? (dropMark s) = some es) :
    fileLayer files p = .ok (Value.entriesOfToml (some p.text) (document files p)) := by
  obtain ⟨name, hname, rfl⟩ := mem_configFiles hservice henvironment hp
  cases hfile : files (configFile vs name) with
  | none =>
    -- the paths with a further ending name no configuration file, so nothing is found there either
    have hfurther : ∀ q ∈ furtherPaths (configFile vs name), files q.1 = none := by
      intro q hq
      apply hothers
      intro hmem
      obtain ⟨name', hname', heq⟩ := mem_configFiles hservice henvironment hmem
      exact configFile_ne_further hname hname' hq heq
    rw [fileLayer_of_missing hfile hfurther, document, hfile]
    rfl
  | some s =>
    obtain ⟨es, hes⟩ := hdocument s hfile
    have hdoc : document files (configFile vs name) = es := by simp [document, hfile, hes]
    rw [fileLayer_of_toml hfile (ending?_configFile hname) hes, hdoc]

/-- Loading files whose documents are proper, below variables that supply data. -/
theorem load_of_documents {ofVariables : Setting → List Datum} (hservice : Plain service)
    (henvironment : Plain (environmentName vs)) (hothers : ∀ p, p ∉ configFiles service vs → files p = none)
    (hdocuments : ∀ p ∈ configFiles service vs, ∀ s, files p = some s →
      ∃ es, Toml.parse? (dropMark s) = some es ∧ Proper es)
    (hvariables : Supplies (Environment.layer vs) ofVariables) :
    ∃ app, load service vs files = .ok app ∧ ∀ f : Setting, f.get app =
      (((configFiles service vs).flatMap fun p => f.inDocument (document files p)) ++ ofVariables f).getLast?.getD
        (f.fallback service (environmentName vs)) := by
  have hfiles : ∀ p ∈ configFiles service vs,
      fileLayer files p = .ok (Value.entriesOfToml (some p.text) (document files p)) ∧
        Supplies (Value.entriesOfToml (some p.text) (document files p)) (·.inDocument (document files p)) := by
    intro p hp
    have hproper : Proper (document files p) := by
      unfold document
      cases hfile : files p with
      | none => exact proper_nil
      | some s =>
        obtain ⟨es, hes, hproper⟩ := hdocuments p hp s hfile
        simpa [hes] using hproper
    refine ⟨fileLayer_eq hservice henvironment hothers hp ?_, hproper.supplies _⟩
    intro s hs
    obtain ⟨es, hes, -⟩ := hdocuments p hp s hs
    exact ⟨es, hes⟩
  exact load_of_supplies hfiles hvariables

end Files

/-- Loading succeeds, and each setting is what the last source that defines it says; without one it has its default,
the name of the service being the one that is asked for, and the environment the one that variables name. -/
theorem load_last_definition {service : String} {vs : Environment.Variables} {files : Files}
    (hservice : Plain service) (henvironment : Plain (environmentName vs))
    (hothers : ∀ p, p ∉ configFiles service vs → files p = none)
    (hdocuments : ∀ p ∈ configFiles service vs, ∀ s, files p = some s →
      ∃ es, Toml.parse? (dropMark s) = some es ∧ Proper es)
    (hvariables : ∀ v ∈ vs, Admissible v) :
    ∃ app, load service vs files = .ok app ∧ ∀ f : Setting, f.get app =
      (f.definitions service vs files).getLast?.getD (f.fallback service (environmentName vs)) := by
  have hsupplies : Supplies (Environment.layer vs) (·.inVariables vs) := variables_supply hvariables
  exact load_of_documents hservice henvironment hothers hdocuments hsupplies

/-- One file, for all programs and for the environment of the same name, and one variable above it. -/
theorem load_default_file_and_variable :
    load "lock-probe" [("LOCK_ENV", "default"), ("LOCK_PROBE__HOLD_SECONDS", "7")]
        (soleFile ⟨false, ["config", "default.toml"]⟩ "[probe]\nlock_class = \"imports\"\nhold_seconds = 5\n") =
      .ok { serviceName := "lock-probe", environment := "default",
            probe := { lockClass := "imports", holdSeconds := 7 } } := by
  generalize hvs : [("LOCK_ENV", "default"), ("LOCK_PROBE__HOLD_SECONDS", "7")] = vs
  have henvironment : environmentName vs = "default" := by
    rw [← hvs]
    decide
  have hpath : ∀ name, Plain name → configFile vs name = ⟨false, ["config", name ++ ".toml"]⟩ :=
    fun name => configFile_eq_of_default (by rw [← hvs]; decide)
  have hes : Toml.parse? (dropMark "[probe]\nlock_class = \"imports\"\nhold_seconds = 5\n") =
      some [("probe", .table [("lock_class", .text "imports"), ("hold_seconds", .integer 5)])] := by decide +kernel
  generalize heq : [("probe", Toml.Value.table [("lock_class", .text "imports"), ("hold_seconds", .integer 5)])] = es
    at hes
  rw [show (⟨false, ["config", "default.toml"]⟩ : FilePath) = configFile vs "default" from
    (hpath "default" (by decide)).symm]
  generalize "[probe]\nlock_class = \"imports\"\nhold_seconds = 5\n" = text at hes ⊢
  have hothers : ∀ p, p ∉ configFiles "lock-probe" vs → soleFile (configFile vs "default") text p = none := by
    intro p hp
    apply soleFile_of_ne
    rintro rfl
    exact hp List.mem_cons_self
  have hdocuments : ∀ p ∈ configFiles "lock-probe" vs, ∀ s, soleFile (configFile vs "default") text p = some s →
      ∃ es, Toml.parse? (dropMark s) = some es ∧ Proper es := by
    intro p hp s hs
    obtain ⟨-, rfl⟩ := soleFile_eq_some_iff.1 hs
    refine ⟨es, hes, ?_⟩
    rw [← heq]
    decide +kernel
  have hvariables : ∀ v ∈ vs, Admissible v := by
    subst hvs
    intro v hv
    rcases List.mem_cons.1 hv with rfl | hv
    · exact .environment rfl
    · rw [List.mem_singleton.1 hv]
      exact .setting (.probe .holdSeconds) (.number 7) (by decide +kernel) (by decide +kernel)
  obtain ⟨app, hok, hget⟩ := load_last_definition (by decide) (henvironment ▸ by decide) hothers hdocuments hvariables
  have hdefinitions : ∀ f : Setting, f.definitions "lock-probe" vs (soleFile (configFile vs "default") text) =
      f.inDocument es ++ f.inDocument es ++ f.inVariables vs := by
    intro f
    have hnone : f.inDocument [] = [] := by cases f <;> rfl
    have hother : configFile vs "lock-probe" ≠ configFile vs "default" := by
      rw [hpath "lock-probe" (by decide), hpath "default" (by decide)]
      decide
    simp [Setting.definitions, configFiles, henvironment, document, soleFile_of_ne hother, hes, hnone]
  have hall : ∀ f ∈ Setting.all,
      (f.inDocument es ++ f.inDocument es ++ f.inVariables vs).getLast?.getD (f.fallback "lock-probe" "default") =
        f.get { serviceName := "lock-probe", environment := "default",
                probe := { lockClass := "imports", holdSeconds := 7 } } := by
    subst heq hvs
    decide +kernel
  rw [hok]
  apply congrArg Except.ok
  apply Setting.get_injective
  intro f
  rw [hget f, hdefinitions f, henvironment]
  exact hall f f.mem_all

end Config

end NamedLock
