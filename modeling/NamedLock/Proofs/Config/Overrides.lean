import NamedLock.Proofs.Config.Lookup

/-!
# Overrides — texts out of variables

The text of a variable is taken for a truth value, an integer or a number when it reads as one, and a setting that
holds a text takes what was read in its written form. So a text that a file gives is kept as it stands, while one that
a variable gives comes back rewritten: leading zeros, a plus sign, an exponent or capital letters may get lost.
-/

namespace NamedLock

namespace Config

/-- What a text becomes on its way through a variable: a truth value in small letters, the digits of an integer, the
plain form of any other number, and else the text itself. -/
def Environment.rewritten (s : String) : String :=
  if Text.lower s = "true" ∨ Text.lower s = "false" then Text.lower s
  else
    match Number.readSigned64? s, Number.readReal? s with
    | some n, _ => Number.showInt n
    | none, some x => Number.plainLayout.write x
    | none, none => s

/-- A setting that holds a text, or perhaps none. -/
def Setting.HoldsText (f : Setting) : Prop := f.kind = .text ∨ f.kind = .optionalText

/-- A document that says one thing only: that a setting is this text. -/
structure SaysOnly (f : Setting) (s : String) (es : List (String × Toml.Value)) : Prop where
  proper : Proper es
  self : f.inDocument es = [.text s]
  others : ∀ g : Setting, g ≠ f → g.inDocument es = []

section Text

variable {f : Setting} {s : String} {o : Origin}

open Environment

/-- Whatever the text of a variable is taken for, it is written out again. -/
theorem readText_guess (s : String) : readText (.scalar (guess s) o) = .ok (rewritten s) := by
  by_cases htrue : Text.lower s = "true"
  · simp [guess, rewritten, htrue, readText, showBoolean]
  by_cases hfalse : Text.lower s = "false"
  · simp [guess, rewritten, hfalse, readText, showBoolean]
  cases hinteger : Number.readSigned64? s with
  | some n => simp [guess, rewritten, htrue, hfalse, hinteger, readText]
  | none =>
    cases hreal : Number.readReal? s with
    | some x => simp [guess, rewritten, htrue, hfalse, hinteger, hreal, readText]
    | none => simp [guess, rewritten, htrue, hfalse, hinteger, hreal, readText]

theorem readOptionalText_guess (s : String) : readOptionalText (.scalar (guess s) o) = .ok (some (rewritten s)) := by
  have hread : readText (.scalar (guess s) o) = .ok (rewritten s) := readText_guess s
  cases hguess : guess s with
  | nothing =>
    -- no text is taken for nothing
    rw [hguess] at hread
    cases hread
  | boolean b => exact map_eq_ok_iff.2 ⟨_, hguess ▸ hread, rfl⟩
  | integer n => exact map_eq_ok_iff.2 ⟨_, hguess ▸ hread, rfl⟩
  | natural n => exact map_eq_ok_iff.2 ⟨_, hguess ▸ hread, rfl⟩
  | real x => exact map_eq_ok_iff.2 ⟨_, hguess ▸ hread, rfl⟩
  | text t => exact map_eq_ok_iff.2 ⟨_, hguess ▸ hread, rfl⟩

theorem ofText?_text (hf : f.HoldsText) (s : String) : f.kind.ofText? s = some (.text (rewritten s)) := by
  have hread : f.kind.read (.scalar (guess s) (some origin)) = .ok (.text (rewritten s)) := by
    rcases hf with hkind | hkind <;> rw [hkind]
    · exact map_eq_ok_iff.2 ⟨_, readText_guess s, rfl⟩
    · exact map_eq_ok_iff.2 ⟨_, readOptionalText_guess s, rfl⟩
  rw [Kind.ofText?, hread]
  rfl

/-- Loading from one variable: the setting is the rewritten text, the others are as without any source. -/
theorem load_inOneVariable (hf : f.HoldsText) (service s : String) :
    ∃ app, load service [(f.variableName, s)] (fun _ => none) = .ok app ∧
      ∀ g : Setting, g.get app = if g = f then .text (rewritten s) else g.fallback service "development" :=
  load_ofOneVariable service (ofText?_text hf s)

/-- Loading from one file: the setting is the text as it stands, the others are as without any source. -/
theorem load_inOneFile {service : String} {p : FilePath} {text : String} {es : List (String × Toml.Value)}
    (hservice : Plain service) (hp : p ∈ configFiles service []) (htext : Toml.parse? (dropMark text) = some es)
    (hes : SaysOnly f s es) :
    ∃ app, load service [] (soleFile p text) = .ok app ∧
      ∀ g : Setting, g.get app = if g = f then .text s else g.fallback service "development" := by
  have hdocuments : ∀ q ∈ configFiles service [], ∀ t, soleFile p text q = some t →
      ∃ es, Toml.parse? (dropMark t) = some es ∧ Proper es := by
    intro q _ t ht
    obtain ⟨-, rfl⟩ := soleFile_eq_some_iff.1 ht
    exact ⟨es, htext, hes.proper⟩
  have hnone : ∀ q, q ∉ configFiles service [] → soleFile p text q = none := by
    intro q hq
    apply soleFile_of_ne
    rintro rfl
    exact hq hp
  have henvironment : Plain (environmentName []) := by decide
  obtain ⟨app, hok, hget⟩ := load_of_documents hservice henvironment hnone hdocuments .nil
  refine ⟨app, hok, ?_⟩
  intro g
  have hdocument : ∀ q, document (soleFile p text) q = if q = p then es else [] := by
    intro q
    split_ifs with hq
    · simp [document, hq, htext]
    · simp [document, soleFile_of_ne hq]
  have hempty : ∀ g : Setting, g.inDocument [] = [] := by
    intro g
    cases g <;> rfl
  rw [hget g, List.append_nil]
  by_cases hg : g = f
  · -- the file may stand for several layers, which then all say the same
    subst hg
    have hmem : Datum.text s ∈ (configFiles service []).flatMap fun q => g.inDocument (document (soleFile p text) q) :=
      List.mem_flatMap.2 ⟨p, hp, by simp [hdocument, hes.self]⟩
    have hall : ∀ d ∈ (configFiles service []).flatMap fun q => g.inDocument (document (soleFile p text) q), d = .text s := by
      intro d hd
      obtain ⟨q, -, hdq⟩ := List.mem_flatMap.1 hd
      rw [hdocument] at hdq
      split_ifs at hdq
      · rw [hes.self] at hdq
        exact List.mem_singleton.1 hdq
      · rw [hempty] at hdq
        cases hdq
    rw [if_pos rfl]
    cases hlast : ((configFiles service []).flatMap fun q => g.inDocument (document (soleFile p text) q)).getLast? with
    | none => exact absurd (List.getLast?_eq_none_iff.1 hlast ▸ hmem) List.not_mem_nil
    | some d => exact hall d (List.mem_of_getLast? hlast)
  · have hsilent : ∀ q, g.inDocument (document (soleFile p text) q) = [] := by
      intro q
      rw [hdocument]
      split_ifs
      · exact hes.others g hg
      · exact hempty g
    rw [if_neg hg]
    simp [hsilent, configFiles, environmentName, lookup?]

end Text

/-- A text setting can be set to any text by its variable, but takes what this text is rewritten to. So the variable
comes to the same as a file that says this text just when the text is rewritten to itself. -/
theorem text_override_rewritten {f : Setting} (hf : f.HoldsText) (service s : String) :
    ∃ byVariable, load service [(f.variableName, s)] (fun _ => none) = .ok byVariable ∧
      f.get byVariable = .text (Environment.rewritten s) ∧
      (∀ g : Setting, g ≠ f → g.get byVariable = g.fallback service "development") ∧
      ∀ p text es, Plain service → p ∈ configFiles service [] → Toml.parse? (dropMark text) = some es →
        SaysOnly f s es →
        ∃ byFile, load service [] (soleFile p text) = .ok byFile ∧ f.get byFile = .text s ∧
          (byVariable = byFile ↔ Environment.rewritten s = s) := by
  obtain ⟨byVariable, hvariable, hgetVariable⟩ := load_inOneVariable hf service s
  refine ⟨byVariable, hvariable, ?_, ?_, ?_⟩
  · rw [hgetVariable f, if_pos rfl]
  · intro g hg
    rw [hgetVariable g, if_neg hg]
  · intro p text es hservice hp htext hes
    obtain ⟨byFile, hloaded, hgetFile⟩ := load_inOneFile hservice hp htext hes
    refine ⟨byFile, hloaded, ?_, ?_⟩
    · rw [hgetFile f, if_pos rfl]
    · constructor
      · intro hsame
        have htexts := hgetVariable f
        rw [hsame, hgetFile f, if_pos rfl, if_pos rfl] at htexts
        exact (Datum.text.inj htexts).symm
      · intro hkept
        apply Setting.get_injective
        intro g
        rw [hgetVariable g, hgetFile g, hkept]

/-- Seven with leading zeros: a file keeps them, a variable does not. -/
theorem text_override_drops_zeros :
    ∃ byVariable byFile, load "lock-probe" [("LOCK_PROBE__RESOURCE_ID", "007")] (fun _ => none) = .ok byVariable ∧
      load "lock-probe" [] (soleFile ⟨false, ["config", "default.toml"]⟩ "[probe]\nresource_id = \"007\"\n") =
        .ok byFile ∧
      byVariable.probe.resourceId = "7" ∧ byFile.probe.resourceId = "007" ∧ byVariable ≠ byFile := by
  have hname : (Setting.probe .resourceId).variableName = "LOCK_PROBE__RESOURCE_ID" := by decide +kernel
  have hseven : Environment.rewritten "007" = "7" := by decide +kernel
  have hpath : configFile [] "default" = ⟨false, ["config", "default.toml"]⟩ :=
    configFile_eq_of_default (by decide) (by decide)
  have htext : Toml.parse? (dropMark "[probe]\nresource_id = \"007\"\n") =
      some [("probe", .table [("resource_id", .text "007")])] := by decide +kernel
  have hsays : SaysOnly (.probe .resourceId) "007" [("probe", .table [("resource_id", .text "007")])] := by
    constructor
    case proper => decide +kernel
    case self => decide +kernel
    case others =>
      have hall : ∀ g ∈ Setting.all, g ≠ .probe .resourceId →
          g.inDocument [("probe", .table [("resource_id", .text "007")])] = [] := by decide +kernel
      exact fun g => hall g g.mem_all
  obtain ⟨byVariable, hvariable, hgetVariable, -, hfiles⟩ :=
    text_override_rewritten (f := .probe .resourceId) (.inl rfl) "lock-probe" "007"
  obtain ⟨byFile, hfile, hgetFile, hsame⟩ :=
    hfiles (configFile [] "default") _ _ (by decide) List.mem_cons_self htext hsays
  rw [hname] at hvariable
  rw [hpath] at hfile
  rw [hseven] at hgetVariable hsame
  refine ⟨byVariable, byFile, hvariable, hfile, Datum.text.inj hgetVariable, Datum.text.inj hgetFile, ?_⟩
  intro heq
  exact absurd (hsame.1 heq) (by decide)

/-- So a variable is not taken literally. -/
theorem text_override_not_literal : ¬ ∀ s : String, ∃ app,
    load "lock-probe" [("LOCK_PROBE__RESOURCE_ID", s)] (fun _ => none) = .ok app ∧ app.probe.resourceId = s := by
  intro hliteral
  obtain ⟨app, hok, hid⟩ := hliteral "007"
  have hseven : load "lock-probe" [("LOCK_PROBE__RESOURCE_ID", "007")] (fun _ => none) =
      .ok { serviceName := "lock-probe", environment := "development", probe := { resourceId := "7" } } := by
    decide +kernel
  rw [hseven] at hok
  cases hok
  exact absurd hid (by decide)

end Config

end NamedLock
