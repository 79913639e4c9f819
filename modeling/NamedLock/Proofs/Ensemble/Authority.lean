import NamedLock.Proofs.Ensemble.Turnover

/-!
# Authority — who may commit a session

Sessions that registries open are attributed: each belongs to one grant, is at one place of the registries at most,
and is not committed as long as it is there. A release is the only way to take it out of a table and to commit it,
and a release needs the token. Backends may answer as they like, also grant one key twice; sessions and handles
outside of the registries may do what they like with sessions of their own.
-/

namespace NamedLock

open Ensemble

variable {σ : Type}

/-- The sessions that registries opened are where they belong, and were committed by release only. -/
structure Run.Attributed (r : Run σ) : Prop where
  tidy : r.ensemble.Tidy
  told : r.ensemble.world.traffic = r.history.flatMap (·.traffic)
  bounded : ∀ s g, Opened r.history s g → s ≤ r.ensemble.world.begins
  unique : ∀ s g g', Opened r.history s g → Opened r.history s g' → g = g'
  elsewhere : ∀ s, r.ensemble.Elsewhere s → s ≤ r.ensemble.world.begins ∧ ∀ g, ¬Opened r.history s g
  lines : ∀ p s g, r.ensemble.filed p = some (s, g) →
    Opened r.history s g ∧ .asked s .commit ∉ r.ensemble.world.traffic
  entries : ∀ i id s g, r.ensemble.filed (.entry i id) = some (s, g) → g ∈ granted r.history
  apart : r.ensemble.LinesApart Prod.fst
  fresh : ∀ s, r.ensemble.world.begins < s → .asked s .commit ∉ r.ensemble.world.traffic
  once : ∀ s g, Opened r.history s g → r.ensemble.world.traffic.count (.asked s .commit) ≤ 1
  released : ∀ (k : Nat) (m : Moment) s g, r.history[k]? = some m → Opened r.history s g →
    .asked s .commit ∈ m.traffic →
      (∃ name, m.event = .unlock name g.token g.registry) ∧ g ∈ granted (r.history.take k)

theorem Run.attributed_start (st : σ) (n : Nat) : Run.Attributed { ensemble := .ofBackend st n } where
  tidy := tidy_ofBackend st n
  told := rfl
  bounded := by simp [Opened]
  unique := by simp [Opened]
  elsewhere s hs := by
    cases hs with
    | session on h => cases h
    | handle on e hon hs => cases hon
    | call name c hc hs => cases hc
  lines := by simp
  entries := by simp
  apart := by simp [LinesApart]
  fresh s _ := List.not_mem_nil
  once := by simp [Opened]
  released k m s g hk := by cases hk

/-- A change from outside concerns no registry. -/
theorem Run.Attributed.outside {b : Backend σ} {r : Run σ} (h : r.Attributed) (f : σ → σ) :
    (r.advance b (.outside f)).Attributed where
  tidy := h.tidy.same rfl fun _ _ _ => id
  told := h.told
  bounded := h.bounded
  unique := h.unique
  elsewhere s hs := h.elsewhere s hs.of_world
  lines p s g hp := h.lines p s g ((filed_outside r f p).symm.trans hp)
  entries i id s g hp := h.entries i id s g ((filed_outside r f _).symm.trans hp)
  apart p q x y hp hq := h.apart p q x y ((filed_outside r f p).symm.trans hp) ((filed_outside r f q).symm.trans hq)
  fresh := h.fresh
  once := h.once
  released := h.released

namespace Run.Attributed

section Step

variable {r : Run σ} {ens' : Ensemble σ} {m : Moment} {s : SessionId} {g g' : Grant}

/-- The next session is not one of those that were asked for. -/
theorem not_le_of_next {n : Nat} (hs : s = n + 1) : ¬s ≤ n := by
  subst hs
  exact Nat.not_succ_le_self n

/-- An acquisition opens the next session. -/
theorem opens_eq (t : Turnover r.ensemble ens' m) (ho : m.Opens s g) :
    s = r.ensemble.world.begins + 1 ∧ s ≤ ens'.world.begins := by
  obtain ⟨⟨name, he⟩, hs⟩ := ho
  exact t.opened (by simp [he, Event.asked?]) s hs

theorem opens_unique (ho : m.Opens s g) (ho' : m.Opens s g') : g = g' := by
  obtain ⟨⟨name, he⟩, -⟩ := ho
  obtain ⟨⟨name', he'⟩, -⟩ := ho'
  rw [he] at he'
  rcases g with ⟨i, token, key⟩
  rcases g' with ⟨i', token', key'⟩
  cases he'
  rfl

theorem le_of_foreign (h : r.Attributed) (t : Turnover r.ensemble ens' m)
    (hs : r.ensemble.Foreign ens' m.event s) : s ≤ ens'.world.begins := by
  rcases hs with hs | ⟨-, hle, -⟩
  · exact Nat.le_trans (h.elsewhere s hs).1 t.begins
  · exact hle

/-- A foreign session was opened by no acquisition. -/
theorem not_opened_of_foreign (h : r.Attributed) (t : Turnover r.ensemble ens' m)
    (hs : r.ensemble.Foreign ens' m.event s) : ¬Opened (r.history ++ [m]) s g := by
  rcases hs with hs | ⟨rfl, hle, hask⟩
  · obtain ⟨hle, hno⟩ := h.elsewhere s hs
    intro ho
    rcases (opened_concat _ _ _ _).1 ho with ho | ho
    · exact hno g ho
    · exact not_le_of_next (opens_eq t ho).1 hle
  · intro ho
    rcases (opened_concat _ _ _ _).1 ho with ho | ho
    · exact not_le_of_next rfl (h.bounded _ _ ho)
    · obtain ⟨⟨name, he⟩, -⟩ := ho
      simp [he, Event.asked?] at hask

/-- The acquisition that an event carries on has its session from an opening, this one or an earlier one. -/
theorem opened_of_carries (h : r.Attributed) {name : String} (hc : r.ensemble.Carries name s g m.event)
    (begun : m.event.asked? ≠ none → .asked s .begin ∈ m.traffic) :
    Opened (r.history ++ [m]) s g ∧ .asked s .commit ∉ r.ensemble.world.traffic := by
  rw [opened_concat]
  generalize he : m.event = e at hc begun
  cases hc with
  | starts hs =>
    refine ⟨.inr ⟨⟨name, he⟩, begun (by simp [Event.asked?])⟩, h.fresh s ?_⟩
    exact hs ▸ Nat.lt_succ_self _
  | goesOn line =>
    obtain ⟨ho, hno⟩ := h.lines _ s g line
    exact ⟨.inl ho, hno⟩

/-- Acquisitions and entries after an event: opened, and not committed. -/
theorem lines_step (h : r.Attributed) (t : Turnover r.ensemble ens' m) (p : Place) (hp : ens'.filed p = some (s, g)) :
    Opened (r.history ++ [m]) s g ∧ .asked s .commit ∉ ens'.world.traffic := by
  have hold : ∀ p s g, r.ensemble.filed p = some (s, g) →
      Opened (r.history ++ [m]) s g ∧ .asked s .commit ∉ r.ensemble.world.traffic := by
    intro p s g hline
    obtain ⟨ho, hno⟩ := h.lines p s g hline
    exact ⟨(opened_concat _ _ _ _).2 (.inl ho), hno⟩
  -- a session stays uncommitted unless this very moment commits it
  have hjoin : Opened (r.history ++ [m]) s g ∧ .asked s .commit ∉ r.ensemble.world.traffic →
      .asked s .commit ∉ m.traffic → Opened (r.history ++ [m]) s g ∧ .asked s .commit ∉ ens'.world.traffic := by
    rintro ⟨ho, hno⟩ hm
    refine ⟨ho, ?_⟩
    rw [t.told, List.mem_append]
    rintro (hs | hs)
    · exact hno hs
    · exact hm hs
  cases t.turns with
  | rests _ _ lines _ committed =>
    have hline := hold p s g (lines p _ hp)
    exact hjoin hline fun hm => h.not_opened_of_foreign t (committed s hm) hline.1
  | waits name s₀ g₀ carries begun _ _ lines committed =>
    refine hjoin ?_ (committed s)
    rcases lines p _ hp with ⟨-, he⟩ | ⟨hline, -⟩
    · cases he
      exact h.opened_of_carries carries begun
    · exact hold p s g hline
  | files name s₀ g₀ reg e carries begun _ _ _ _ _ lines committed =>
    refine hjoin ?_ (committed s)
    rcases lines p _ hp with ⟨-, he⟩ | ⟨hline, -⟩
    · cases he
      exact h.opened_of_carries carries begun
    · exact hold p s g hline
  | takes name s₀ g₀ reg id _ _ line _ lines committed =>
    obtain ⟨hne, hline⟩ := lines p _ hp
    refine hjoin (hold p s g hline) ?_
    obtain ⟨rest, hrest, hno⟩ := committed
    rw [hrest]
    intro hm
    rcases List.mem_cons.1 hm with hm | hm
    · cases hm
      exact hne (h.apart p _ _ _ hline line rfl)
    · exact hno s hm

/-- A session that an acquisition opened is committed by a release with its token, which finds it in the table. -/
theorem committed_step (h : r.Attributed) (t : Turnover r.ensemble ens' m) (ho : Opened (r.history ++ [m]) s g)
    (hs : .asked s .commit ∈ m.traffic) :
    (∃ name, m.event = .unlock name g.token g.registry) ∧ m.traffic.count (.asked s .commit) = 1 ∧
      ∃ i id, r.ensemble.filed (.entry i id) = some (s, g) := by
  cases t.turns with
  | rests _ _ _ _ committed => exact absurd ho (h.not_opened_of_foreign t (committed s hs))
  | waits _ _ _ _ _ _ _ _ committed => exact absurd hs (committed s)
  | files _ _ _ _ _ _ _ _ _ _ _ _ _ committed => exact absurd hs (committed s)
  | takes name s₀ g₀ reg id event here line _ _ committed =>
    obtain ⟨rest, hrest, hno⟩ := committed
    rw [hrest] at hs
    rcases List.mem_cons.1 hs with hs | hs
    · cases hs
      -- the entry is of the grant that the session was opened for
      have hsame : g = g₀ := by
        have ho₀ := (h.lines _ s g₀ line).1
        rcases (opened_concat _ _ _ _).1 ho with ho | ho
        · exact h.unique s g g₀ ho ho₀
        · exact absurd (h.bounded s g₀ ho₀) (not_le_of_next (opens_eq t ho).1)
      subst hsame
      refine ⟨⟨name, event⟩, ?_, g.registry, id, line⟩
      rw [hrest, List.count_cons_self, List.count_eq_zero_of_not_mem (hno s)]
    · exact absurd hs (hno s)

theorem entries_step (h : r.Attributed) (t : Turnover r.ensemble ens' m) {i : Nat} {id : String}
    (hp : ens'.filed (.entry i id) = some (s, g)) : g ∈ granted (r.history ++ [m]) := by
  rw [granted_concat, List.mem_append]
  cases t.turns with
  | rests _ _ lines _ _ => exact .inl (h.entries i id s g (lines _ _ hp))
  | waits name s₀ g₀ _ _ _ _ lines _ =>
    rcases lines _ _ hp with ⟨he, -⟩ | ⟨hline, -⟩
    · cases he
    · exact .inl (h.entries i id s g hline)
  | files name s₀ g₀ reg e _ _ _ _ _ _ grant lines _ =>
    rcases lines _ _ hp with ⟨-, he⟩ | ⟨hline, -⟩
    · cases he
      simp [grant]
    · exact .inl (h.entries i id s g hline)
  | takes name s₀ g₀ reg id _ _ _ _ lines _ => exact .inl (h.entries i _ s g (lines _ _ hp).2)

theorem apart_step (h : r.Attributed) (t : Turnover r.ensemble ens' m) : ens'.LinesApart Prod.fst := by
  refine t.turns.apart h.apart ?_
  rintro g - q ⟨s, g'⟩ hline hs
  exact not_le_of_next hs (h.bounded s g' (h.lines q s g' hline).1)

theorem fresh_step (h : r.Attributed) (t : Turnover r.ensemble ens' m) (hs : ens'.world.begins < s) :
    .asked s .commit ∉ ens'.world.traffic := by
  rw [t.told, List.mem_append]
  rintro (hold | hnew)
  · exact h.fresh s (Nat.lt_of_le_of_lt t.begins hs) hold
  · cases t.turns with
    | rests _ _ _ _ committed => exact Nat.not_le_of_lt hs (h.le_of_foreign t (committed s hnew))
    | waits _ _ _ _ _ _ _ _ committed => exact committed s hnew
    | files _ _ _ _ _ _ _ _ _ _ _ _ _ committed => exact committed s hnew
    | takes name s₀ g₀ reg id _ _ line _ _ committed =>
      obtain ⟨rest, hrest, hno⟩ := committed
      rw [hrest] at hnew
      rcases List.mem_cons.1 hnew with hnew | hnew
      · cases hnew
        have hbound := h.bounded s g₀ (h.lines _ s g₀ line).1
        exact Nat.not_le_of_lt hs (Nat.le_trans hbound t.begins)
      · exact hno s hnew

theorem once_step (h : r.Attributed) (t : Turnover r.ensemble ens' m) (ho : Opened (r.history ++ [m]) s g) :
    ens'.world.traffic.count (.asked s .commit) ≤ 1 := by
  rw [t.told, List.count_append]
  by_cases hs : .asked s .commit ∈ m.traffic
  · -- found in the table, so it was not committed before
    obtain ⟨-, hone, i, id, hline⟩ := h.committed_step t ho hs
    have hzero := List.count_eq_zero_of_not_mem (h.lines _ s g hline).2
    omega
  · have hnone := List.count_eq_zero_of_not_mem hs
    rcases (opened_concat _ _ _ _).1 ho with ho | ho
    · have hone := h.once s g ho
      omega
    · have hfresh := h.fresh s ((opens_eq t ho).1 ▸ Nat.lt_succ_self _)
      have hzero := List.count_eq_zero_of_not_mem hfresh
      omega

theorem released_step (h : r.Attributed) (t : Turnover r.ensemble ens' m) {k : Nat} {m' : Moment}
    (hk : (r.history ++ [m])[k]? = some m') (ho : Opened (r.history ++ [m]) s g) (hs : .asked s .commit ∈ m'.traffic) :
    (∃ name, m'.event = .unlock name g.token g.registry) ∧ g ∈ granted ((r.history ++ [m]).take k) := by
  rcases Nat.lt_trichotomy k r.history.length with hlt | heq | hgt
  · rw [List.getElem?_append_left hlt] at hk
    rw [List.take_append_of_le_length (Nat.le_of_lt hlt)]
    rcases (opened_concat _ _ _ _).1 ho with ho | ho
    · exact h.released k m' s g hk ho hs
    · -- a new session was not committed at an earlier moment
      have hfresh := h.fresh s ((opens_eq t ho).1 ▸ Nat.lt_succ_self _)
      rw [h.told] at hfresh
      exact absurd (List.mem_flatMap.2 ⟨m', List.mem_of_getElem? hk, hs⟩) hfresh
  · subst heq
    have hm : m = m' := by simpa using hk
    subst hm
    obtain ⟨hevent, -, i, id, hline⟩ := h.committed_step t ho hs
    refine ⟨hevent, ?_⟩
    rw [List.take_left]
    exact h.entries i id s g hline
  · have hlen : (r.history ++ [m]).length ≤ k := by
      rw [List.length_append]
      exact hgt
    rw [List.getElem?_eq_none hlen] at hk
    cases hk

/-- An event keeps the attribution. -/
theorem event {b : Backend σ} (h : r.Attributed) (e : Event) : (r.advance b (.event e)).Attributed := by
  have t : Turnover r.ensemble (step b r.ensemble e).2 (r.ensemble.moment b e) := step_turnover h.tidy e
  generalize hm : r.ensemble.moment b e = m at t
  generalize hens' : (step b r.ensemble e).2 = ens' at t
  have hr : r.advance b (.event e) = { ensemble := ens', history := r.history ++ [m] } := by
    rw [Run.advance, hm, hens']
  rw [hr]
  exact
    { tidy := t.tidy
      told := by simp [t.told, h.told]
      bounded := by
        intro s g ho
        rcases (opened_concat _ _ _ _).1 ho with ho | ho
        · exact Nat.le_trans (h.bounded s g ho) t.begins
        · exact (opens_eq t ho).2
      unique := by
        intro s g g' ho ho'
        rcases (opened_concat _ _ _ _).1 ho with ho | ho
        · rcases (opened_concat _ _ _ _).1 ho' with ho' | ho'
          · exact h.unique s g g' ho ho'
          · exact absurd (h.bounded s g ho) (not_le_of_next (opens_eq t ho').1)
        · rcases (opened_concat _ _ _ _).1 ho' with ho' | ho'
          · exact absurd (h.bounded s g' ho') (not_le_of_next (opens_eq t ho).1)
          · exact opens_unique ho ho'
      elsewhere := by
        intro s hs
        refine ⟨?_, fun g => h.not_opened_of_foreign t (t.elsewhere s hs)⟩
        exact h.le_of_foreign t (t.elsewhere s hs)
      lines := fun p s g hp => h.lines_step t p hp
      entries := fun i id s g hp => h.entries_step t hp
      apart := h.apart_step t
      fresh := fun s hs => h.fresh_step t hs
      once := fun s g ho => h.once_step t ho
      released := fun k m' s g hk ho hs => h.released_step t hk ho hs }

/-- Every run is attributed, whatever the backend answers. -/
theorem of_run (b : Backend σ) (st : σ) (n : Nat) (hs : List (Happening σ)) : (Run.of b st n hs).Attributed := by
  refine Run.of_induction (attributed_start st n) ?_ hs
  intro r h hr
  cases h with
  | event e => exact hr.event e
  | outside f => exact hr.outside f

end Step

end Run.Attributed

/-! ## Sessions of acquisitions -/

/-- What an acquisition has come to is taken over without anything asked of its session. -/
theorem Ensemble.acquired_leads (b : Backend σ) (ens : Ensemble σ) (name : String) (i : Nat)
    (r : Registry.Acquired × Registry × World σ) : r.2.2.Leads Traffic.Quiet (acquired b ens name i r).2.world := by
  rcases r with ⟨p, reg, w⟩
  cases p with
  | suspended a =>
    obtain ⟨w', hkeep, hquiet⟩ := keep_eq b { ens.setRegistry i reg with world := w } name (.acquire i a)
    rw [acquired, hkeep]
    exact hquiet
  | finished answer => cases answer <;> exact .refl _ _

/-- Every acquisition opens the next session, whatever comes of it. -/
theorem Ensemble.opens_of_acquire (b : Backend σ) (ens : Ensemble σ) (name : String) {g : Grant}
    (hg : g.registry < ens.registries.length) :
    (ens.moment b (.acquire name g.token g.key g.registry)).Opens (ens.world.begins + 1) g := by
  have hreg : ens.registries[g.registry]? = some ens.registries[g.registry] := List.getElem?_eq_getElem hg
  have hstep : step b ens (.acquire name g.token g.key g.registry) =
      acquired b ens name g.registry
        (Registry.acquire b g.token g.key ens.registries[g.registry] ens.world) := by
    simp [step, hreg]
  obtain ⟨new, hnew, -⟩ := (Registry.acquire_asks b g.token g.key ens.registries[g.registry] ens.world).told
  obtain ⟨rest, hrest, -⟩ := (acquired_leads b ens name g.registry
    (Registry.acquire b g.token g.key ens.registries[g.registry] ens.world)).told
  rw [hnew, List.append_assoc] at hrest
  have htraffic := moment_traffic (hstep ▸ hrest)
  exact ⟨⟨name, rfl⟩, by simp [htraffic]⟩

/-! ## Release -/

/-- An event of the release with this token: its start, or a call that waits for its commit. -/
inductive Ensemble.Unlocks (ens : Ensemble σ) (token : String) (i : Nat) : Event → Prop
  | starts (name : String) : Unlocks ens token i (.unlock name token i)
  | goesOn (name : String) (u : Registry.Unlocking) (hc : ens.calls.get? name = some (.unlock i u))
    (hu : u.token = token) : Unlocks ens token i (.poll name)
  | givenUp (name : String) (u : Registry.Unlocking) (hc : ens.calls.get? name = some (.unlock i u))
    (hu : u.token = token) : Unlocks ens token i (.cancel name)

/-- A release takes out no entry but its own. -/
theorem Ensemble.unlocks_keeps {b : Backend σ} {ens : Ensemble σ} (hens : ens.Tidy) {token : String} {i : Nat}
    {e : Event}
    (he : ens.Unlocks token i e) {j : Nat} {reg : Registry} {id : String} {h : LockHandle}
    (hreg : ens.registries[j]? = some reg) (hid : reg.entries.get? id = some h)
    (hother : j = i → h.ownerToken ≠ some token) :
    ∃ reg', (step b ens e).2.registries[j]? = some reg' ∧ reg'.entries.get? id = some h := by
  -- a release carries no acquisition on, so it files nothing
  have hnocall : ∀ name s g, ¬ens.Carries name s g e := by
    intro name s g hc
    cases he with
    | starts => cases hc
    | givenUp => cases hc
    | goesOn name u hcall hu =>
      cases hc with
      | goesOn line =>
        obtain ⟨a, ha, -⟩ := filed_call_eq_some_iff.1 line
        rw [hcall] at ha
        cases ha
  have t := (step_turnover (b := b) hens e).turns
  cases t with
  | rests registries _ _ _ _ => exact ⟨reg, registries ▸ hreg, hid⟩
  | waits name s g carries _ _ _ _ _ => exact absurd carries (hnocall name s g)
  | files name s g reg' h' carries _ _ _ _ _ _ _ _ => exact absurd carries (hnocall name s g)
  | takes name s g reg' id' event here line registries _ _ =>
    have hevent : e = .unlock name g.token g.registry := event
    have hmine : token = g.token ∧ i = g.registry := by
      subst hevent
      cases he
      exact ⟨rfl, rfl⟩
    obtain ⟨rfl, rfl⟩ := hmine
    obtain ⟨hlt, -⟩ := List.getElem?_eq_some_iff.1 here
    rw [registries]
    by_cases hj : j = g.registry
    · subst hj
      rw [here] at hreg
      cases hreg
      have hne : id ≠ id' := by
        rintro rfl
        obtain ⟨reg'', h'', hreg'', hid'', hf⟩ := filed_entry_eq_some_iff.1 line
        rw [here] at hreg''
        cases hreg''
        rw [hid] at hid''
        cases hid''
        exact hother rfl (LockHandle.filed?_eq_some_iff.1 hf).2.1
      exact ⟨_, List.getElem?_set_self hlt, by rw [Keyed.get?_erase_ne _ hne]; exact hid⟩
    · exact ⟨reg, by rw [List.getElem?_set_ne (Ne.symm hj)]; exact hreg, hid⟩

/-- Only who presents the token of an acquisition commits the session that it opened, once, and after the entry has
left the table; and whoever presents a token takes out no other entry. This holds for every backend. -/
theorem commit_only_by_token (b : Backend σ) (st : σ) (n : Nat) (hs : List (Happening σ)) :
    let r := Run.of b st n hs
    (∀ s g, Opened r.history s g → r.ensemble.world.traffic.count (.asked s .commit) ≤ 1) ∧
      (∀ (k : Nat) (m : Moment) s g, r.history[k]? = some m → Opened r.history s g → .asked s .commit ∈ m.traffic →
        (∃ name, m.event = .unlock name g.token g.registry) ∧ g ∈ granted (r.history.take k)) ∧
      (∀ (i : Nat) (reg : Registry) id h s, r.ensemble.registries[i]? = some reg → reg.entries.get? id = some h →
        h.session = some s → .asked s .commit ∉ r.ensemble.world.traffic) ∧
      ∀ token i e, r.ensemble.Unlocks token i e →
        ∀ (j : Nat) (reg : Registry) id h, r.ensemble.registries[j]? = some reg → reg.entries.get? id = some h →
          (j = i → h.ownerToken ≠ some token) →
            ∃ reg', (step b r.ensemble e).2.registries[j]? = some reg' ∧ reg'.entries.get? id = some h := by
  intro r
  have hr : r.Attributed := Run.Attributed.of_run b st n hs
  refine ⟨hr.once, hr.released, ?_, ?_⟩
  · intro i reg id h s hreg hid hs
    obtain ⟨s', g, hline, hs', -⟩ := hr.tidy.filed_entry hreg hid
    rw [hs] at hs'
    cases hs'
    exact (hr.lines _ s g hline).2
  · intro token i e he j reg id h hreg hid hother
    exact unlocks_keeps hr.tidy he hreg hid hother

/-- What a request is answered with when all goes well. -/
def Request.granted : (r : Request) → r.Answer
  | .begin => .ok ()
  | .transactionId => .ok 42
  | .lock _ => .ok ()
  | .commit => .ok ()

/-- Sessions that get every lock, whoever else holds it. Their commits take a while. -/
def unhurried : Backend Unit where
  start _ r st := (if r = .commit then .pending else .ready r.granted, st)
  resume _ r st := (.ready r.granted, st)
  abandon _ st := st
  drop _ st := st

/-- While a lock is being given back it is taken again, and its first token is presented once more. -/
def overlap : List (Happening Unit) :=
  [.event (.acquire "a" "first" { resourceId := "herd", lockClass := .dinosaurs } 0),
    .event (.unlock "b" "first" 0),
    .event (.acquire "c" "second" { resourceId := "herd", lockClass := .dinosaurs } 0),
    .event (.unlock "d" "first" 0)]

/-- The first session is committed once, by the first one who presents its token, though the same lock was taken in
between. The entry of the second session is not committed, and stays when the commit of the first one ends. -/
theorem commit_only_by_token_in_overlap :
    let r := Run.of unhurried () 1 overlap
    let g : Grant := { registry := 0, token := "first", key := { resourceId := "herd", lockClass := .dinosaurs } }
    (Opened r.history 1 g ∧ r.ensemble.world.traffic.count (.asked 1 .commit) ≤ 1) ∧
      (∃ m, r.history[1]? = some m ∧ .asked 1 .commit ∈ m.traffic ∧ (∃ name, m.event = .unlock name "first" 0) ∧
        g ∈ granted (r.history.take 1)) ∧
      ∃ reg h, r.ensemble.registries[0]? = some reg ∧ reg.entries.get? "herd-dinosaurs" = some h ∧
        h.session = some 2 ∧ .asked 2 .commit ∉ r.ensemble.world.traffic ∧
        ∃ reg', (step unhurried r.ensemble (.poll "b")).2.registries[0]? = some reg' ∧
          reg'.entries.get? "herd-dinosaurs" = some h := by
  intro r g
  obtain ⟨honce, hcommits, hentries, hkeeps⟩ := commit_only_by_token unhurried () 1 overlap
  have hopens : (r.history[0]?).map (fun m => (m.event, m.traffic.head?)) =
      some (.acquire "a" "first" g.key 0, some (.asked 1 .begin)) := by decide +kernel
  have hopened : Opened r.history 1 g := by
    obtain ⟨m, hm, hacquire⟩ := Option.map_eq_some_iff.1 hopens
    obtain ⟨hevent, hbegin⟩ := Prod.mk.inj hacquire
    exact ⟨m, List.mem_of_getElem? hm, ⟨"a", hevent⟩, List.mem_of_mem_head? hbegin⟩
  have hasks : (r.history[1]?).map (fun m => m.traffic) = some [.asked 1 .commit] := by decide +kernel
  obtain ⟨m, hm, htraffic⟩ := Option.map_eq_some_iff.1 hasks
  have hcommit : .asked 1 .commit ∈ m.traffic := htraffic ▸ List.mem_singleton_self _
  have hholds : (r.ensemble.registries[0]?).bind (fun reg => (reg.entries.get? "herd-dinosaurs").map fun h =>
      (h.session, h.ownerToken)) = some (some 2, some "second") := by decide +kernel
  obtain ⟨reg, hreg, hheld⟩ := Option.bind_eq_some_iff.1 hholds
  obtain ⟨h, hid, hheld⟩ := Option.map_eq_some_iff.1 hheld
  obtain ⟨hsession, htoken⟩ := Prod.mk.inj hheld
  -- the release of the first session still waits for its commit, while the second entry is in the table
  have hwaits : r.ensemble.calls.get? "b" = some (.unlock 0
      { token := "first", lockId := "herd-dinosaurs", lockClass := .dinosaurs, session := 1, acquiredAt := 0 }) := by
    decide +kernel
  have hstays := hkeeps "first" 0 (.poll "b") (.goesOn "b" _ hwaits rfl) 0 reg _ h hreg hid fun _ => by simp [htoken]
  exact ⟨⟨hopened, honce 1 g hopened⟩, ⟨m, hm, hcommit, hcommits 1 m 1 g hm hopened hcommit⟩, reg, h, hreg, hid,
    hsession, hentries 0 reg _ h 2 hreg hid hsession, hstays⟩

end NamedLock
