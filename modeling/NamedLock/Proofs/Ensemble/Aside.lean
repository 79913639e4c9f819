import NamedLock.Proofs.Ensemble.Places

/-!
# Aside — calls that concern no registry

Calls on sessions and handles leave the tables as they are, and commit no session but their own. They may give up an
acquisition that was kept under their name, and that is all they do to registries.
-/

namespace NamedLock

namespace Ensemble

variable {σ : Type} {ens ens' ens'' : Ensemble σ} {P : SessionId → Prop}
  {s : SessionId}

/-- An ensemble becomes another one by what is done with some sessions that no registry owns. -/
structure Aside (P : SessionId → Prop) (ens ens' : Ensemble σ) : Prop where
  registries : ens'.registries = ens.registries
  leads : ens.world.Leads (Traffic.Spares P) ens'.world
  calls : ∀ name i a, ens'.calls.get? name = some (.acquire i a) → ens.calls.get? name = some (.acquire i a)
  elsewhere : ∀ t, ens'.Elsewhere t → ens.Elsewhere t ∨ P t

theorem Aside.refl (P : SessionId → Prop) (ens : Ensemble σ) : Aside P ens ens :=
  ⟨rfl, .refl _ _, fun _ _ _ => id, fun _ => .inl⟩

theorem Aside.trans (h : Aside P ens ens') (h' : Aside P ens' ens'') : Aside P ens ens'' where
  registries := h'.registries.trans h.registries
  leads := h.leads.trans h'.leads
  calls name i a hc := h.calls name i a (h'.calls name i a hc)
  elsewhere t ht := by
    rcases h'.elsewhere t ht with ht | ht
    · exact h.elsewhere t ht
    · exact .inr ht

theorem Aside.tidy (h : Aside P ens ens') (hens : ens.Tidy) : ens'.Tidy := hens.same h.registries h.calls

/-- Acquisitions and entries are where they were, or gone. -/
theorem Aside.filed (h : Aside P ens ens') (p : Place) (x : SessionId × Grant) (hp : ens'.filed p = some x) :
    ens.filed p = some x := by
  rcases x with ⟨t, g⟩
  cases p with
  | call name =>
    obtain ⟨a, hc, hline⟩ := filed_call_eq_some_iff.1 hp
    exact filed_call_eq_some_iff.2 ⟨a, h.calls name _ a hc, hline⟩
  | entry i id => simpa [Ensemble.filed, h.registries] using hp
  | _ => cases hp

/-! ## Small steps aside -/

theorem Elsewhere.of_world {w : World σ} {t : SessionId} (ht : Elsewhere { ens with world := w } t) :
    ens.Elsewhere t := by
  cases ht with
  | session on h => exact .session on h
  | handle on e hon hs => exact .handle on e hon hs
  | call name c hc hs => exact .call name c hc hs

theorem Aside.world {w : World σ} (h : ens.world.Leads (Traffic.Spares P) w) :
    Aside P ens { ens with world := w } :=
  ⟨rfl, h, fun _ _ _ => id, fun _ ht => .inl ht.of_world⟩

theorem Aside.setSession (on : String) (hs : P s) : Aside P ens { ens with sessions := ens.sessions.set on s } where
  registries := rfl
  leads := .refl _ _
  calls _ _ _ := id
  elsewhere t ht := by
    cases ht with
    | session on' h =>
      rw [Keyed.get?_set] at h
      split at h
      next =>
        cases h
        exact .inr hs
      next => exact .inl (.session on' h)
    | handle on' e hon hs => exact .inl (.handle on' e hon hs)
    | call name c hc hs => exact .inl (.call name c hc hs)

theorem Aside.eraseSession (on : String) : Aside P ens { ens with sessions := ens.sessions.erase on } where
  registries := rfl
  leads := .refl _ _
  calls _ _ _ := id
  elsewhere t ht := by
    cases ht with
    | session on' h =>
      rw [Keyed.get?_erase] at h
      split at h
      next => cases h
      next => exact .inl (.session on' h)
    | handle on' e hon hs => exact .inl (.handle on' e hon hs)
    | call name c hc hs => exact .inl (.call name c hc hs)

theorem Aside.handles {handles : Keyed String LockHandle}
    (h : ∀ on e t, handles.get? on = some e → e.session = some t → ens.Elsewhere t ∨ P t) :
    Aside P ens { ens with handles } where
  registries := rfl
  leads := .refl _ _
  calls _ _ _ := id
  elsewhere t ht := by
    cases ht with
    | session on ho => exact .inl (.session on ho)
    | handle on e hon hs => exact h on e t hon hs
    | call name c hc hs => exact .inl (.call name c hc hs)

theorem Aside.setHandle (on : String) {e : LockHandle} (he : ∀ t, e.session = some t → P t) :
    Aside P ens { ens with handles := ens.handles.set on e } := by
  refine .handles ?_
  intro on' e' t hon hs
  rw [Keyed.get?_set] at hon
  split at hon
  next =>
    cases hon
    exact .inr (he t hs)
  next => exact .inl (.handle on' e' hon hs)

theorem Aside.eraseHandle (on : String) : Aside P ens { ens with handles := ens.handles.erase on } := by
  refine .handles ?_
  intro on' e' t hon hs
  rw [Keyed.get?_erase] at hon
  split at hon
  next => cases hon
  next => exact .inl (.handle on' e' hon hs)

theorem Aside.clearHandle (on : String) :
    Aside P ens { ens with handles := ens.handles.adjust on LockHandle.cleared } := by
  refine .handles ?_
  intro on' e' t hon hs
  rw [Keyed.get?_adjust] at hon
  split at hon
  next =>
    obtain ⟨e, -, rfl⟩ := Option.map_eq_some_iff.1 hon
    cases hs
  next => exact .inl (.handle on' e' hon hs)

theorem Aside.eraseCall (name : String) : Aside P ens { ens with calls := ens.calls.erase name } where
  registries := rfl
  leads := .refl _ _
  calls name' i a hc := by
    rw [Keyed.get?_erase] at hc
    split at hc
    next => cases hc
    next => exact hc
  elsewhere t ht := by
    cases ht with
    | session on h => exact .inl (.session on h)
    | handle on e hon hs => exact .inl (.handle on e hon hs)
    | call name' c hc hs =>
      rw [Keyed.get?_erase] at hc
      split at hc
      next => cases hc
      next => exact .inl (.call name' c hc hs)

theorem Aside.setCall (name : String) {c : Call} (hc : ∀ i a, c ≠ .acquire i a) (hs : ∀ t, c.foreign? = some t → P t) :
    Aside P ens { ens with calls := ens.calls.set name c } where
  registries := rfl
  leads := .refl _ _
  calls name' i a hget := by
    rw [Keyed.get?_set] at hget
    split at hget
    next => exact absurd (Option.some.inj hget) (hc i a)
    next => exact hget
  elsewhere t ht := by
    cases ht with
    | session on h => exact .inl (.session on h)
    | handle on e hon hs => exact .inl (.handle on e hon hs)
    | call name' c' hget hs' =>
      rw [Keyed.get?_set] at hget
      split at hget
      next =>
        cases hget
        exact .inr (hs t hs')
      next => exact .inl (.call name' c' hget hs')

/-! ## Calls -/

section Calls

variable (b : Backend σ) (turn : Turn) (ens : Ensemble σ) (name on : String) (s : SessionId) {P : SessionId → Prop}

theorem giveUp_leads (c : Call) : ens.world.Leads Traffic.Quiet (giveUp b ens c) := by
  cases c with
  | acquire i a => exact Registry.cancelAcquire_leads b ens.world a
  | unlock i u => exact World.abandonAndDrop_leads b ens.world u.session
  | begin s => exact World.abandon_leads b ens.world s
  | lock on s pair => exact World.abandon_leads b ens.world s
  | identify on s => exact World.abandon_leads b ens.world s
  | commit on s => exact World.abandon_leads b ens.world s
  | create key o => exact LockHandle.cancel_leads b ens.world o
  | handleAcquire on =>
    unfold giveUp
    dsimp only
    cases (ens.handles.get? on).bind (·.session) with
    | none => exact .refl _ _
    | some s => exact World.abandon_leads b ens.world s
  | handleRelease on s => exact World.abandonAndDrop_leads b ens.world s

/-- A call that is kept is quiet, whatever it takes the place of. -/
theorem keep_eq (c : Call) :
    ∃ w, keep b ens name c = (.pending, { ens with world := w, calls := ens.calls.set name c }) ∧
      ens.world.Leads Traffic.Quiet w := by
  unfold keep
  dsimp only
  cases ens.calls.get? name with
  | none => exact ⟨_, rfl, .refl _ _⟩
  | some old => exact ⟨_, rfl, giveUp_leads b ens old⟩

theorem Aside.keep {c : Call} (hc : ∀ i a, c ≠ .acquire i a) (hs : ∀ t, c.foreign? = some t → P t) :
    Aside P ens (keep b ens name c).2 := by
  obtain ⟨w, hkeep, hw⟩ := keep_eq b ens name c
  rw [hkeep]
  exact (Aside.world (hw.spares P)).trans (.setCall name hc hs)

/-- A call on one session is kept. -/
theorem Aside.keepOn {s : SessionId} {c : Call} (hc : c.foreign? = some s) (hP : P s) :
    Aside P ens (Ensemble.keep b ens name c).2 := by
  apply Aside.keep
  · rintro i a rfl
    cases hc
  · intro t ht
    rw [hc] at ht
    exact Option.some.inj ht ▸ hP

/-- A session is asked for something, or looked at again. -/
theorem Aside.polled {r : Request} {p : Poll r.Answer} {w : World σ} (hP : P s)
    (hp : ens.world.poll b turn s r = (p, w)) : Aside P ens { ens with world := w } := by
  have hpoll := World.poll_spares b ens.world s r hP turn
  rw [hp] at hpoll
  exact .world hpoll

theorem Aside.begin (hP : P s) : Aside P ens (begin b turn name s ens).2 := by
  unfold Ensemble.begin
  cases hp : ens.world.poll b turn s .begin with
  | mk p w =>
    have hworld := Aside.polled b turn ens s hP hp
    cases p with
    | pending => exact hworld.trans (.keepOn b _ name rfl hP)
    | ready answer =>
      cases answer with
      | error e => exact hworld
      | ok u =>
        cases hold : ens.sessions.get? name with
        | none => exact hworld.trans (.setSession name hP)
        | some old =>
          have hdrop := (World.drop_leads b w old).spares P
          exact (hworld.trans (.world hdrop)).trans (.setSession name hP)

theorem Aside.identify (hP : P s) : Aside P ens (identify b turn name on s ens).2 := by
  unfold Ensemble.identify
  cases hp : ens.world.poll b turn s .transactionId with
  | mk p w =>
    have hworld := Aside.polled b turn ens s hP hp
    cases p with
    | pending => exact hworld.trans (.keepOn b _ name rfl hP)
    | ready answer => cases answer <;> exact hworld

theorem Aside.lock (hP : P s) (pair : HashPair) : Aside P ens (lock b turn name on s pair ens).2 := by
  unfold Ensemble.lock
  cases hp : ens.world.poll b turn s (.lock pair) with
  | mk p w =>
    have hworld := Aside.polled b turn ens s hP hp
    cases p with
    | pending => exact hworld.trans (.keepOn b _ name rfl hP)
    | ready answer => exact hworld

theorem Aside.commit (hP : P s) : Aside P ens (commit b turn name on s ens).2 := by
  unfold Ensemble.commit
  cases hp : ens.world.poll b turn s .commit with
  | mk p w =>
    have hworld := Aside.polled b turn ens s hP hp
    cases p with
    | pending => exact hworld.trans (.keepOn b _ name rfl hP)
    | ready answer => exact hworld

theorem Aside.created {key : LockKey} {r : Progress LockHandle.Opening (Except LockError LockHandle) × World σ}
    (hr : LockHandle.Opens key s r) (hP : P s) (leads : ens.world.Leads (Traffic.Spares P) r.2) :
    Aside P ens (created b ens name key r).2 := by
  have hworld : Aside P ens { ens with world := r.2 } := .world leads
  cases hr with
  | waits hs =>
    exact hworld.trans (.keepOn b _ name (congrArg some hs) hP)
  | fails => exact hworld
  | @opens h w hs hk =>
    have hset : ∀ t, h.session = some t → P t := by
      intro t ht
      rw [hs] at ht
      exact Option.some.inj ht ▸ hP
    unfold Ensemble.created
    dsimp only
    cases hold : ens.handles.get? name with
    | none => exact hworld.trans (.setHandle name hset)
    | some old =>
      have hdrop := (LockHandle.discard_leads b w old).spares P
      exact (hworld.trans (.world hdrop)).trans (.setHandle name hset)

theorem Aside.handleCommit (hP : P s) : Aside P ens (handleCommit b turn name on s ens).2 := by
  unfold Ensemble.handleCommit
  have hpoll := World.poll_spares b ens.world s .commit hP turn
  have hcommit := hpoll.trans ((LockHandle.commit_leads b turn s ens.world).spares P)
  cases hp : LockHandle.commit b turn s ens.world with
  | mk p w =>
    rw [hp] at hcommit
    have hworld : Aside P ens { ens with world := w } := .world hcommit
    cases p with
    | pending => exact hworld.trans (.keepOn b _ name rfl hP)
    | ready answer => cases answer <;> exact hworld.trans (.clearHandle on)

theorem Aside.handleRelease {h : LockHandle} (hs : h.session = some s) (hP : P s) :
    Aside P ens (handleRelease b name on h ens).2 := by
  unfold Ensemble.handleRelease
  rw [hs]
  exact Aside.trans (.setHandle on (by simp)) (.handleCommit b .first _ name on s hP)

theorem Aside.handleAcquire {h : LockHandle} (hon : ens.handles.get? on = some h) :
    Aside P ens (handleAcquire b turn name on h ens).2 := by
  unfold Ensemble.handleAcquire
  have hleads := (LockHandle.acquire_leads b turn none ens.world h).spares P
  -- a handle whose lock is granted keeps its session
  have hsame : ∀ e w, h.acquire b turn none ens.world = (.ready (.ok e), w) → e.session = h.session := by
    intro e w he
    cases hs : h.session with
    | none => cases hk : h.key <;> simp [LockHandle.acquire, hs, hk] at he
    | some s' =>
      cases hk : h.key with
      | none => simp [LockHandle.acquire, hs, hk] at he
      | some key =>
        have hlocks := LockHandle.acquire_locks b turn none ens.world hs hk
        rw [he] at hlocks
        cases hlocks with
        | locks hs' _ => exact hs'
  cases hp : h.acquire b turn none ens.world with
  | mk p w =>
    rw [hp] at hleads
    have hworld : Aside P ens { ens with world := w } := .world hleads
    cases p with
    | pending => exact hworld.trans (.keep b _ name (by simp) (by rintro t ⟨⟩))
    | ready answer =>
      cases answer with
      | error e => exact hworld
      | ok e =>
        refine hworld.trans (.handles ?_)
        intro on' e' t hon' ht
        rw [Keyed.get?_set] at hon'
        split at hon'
        next =>
          cases hon'
          exact .inl (.handle on h hon (hsame e w hp ▸ ht))
        next => exact .inl (.handle on' e' hon' ht)

end Calls

end Ensemble

end NamedLock
