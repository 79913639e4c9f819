import Mathlib.Logic.Function.Basic
import NamedLock.Proofs.Ensemble.Filing

/-!
# Places — where sessions are in an ensemble

A session that a registry opened is with a waiting acquisition, or with an entry of a table; `filed` looks it up
there, with the grant it was opened for. All other sessions of an ensemble are elsewhere: with handles, with names
of sessions, or with calls that concern neither.
-/

namespace NamedLock

/-- A place for a session. -/
inductive Place
  /-- With the event that is being carried out. -/
  | hand
  | call (name : String)
  | entry (registry : Nat) (id : String)
  | handle (on : String)
  | session (on : String)
  deriving DecidableEq, Repr

/-- The session that an acquisition waits on, and the grant that it is for. -/
def Call.acquires? : Call → Option (SessionId × Grant)
  | .acquire registry a => a.session?.map fun s => (s, { registry, token := a.token, key := a.key })
  | _ => none

/-- The session of a call that no registry makes. -/
def Call.foreign? : Call → Option SessionId
  | .begin s => some s
  | .lock _ s _ => some s
  | .identify _ s => some s
  | .commit _ s => some s
  | .create _ o => some o.session
  | .handleRelease _ s => some s
  | .acquire _ _ => none
  | .unlock _ _ => none
  | .handleAcquire _ => none

namespace Ensemble

variable {σ : Type}

/-- The session and the grant at a place of the registries. -/
def filed (ens : Ensemble σ) : Place → Option (SessionId × Grant)
  | .call name => (ens.calls.get? name).bind Call.acquires?
  | .entry i id => (ens.registries[i]?).bind fun reg => (reg.entries.get? id).bind (LockHandle.filed? i)
  | _ => none

/-- A session that no registry owns. -/
inductive Elsewhere (ens : Ensemble σ) (s : SessionId) : Prop
  | session (on : String) (h : ens.sessions.get? on = some s)
  | handle (on : String) (h : LockHandle) (hon : ens.handles.get? on = some h) (hs : h.session = some s)
  | call (name : String) (c : Call) (hc : ens.calls.get? name = some c) (hs : c.foreign? = some s)

/-- Tables are tidy, and acquisitions that wait know their session and their key. -/
structure Tidy (ens : Ensemble σ) : Prop where
  registries : ∀ (i : Nat) (reg : Registry), ens.registries[i]? = some reg → reg.Tidy
  calls : ∀ name i a, ens.calls.get? name = some (.acquire i a) → ∃ s, a.On s

theorem tidy_ofBackend (st : σ) (n : Nat) : (ofBackend st n).Tidy where
  registries i reg hreg := by
    obtain ⟨-, rfl⟩ : i < n ∧ {} = reg := by simpa [ofBackend, List.getElem?_replicate] using hreg
    exact .empty
  calls name i a hc := by cases hc

theorem setRegistry_self {ens : Ensemble σ} {i : Nat} {reg : Registry} (h : ens.registries[i]? = some reg) :
    ens.setRegistry i reg = ens := by
  obtain ⟨hi, rfl⟩ := List.getElem?_eq_some_iff.1 h
  simp [setRegistry]

section Filed

variable (ens : Ensemble σ)

@[simp] theorem filed_ofBackend (st : σ) (n : Nat) (p : Place) : (ofBackend st n).filed p = none := by
  cases p with
  | entry i id =>
    cases hreg : (ofBackend st n).registries[i]? with
    | none => simp [filed, hreg]
    | some reg =>
      obtain ⟨-, rfl⟩ : i < n ∧ {} = reg := by simpa [ofBackend, List.getElem?_replicate] using hreg
      simp [filed, hreg]
  | _ => rfl

@[simp] theorem filed_world (w : World σ) : filed { ens with world := w } = ens.filed := by
  funext p
  cases p <;> rfl

/-- A change from outside moves no session. -/
theorem filed_outside {b : Backend σ} (r : Run σ) (f : σ → σ) (p : Place) :
    (r.advance b (.outside f)).ensemble.filed p = r.ensemble.filed p :=
  congrFun (filed_world r.ensemble _) p

@[simp] theorem filed_handles (w : World σ) (handles : Keyed String LockHandle) :
    filed { ens with world := w, handles } = ens.filed := by
  funext p
  cases p <;> rfl

@[simp] theorem filed_sessions (w : World σ) (sessions : Keyed String SessionId) :
    filed { ens with world := w, sessions } = ens.filed := by
  funext p
  cases p <;> rfl

theorem filed_calls (calls : Keyed String Call) (name : String) {line : Option (SessionId × Grant)}
    (here : (calls.get? name).bind Call.acquires? = line)
    (others : ∀ name', name' ≠ name → calls.get? name' = ens.calls.get? name') :
    filed { ens with calls } = Function.update ens.filed (.call name) line := by
  funext p
  rw [Function.update_apply]
  cases p with
  | call name' =>
    by_cases hn : name' = name
    · simp [filed, hn, here]
    · simp [filed, hn, others name' hn]
  | _ => simp [filed]

/-- A call that is kept takes the place of the one under the same name. -/
theorem filed_setCall (name : String) (c : Call) :
    filed { ens with calls := ens.calls.set name c } =
      Function.update ens.filed (.call name) c.acquires? :=
  filed_calls ens _ name (by simp) fun _ hn => Keyed.get?_set_ne _ _ hn

theorem filed_eraseCall (name : String) :
    filed { ens with calls := ens.calls.erase name } = Function.update ens.filed (.call name) none :=
  filed_calls ens _ name (by simp) fun _ hn => Keyed.get?_erase_ne _ hn

theorem filed_registry {i : Nat} {reg : Registry} (hreg : ens.registries[i]? = some reg) (reg' : Registry)
    (id : String) (others : ∀ id', id' ≠ id → reg'.entries.get? id' = reg.entries.get? id') :
    (ens.setRegistry i reg').filed =
      Function.update ens.filed (.entry i id) ((reg'.entries.get? id).bind (LockHandle.filed? i)) := by
  obtain ⟨hi, rfl⟩ := List.getElem?_eq_some_iff.1 hreg
  funext p
  rw [Function.update_apply]
  cases p with
  | entry j id' =>
    by_cases hj : j = i
    · subst hj
      by_cases hid : id' = id
      · simp [filed, setRegistry, hid, hi]
      · simp [filed, setRegistry, hid, hi, others id' hid]
    · simp [filed, setRegistry, hj, List.getElem?_set_ne (Ne.symm hj)]
  | _ => simp [filed, setRegistry]

end Filed

/-! ## Tidiness after each change -/

section Tidy

variable {ens : Ensemble σ}

theorem Tidy.same {ens' : Ensemble σ} (h : ens.Tidy) (registries : ens'.registries = ens.registries)
    (calls : ∀ name i a, ens'.calls.get? name = some (.acquire i a) →
      ens.calls.get? name = some (.acquire i a)) : ens'.Tidy where
  registries := by
    rw [registries]
    exact h.registries
  calls name i a hc := h.calls name i a (calls name i a hc)

theorem Tidy.setRegistry (h : ens.Tidy) (i : Nat) {reg : Registry} (hreg : reg.Tidy) :
    (ens.setRegistry i reg).Tidy where
  registries j reg' hj := by
    by_cases hji : j = i
    · subst hji
      obtain ⟨-, rfl⟩ : j < ens.registries.length ∧ reg = reg' := by
        simpa [Ensemble.setRegistry, List.getElem?_set] using hj
      exact hreg
    · exact h.registries j reg' (by simpa [Ensemble.setRegistry, List.getElem?_set_ne (Ne.symm hji)] using hj)
  calls := h.calls

theorem Tidy.setCall (h : ens.Tidy) (w : World σ) (name : String) {c : Call}
    (hc : ∀ i a, c = .acquire i a → ∃ s, a.On s) :
    Tidy { ens with world := w, calls := ens.calls.set name c } where
  registries := h.registries
  calls name' i a hget := by
    rw [Keyed.get?_set] at hget
    split at hget
    next => exact hc i a (Option.some.inj hget)
    next => exact h.calls name' i a hget

theorem Tidy.eraseCall (h : ens.Tidy) (w : World σ) (name : String) :
    Tidy { ens with world := w, calls := ens.calls.erase name } := by
  refine h.same rfl ?_
  intro name' i a hget
  rw [Keyed.get?_erase] at hget
  split at hget
  next => cases hget
  next => exact hget

/-- An entry of a tidy table is filed. -/
theorem Tidy.filed_entry (h : ens.Tidy) {i : Nat} {reg : Registry} (hreg : ens.registries[i]? = some reg) {id : String}
    {e : LockHandle} (he : reg.entries.get? id = some e) :
    ∃ s g, ens.filed (.entry i id) = some (s, g) ∧ e.session = some s ∧ e.ownerToken = some g.token ∧
      e.key = some g.key ∧ g.registry = i ∧ id = g.key.encoded := by
  obtain ⟨s, token, key, hs, ht, hk, hid⟩ := (h.registries i reg hreg).entries id e he
  refine ⟨s, { registry := i, token, key }, ?_, hs, ht, hk, rfl, hid⟩
  simp [filed, hreg, he, LockHandle.filed?, hs, ht, hk]

theorem filed_entry_eq_some_iff {i : Nat} {id : String} {s : SessionId} {g : Grant} :
    ens.filed (.entry i id) = some (s, g) ↔
      ∃ reg e, ens.registries[i]? = some reg ∧ reg.entries.get? id = some e ∧ e.filed? i = some (s, g) := by
  simp only [filed, Option.bind_eq_some_iff]
  constructor
  · rintro ⟨reg, hreg, e, he, hf⟩
    exact ⟨reg, e, hreg, he, hf⟩
  · rintro ⟨reg, e, hreg, he, hf⟩
    exact ⟨reg, hreg, e, he, hf⟩

theorem filed_call_eq_some_iff {name : String} {s : SessionId} {g : Grant} :
    ens.filed (.call name) = some (s, g) ↔
      ∃ a : Registry.Acquisition, ens.calls.get? name = some (.acquire g.registry a) ∧ a.session? = some s ∧
        a.token = g.token ∧ a.key = g.key := by
  rcases g with ⟨i, token, key⟩
  simp only [filed, Option.bind_eq_some_iff]
  constructor
  · rintro ⟨c, hc, hline⟩
    cases c with
    | acquire j a =>
      obtain ⟨s', hs, he⟩ := Option.map_eq_some_iff.1 hline
      cases he
      exact ⟨a, hc, hs, rfl, rfl⟩
    | _ => cases hline
  · rintro ⟨a, hc, hs, rfl, rfl⟩
    exact ⟨_, hc, by simp [Call.acquires?, hs]⟩

end Tidy

/-! ## Calls by name -/

section ByName

variable (ens : Ensemble σ) (on : String)

/-- A call on a session is refused, which changes nothing, or it is made on the session of that name. -/
theorem onSession_cases (f : SessionId → Reply × Ensemble σ) :
    (∃ reply, reply ≠ .pending ∧ ens.onSession on f = (reply, ens)) ∨
      ∃ s, ens.sessions.get? on = some s ∧ ens.sessionBusy on = false ∧ ens.onSession on f = f s := by
  unfold onSession
  cases hbusy : ens.sessionBusy on with
  | true => exact .inl ⟨.busy, by simp, rfl⟩
  | false =>
    rw [if_neg (by simp)]
    cases hon : ens.sessions.get? on with
    | none => exact .inl ⟨.refused .noSession, by simp, rfl⟩
    | some s => exact .inr ⟨s, rfl, rfl, rfl⟩

/-- A call on a handle is refused, which changes nothing, or it is made on the handle of that name. -/
theorem onHandle_cases (f : LockHandle → Reply × Ensemble σ) :
    (∃ reply, reply ≠ .pending ∧ ens.onHandle on f = (reply, ens)) ∨
      ∃ h, ens.handles.get? on = some h ∧ ens.handleBusy on = false ∧ ens.onHandle on f = f h := by
  unfold onHandle
  cases hbusy : ens.handleBusy on with
  | true => exact .inl ⟨.busy, by simp, rfl⟩
  | false =>
    rw [if_neg (by simp)]
    cases hon : ens.handles.get? on with
    | none => exact .inl ⟨.refused .noHandle, by simp, rfl⟩
    | some h => exact .inr ⟨h, rfl, rfl, rfl⟩

end ByName

end Ensemble

end NamedLock
