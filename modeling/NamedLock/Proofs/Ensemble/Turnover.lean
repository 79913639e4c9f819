import NamedLock.Proofs.Ensemble.Aside

/-!
# Turnover — what an event does to the tables

An event changes at most one entry of one table: it files the grant that it yields, or takes out the entry whose
token it unlocks. Otherwise the tables rest, and an acquisition may start, wait or go. `step_turnover` says so of
every event, for every backend; what a run keeps follows from it.
-/

namespace NamedLock

namespace Ensemble

variable {σ : Type}

/-- The acquisition that an event carries on, with its name: a new one on the next session, or one that waited. -/
inductive Carries (ens : Ensemble σ) (name : String) (s : SessionId) (g : Grant) : Event → Prop
  | starts (hs : s = ens.world.begins + 1) : Carries ens name s g (.acquire name g.token g.key g.registry)
  | goesOn (line : ens.filed (.call name) = some (s, g)) : Carries ens name s g (.poll name)

theorem Carries.not_unlock {ens : Ensemble σ} {name : String} {s : SessionId} {g : Grant} {e : Event}
    (h : ens.Carries name s g e) {token : String} {i : Nat} (name' : String) : e ≠ .unlock name' token i := by
  rintro rfl
  cases h

/-- A session that no registry owns when an event begins or when it is over. -/
def Foreign (ens ens' : Ensemble σ) (e : Event) (s : SessionId) : Prop :=
  ens.Elsewhere s ∨ s = ens.world.begins + 1 ∧ s ≤ ens'.world.begins ∧ e.asked? = none

/-- An acquisition comes to a place, and leaves the call that was looked at; no other one comes to a place. -/
def Moves (ens ens' : Ensemble σ) (e : Event) (name : String) (p : Place) (x : SessionId × Grant) : Prop :=
  ∀ q y, ens'.filed q = some y → q = p ∧ y = x ∨ ens.filed q = some y ∧ (e = .poll name → q ≠ .call name)

/-- What a moment does to the tables of registries. -/
inductive Turns (ens ens' : Ensemble σ) (m : Moment) : Prop
  /-- No table changes, and no acquisition comes to wait. -/
  | rests (registries : ens'.registries = ens.registries) (grant : m.grant? = none)
    (lines : ∀ p x, ens'.filed p = some x → ens.filed p = some x)
    (nothing : ∀ name token i, m.event = .unlock name token i →
      ∀ id s g, ens.filed (.entry i id) = some (s, g) → g.token ≠ token)
    (committed : ∀ s, .asked s .commit ∈ m.traffic → ens.Foreign ens' m.event s)
  /-- An acquisition waits. -/
  | waits (name : String) (s : SessionId) (g : Grant) (carries : ens.Carries name s g m.event)
    (begun : m.event.asked? ≠ none → .asked s .begin ∈ m.traffic)
    (registries : ens'.registries = ens.registries) (grant : m.grant? = none)
    (lines : ens.Moves ens' m.event name (.call name) (s, g))
    (committed : ∀ s, .asked s .commit ∉ m.traffic)
  /-- An acquisition files its handle. -/
  | files (name : String) (s : SessionId) (g : Grant) (reg : Registry) (h : LockHandle)
    (carries : ens.Carries name s g m.event) (begun : m.event.asked? ≠ none → .asked s .begin ∈ m.traffic)
    (here : ens.registries[g.registry]? = some reg)
    (filed : h.filed? g.registry = some (s, g))
    (registries : ens'.registries =
      ens.registries.set g.registry { entries := reg.entries.set g.key.encoded h })
    (alone : reg.entries.get? g.key.encoded = none ∨
      ∃ e ∈ ens'.world.log, e.message = Registry.displacedMessage)
    (grant : m.grant? = some g)
    (lines : ens.Moves ens' m.event name (.entry g.registry g.key.encoded) (s, g))
    (committed : ∀ s, .asked s .commit ∉ m.traffic)
  /-- A release takes out the entry of its token. -/
  | takes (name : String) (s : SessionId) (g : Grant) (reg : Registry) (id : String)
    (event : m.event = .unlock name g.token g.registry) (here : ens.registries[g.registry]? = some reg)
    (line : ens.filed (.entry g.registry id) = some (s, g))
    (registries : ens'.registries = ens.registries.set g.registry { entries := reg.entries.erase id })
    (lines : ∀ p x, ens'.filed p = some x → p ≠ .entry g.registry id ∧ ens.filed p = some x)
    (committed : ∃ rest, m.traffic = .asked s .commit :: rest ∧ ∀ t, .asked t .commit ∉ rest)

/-- What a moment leads to. -/
structure Turnover (ens ens' : Ensemble σ) (m : Moment) : Prop where
  tidy : ens'.Tidy
  told : ens'.world.traffic = ens.world.traffic ++ m.traffic
  begins : ens.world.begins ≤ ens'.world.begins
  opened : m.event.asked? ≠ none → ∀ s, .asked s .begin ∈ m.traffic → s = ens.world.begins + 1 ∧ s ≤ ens'.world.begins
  elsewhere : ∀ s, ens'.Elsewhere s → ens.Foreign ens' m.event s
  turns : ens.Turns ens' m

theorem moment_traffic {b : Backend σ} {ens : Ensemble σ} {e : Event} {new : List Traffic}
    (h : (step b ens e).2.world.traffic = ens.world.traffic ++ new) : (ens.moment b e).traffic = new := by
  simp [moment, h]

/-- A turnover, with the outcome of the event written out. -/
theorem Turnover.of_step {b : Backend σ} {ens ens' : Ensemble σ} {e : Event} {reply : Reply} {new : List Traffic}
    (hstep : step b ens e = (reply, ens')) (tidy : ens'.Tidy) (told : ens'.world.traffic = ens.world.traffic ++ new)
    (begins : ens.world.begins ≤ ens'.world.begins)
    (opened : e.asked? ≠ none → ∀ s, .asked s .begin ∈ new → s = ens.world.begins + 1 ∧ s ≤ ens'.world.begins)
    (elsewhere : ∀ s, ens'.Elsewhere s → ens.Foreign ens' e s)
    (turns : (ens.moment b e).traffic = new → ens.Turns ens' (ens.moment b e)) :
    Turnover ens (step b ens e).2 (ens.moment b e) := by
  have hens' : (step b ens e).2 = ens' := by rw [hstep]
  have hmoment : (ens.moment b e).traffic = new := moment_traffic (hens' ▸ told)
  rw [hens']
  exact
    { tidy := tidy
      told := by rw [told, hmoment]
      begins := begins
      opened := hmoment ▸ opened
      elsewhere := elsewhere
      turns := turns hmoment }

/-! ## Events aside -/

section Aside

variable {b : Backend σ} {ens : Ensemble σ} {e : Event}

/-- An event aside lets the tables rest. The session that it opens, if any, was counted before. -/
theorem Aside.turnover {w : World σ} {P : SessionId → Prop}
    (h : Aside P { ens with world := w } (step b ens e).2) (hens : ens.Tidy) (traffic : w.traffic = ens.world.traffic)
    (begins : ens.world.begins ≤ w.begins) (ask : e.asked? = none)
    (sessions : ∀ s, P s → ens.Elsewhere s ∨ s = ens.world.begins + 1 ∧ s ≤ w.begins)
    (grant : (ens.moment b e).grant? = none)
    (nothing : ∀ name token i, e = .unlock name token i →
      ∀ id s g, ens.filed (.entry i id) = some (s, g) → g.token ≠ token) :
    Turnover ens (step b ens e).2 (ens.moment b e) := by
  obtain ⟨new, htold, hnew⟩ := h.leads.told
  have hbegins : (step b ens e).2.world.begins = w.begins := h.leads.begins
  have hforeign : ∀ s, P s → ens.Foreign (step b ens e).2 e s := by
    intro s hs
    rcases sessions s hs with hs | ⟨hs, hle⟩
    · exact .inl hs
    · exact .inr ⟨hs, hbegins ▸ hle, ask⟩
  refine .of_step rfl (hens.same h.registries h.calls) (htold.trans (congrArg (· ++ new) traffic))
    (hbegins ▸ begins) (fun hasked => absurd ask hasked) ?_ ?_
  · intro s hs
    rcases h.elsewhere s hs with hs | hs
    · exact .inl hs.of_world
    · exact hforeign s hs
  · intro hmoment
    refine .rests h.registries grant ?_ nothing ?_
    · intro p x hp
      simpa using h.filed p x hp
    · intro s hs
      rw [hmoment] at hs
      exact hforeign s (hnew _ hs s rfl)

/-- An event that is answered at once, with nothing done. -/
theorem turnover_of_same (hens : ens.Tidy) {reply : Reply} (same : step b ens e = (reply, ens))
    (grant : (ens.moment b e).grant? = none)
    (nothing : ∀ name token i, e = .unlock name token i →
      ∀ id s g, ens.filed (.entry i id) = some (s, g) → g.token ≠ token) :
    Turnover ens (step b ens e).2 (ens.moment b e) := by
  refine .of_step same hens (List.append_nil _).symm (Nat.le_refl _) (by simp) (fun s hs => .inl hs) ?_
  intro hmoment
  exact .rests rfl grant (fun _ _ => id) nothing (by simp [hmoment])

/-- Whatever a call waits for, looking at it again or giving it up is aside when no registry acquires by it. -/
theorem Aside.unlocked (b : Backend σ) (ens : Ensemble σ) (name : String) (i : Nat) {P : SessionId → Prop}
    (r : Progress Registry.Unlocking Unit × World σ) :
    Aside P { ens with world := r.2 } (unlocked b ens name i r).2 := by
  rcases r with ⟨p, w⟩
  cases p with
  | suspended u => exact .keep b _ name (by simp) (by simp [Call.foreign?])
  | finished _ => exact .refl _ _

theorem Aside.resume (b : Backend σ) (ens : Ensemble σ) (name : String) {c : Call} {P : SessionId → Prop}
    (hc : ∀ i a, c ≠ .acquire i a) (hs : ∀ s, c.foreign? = some s → P s) :
    Aside P ens (resume b name c ens).2 := by
  cases c with
  | acquire i a => exact absurd rfl (hc i a)
  | unlock i u =>
    have hquiet := (Registry.resumeUnlock_leads b ens.world u).spares P
    exact (Aside.world hquiet).trans (.unlocked b ens name i _)
  | begin s => exact .begin b .later ens name s (hs s rfl)
  | lock on s pair => exact .lock b .later ens name on s (hs s rfl) pair
  | identify on s => exact .identify b .later ens name on s (hs s rfl)
  | commit on s => exact .commit b .later ens name on s (hs s rfl)
  | create key o =>
    have hquiet := (LockHandle.resume_leads b none key ens.world o).spares P
    exact .created b ens name o.session (LockHandle.resume_opens b none key ens.world o) (hs _ rfl) hquiet
  | handleAcquire on =>
    unfold Ensemble.resume
    dsimp only
    cases hon : ens.handles.get? on with
    | none => exact .refl _ _
    | some h => exact .handleAcquire b .later ens name on hon
  | handleRelease on s => exact .handleCommit b .later ens name on s (hs s rfl)

end Aside

/-! ## Acquisitions -/

section Acquisitions

variable {b : Backend σ} {ens ens₀ : Ensemble σ} {e : Event} {name : String} {s : SessionId} {g : Grant}

/-- Where sessions are after an event that an acquisition ends or waits in. -/
theorem elsewhere_of_base (hbase : Aside (fun _ => False) ens ens₀) {ens' : Ensemble σ} {t : SessionId}
    (ht : ens'.Elsewhere t) (sessions : ens'.sessions = ens₀.sessions) (handles : ens'.handles = ens₀.handles)
    (calls : ∀ name c, ens'.calls.get? name = some c → c.foreign? = none ∨ ens₀.calls.get? name = some c) :
    ens.Elsewhere t := by
  have hbefore : ens₀.Elsewhere t := by
    cases ht with
    | session on h => exact .session on (sessions ▸ h)
    | handle on h hon hs => exact .handle on h (handles ▸ hon) hs
    | call name c hc hs =>
      rcases calls name c hc with hnone | hold
      · rw [hnone] at hs
        cases hs
      · exact .call name c hold hs
  rcases hbase.elsewhere t hbefore with h | h
  · exact h
  · exact h.elim

/-- An event carries an acquisition on, up to a world. `ens₀` is the ensemble without the call that is looked at. -/
structure Carried (ens ens₀ : Ensemble σ) (e : Event) (name : String) (s : SessionId) (g : Grant) (reg : Registry)
    (w : World σ) (new : List Traffic) : Prop where
  carries : ens.Carries name s g e
  base : Aside (fun _ => False) ens ens₀
  left : e = .poll name → ens₀.filed (.call name) = none
  here : ens.registries[g.registry]? = some reg
  told : w.traffic = ens.world.traffic ++ new
  uncommitted : ∀ t, .asked t .commit ∉ new
  begins : ens.world.begins ≤ w.begins
  begun : e.asked? ≠ none → .asked s .begin ∈ new
  opened : e.asked? ≠ none → ∀ t, .asked t .begin ∈ new → t = ens.world.begins + 1 ∧ t ≤ w.begins

section Carried

variable {reg : Registry} {w : World σ} {new : List Traffic} (h : ens.Carried ens₀ e name s g reg w new)

include h

theorem Carried.here_base : ens₀.registries[g.registry]? = some reg := h.base.registries ▸ h.here

/-- Without the call that is looked at, lines are as before, and none of them is the one of that call. -/
theorem Carried.before {q : Place} {y : SessionId × Grant} (hq : ens₀.filed q = some y) :
    ens.filed q = some y ∧ (e = .poll name → q ≠ .call name) := by
  refine ⟨h.base.filed q y hq, ?_⟩
  rintro he rfl
  rw [h.left he] at hq
  cases hq

/-- The line of the acquisition comes to a place, and all other lines are as before. -/
theorem Carried.moves {ens' : Ensemble σ} {p : Place}
    (hfiled : ens'.filed = Function.update ens₀.filed p (some (s, g))) : ens.Moves ens' e name p (s, g) := by
  intro q y hq
  rw [hfiled, Function.update_apply] at hq
  split at hq
  next hqp => exact .inl ⟨hqp, (Option.some.inj hq).symm⟩
  next => exact .inr (h.before hq)

theorem Carried.turnover_of_waits (hens : ens.Tidy) {a : Registry.Acquisition} (ht : a.token = g.token)
    (hk : a.key = g.key) (ha : a.On s)
    (hstep : step b ens e = acquired b ens₀ name g.registry (.suspended a, reg, w))
    (hgrant : (ens.moment b e).grant? = (step b ens e).1.grant? g.registry g.key) :
    Turnover ens (step b ens e).2 (ens.moment b e) := by
  obtain ⟨w', hkeep, hquiet⟩ := keep_eq b { ens₀ with world := w } name (.acquire g.registry a)
  have hdone : step b ens e =
      (.pending, { ens₀ with world := w', calls := ens₀.calls.set name (.acquire g.registry a) }) := by
    rw [hstep, acquired, setRegistry_self h.here_base]
    exact hkeep
  -- a call that was kept under the name is given up, which is quiet
  obtain ⟨rest, hrest, hrestq⟩ := hquiet.told
  have hbegins : w'.begins = w.begins := hquiet.begins
  have htold : w'.traffic = ens.world.traffic ++ (new ++ rest) := by
    rw [← List.append_assoc, ← h.told]
    exact hrest
  have hline : Call.acquires? (.acquire g.registry a) = some (s, g) := by
    simp [Call.acquires?, ha.session, ht, hk]
  have hfiled := filed_setCall ens₀ name (.acquire g.registry a)
  rw [hline] at hfiled
  refine .of_step hdone ?_ htold (hbegins ▸ h.begins) ?_ ?_ ?_
  · refine (h.base.tidy hens).setCall w' name ?_
    rintro i a' ⟨⟩
    exact ⟨s, ha⟩
  · intro hask t ht
    rcases List.mem_append.1 ht with ht | ht
    · exact hbegins ▸ h.opened hask t ht
    · exact (hrestq _ ht).elim
  · intro t ht
    refine .inl (elsewhere_of_base h.base ht rfl rfl ?_)
    intro name' c hc
    rw [Keyed.get?_set] at hc
    split at hc
    next =>
      cases hc
      exact .inl rfl
    next => exact .inr hc
  · intro hmoment
    refine .waits name s g h.carries (fun hask => hmoment ▸ List.mem_append_left rest (h.begun hask))
      h.base.registries (by rw [hgrant, hdone]; rfl) (h.moves ?_) ?_
    · rw [← hfiled]
      exact filed_world { ens₀ with calls := ens₀.calls.set name (.acquire g.registry a) } w'
    · intro t ht
      rw [hmoment] at ht
      rcases List.mem_append.1 ht with ht | ht
      · exact h.uncommitted t ht
      · exact (hrestq _ ht).elim

theorem Carried.turnover_of_fails (hens : ens.Tidy) {err : LockError}
    (hstep : step b ens e = acquired b ens₀ name g.registry (.finished (.error err), reg, w))
    (hgrant : (ens.moment b e).grant? = (step b ens e).1.grant? g.registry g.key) :
    Turnover ens (step b ens e).2 (ens.moment b e) := by
  have hdone : step b ens e = (.lockError err, { ens₀ with world := w }) := by
    rw [hstep, acquired, setRegistry_self h.here_base]
  refine .of_step hdone ((h.base.tidy hens).same rfl fun _ _ _ => id) h.told h.begins h.opened ?_ ?_
  · exact fun t ht => .inl (elsewhere_of_base h.base ht rfl rfl fun _ _ => .inr)
  · intro hmoment
    refine .rests h.base.registries (by rw [hgrant, hdone]; rfl) ?_ ?_ ?_
    · intro q y hq
      rw [filed_world] at hq
      exact (h.before hq).1
    · exact fun name' token i he => absurd he (h.carries.not_unlock name')
    · exact fun t ht => absurd (hmoment ▸ ht) (h.uncommitted t)

theorem Carried.turnover_of_files (hens : ens.Tidy) {hd : LockHandle} (hs : hd.session = some s)
    (ht : hd.ownerToken = some g.token) (hk : hd.key = some g.key)
    (alone : reg.entries.get? g.key.encoded = none ∨ ∃ e ∈ w.log, e.message = Registry.displacedMessage)
    (hstep : step b ens e = acquired b ens₀ name g.registry
      (.finished (.ok g.token), { entries := reg.entries.set g.key.encoded hd }, w))
    (hgrant : (ens.moment b e).grant? = (step b ens e).1.grant? g.registry g.key) :
    Turnover ens (step b ens e).2 (ens.moment b e) := by
  have hdone : step b ens e = (.token name g.token,
      { ens₀.setRegistry g.registry { entries := reg.entries.set g.key.encoded hd } with world := w }) := hstep
  have hline : hd.filed? g.registry = some (s, g) := LockHandle.filed?_eq_some_iff.2 ⟨hs, ht, hk, rfl⟩
  have hfiled := filed_registry ens₀ h.here_base { entries := reg.entries.set g.key.encoded hd } g.key.encoded
    fun _ => Keyed.get?_set_ne _ _
  rw [Keyed.get?_set_self, Option.bind_some, hline] at hfiled
  have hreg := ((h.base.tidy hens).registries _ _ h.here_base).set hs ht hk
  refine .of_step hdone (((h.base.tidy hens).setRegistry g.registry hreg).same rfl fun _ _ _ => id) h.told h.begins
    h.opened ?_ ?_
  · exact fun t ht => .inl (elsewhere_of_base h.base ht rfl rfl fun _ _ => .inr)
  · intro hmoment
    refine .files name s g reg hd h.carries (fun hask => hmoment ▸ h.begun hask) h.here hline ?_ alone
      (by rw [hgrant, hdone]; rfl) (h.moves ?_) ?_
    · rw [← h.base.registries]
      rfl
    · rw [filed_world, hfiled]
    · exact fun t ht => h.uncommitted t (hmoment ▸ ht)

end Carried

/-- An acquisition that was carried on waits, fails or files its handle. -/
theorem turnover_of_acquired {reg : Registry} {r : Registry.Acquired × Registry × World σ} {new : List Traffic}
    (hens : ens.Tidy) (h : ens.Carried ens₀ e name s g reg r.2.2 new)
    (hstep : step b ens e = acquired b ens₀ name g.registry r) (hr : Registry.Came g.token g.key reg s r)
    (hgrant : (ens.moment b e).grant? = (step b ens e).1.grant? g.registry g.key) :
    Turnover ens (step b ens e).2 (ens.moment b e) := by
  cases hr with
  | waits ht hk ha => exact h.turnover_of_waits hens ht hk ha hstep hgrant
  | fails => exact h.turnover_of_fails hens hstep hgrant
  | files hs ht hk alone => exact h.turnover_of_files hens hs ht hk alone hstep hgrant

end Acquisitions

/-! ## Every event -/

section Events

variable {b : Backend σ} {ens : Ensemble σ} (hens : ens.Tidy)

include hens

theorem turnover_acquire (name token : String) (key : LockKey) (i : Nat) :
    Turnover ens (step b ens (.acquire name token key i)).2 (ens.moment b (.acquire name token key i)) := by
  cases hreg : ens.registries[i]? with
  | none =>
    have hsame : step b ens (.acquire name token key i) = (.refused .noRegistry, ens) := by simp [step, hreg]
    exact turnover_of_same hens hsame (by simp [moment, Moment.grant?, hsame, Reply.grant?]) (by simp)
  | some reg =>
    have hasks := Registry.acquire_asks b token key reg ens.world
    obtain ⟨rest, hrest, hquiet⟩ := hasks.told
    have hbegins : (Registry.acquire b token key reg ens.world).2.2.begins = ens.world.begins + 1 := hasks.begins
    have hcarried : ens.Carried ens (.acquire name token key i) name (ens.world.begins + 1)
        { registry := i, token, key } reg (Registry.acquire b token key reg ens.world).2.2
        (.asked (ens.world.begins + 1) .begin :: rest) :=
      { carries := .starts rfl
        base := .refl _ ens
        left := by simp
        here := hreg
        told := hrest
        uncommitted := by
          intro t ht
          rcases List.mem_cons.1 ht with ht | ht
          · cases ht
          · exact (hquiet _ ht).elim
        begins := by omega
        begun := fun _ => List.mem_cons_self
        opened := by
          intro _ t ht
          rcases List.mem_cons.1 ht with ht | ht
          · cases ht
            exact ⟨rfl, Nat.le_of_eq hbegins.symm⟩
          · exact (hquiet _ ht).elim }
    exact turnover_of_acquired hens hcarried (by simp [step, hreg])
      (Registry.acquire_came b token key reg ens.world) rfl

/-- Whatever is done with sessions that no registry owns lets the tables rest. -/
theorem turnover_of_elsewhere {e : Event} (h : Aside ens.Elsewhere ens (step b ens e).2) (ask : e.asked? = none)
    (grant : (ens.moment b e).grant? = none) (nothing : ∀ name token i, e ≠ .unlock name token i) :
    Turnover ens (step b ens e).2 (ens.moment b e) :=
  Aside.turnover h hens rfl (Nat.le_refl _) ask (fun _ hs => .inl hs) grant
    fun name token i he => absurd he (nothing name token i)

/-- An acquisition that waited is looked at again. -/
theorem turnover_poll_acquire {name : String} {i : Nat} {a : Registry.Acquisition}
    (hc : ens.calls.get? name = some (.acquire i a)) :
    Turnover ens (step b ens (.poll name)).2 (ens.moment b (.poll name)) := by
  have hstep : step b ens (.poll name) =
      resume b name (.acquire i a) { ens with calls := ens.calls.erase name } := by
    simp [step, hc]
  obtain ⟨s, ha⟩ := hens.calls name i a hc
  cases hreg : ens.registries[i]? with
  | none =>
    have hgone : step b ens (.poll name) = (.refused .noRegistry, { ens with calls := ens.calls.erase name }) := by
      simp [hstep, resume, hreg]
    refine turnover_of_elsewhere hens ?_ rfl ?_ (by simp)
    · rw [hgone]
      exact .eraseCall name
    · simp [moment, Moment.grant?, Event.called?, hc, hgone, Reply.grant?]
  | some reg =>
    have hquiet := Registry.resumeAcquire_leads b reg ens.world a
    obtain ⟨rest, hrest, hrestq⟩ := hquiet.told
    have hline : ens.filed (.call name) = some (s, { registry := i, token := a.token, key := a.key }) :=
      filed_call_eq_some_iff.2 ⟨a, hc, ha.session, rfl, rfl⟩
    -- its session was opened earlier, so this event opens none
    have hcarried : ens.Carried { ens with calls := ens.calls.erase name } (.poll name) name s
        { registry := i, token := a.token, key := a.key } reg (Registry.resumeAcquire b a reg ens.world).2.2 rest :=
      { carries := .goesOn hline
        base := .eraseCall name
        left := fun _ => by simp [filed]
        here := hreg
        told := hrest
        uncommitted := fun t ht => (hrestq _ ht).elim
        begins := Nat.le_of_eq hquiet.begins.symm
        begun := fun hask => absurd rfl hask
        opened := fun hask => absurd rfl hask }
    refine turnover_of_acquired hens hcarried ?_ (Registry.resumeAcquire_came b reg ens.world ha) ?_
    · simp [hstep, resume, hreg]
    · simp [moment, Moment.grant?, Event.called?, hc]

theorem turnover_poll (name : String) :
    Turnover ens (step b ens (.poll name)).2 (ens.moment b (.poll name)) := by
  cases hc : ens.calls.get? name with
  | none =>
    have hsame : step b ens (.poll name) = (.refused .notPending, ens) := by simp [step, hc]
    exact turnover_of_same hens hsame (by simp [moment, Moment.grant?, Event.called?, hc]) (by simp)
  | some c =>
    by_cases hacq : ∃ i a, c = .acquire i a
    · obtain ⟨i, a, rfl⟩ := hacq
      exact turnover_poll_acquire hens hc
    · have hother : ∀ i a, c ≠ .acquire i a := by
        rintro i a rfl
        exact hacq ⟨i, a, rfl⟩
      have hstep : step b ens (.poll name) = resume b name c { ens with calls := ens.calls.erase name } := by
        simp [step, hc]
      refine turnover_of_elsewhere hens ?_ rfl ?_ (by simp)
      · rw [hstep]
        exact (Aside.eraseCall name).trans (.resume b _ name hother fun s hs => .call name c hc hs)
      · cases c with
        | acquire i a => exact absurd rfl (hother i a)
        | _ => simp [moment, Moment.grant?, Event.called?, hc]

/-- A release takes out the entry of its token before it asks for the commit. -/
theorem turnover_of_taken {name : String} {s : SessionId} {g : Grant} {reg : Registry} {id : String}
    {p : Progress Registry.Unlocking Unit} {w : World σ} (here : ens.registries[g.registry]? = some reg)
    (line : ens.filed (.entry g.registry id) = some (s, g)) (asks : ens.world.Asks (.asked s .commit) w)
    (hstep : step b ens (.unlock name g.token g.registry) =
      unlocked b (ens.setRegistry g.registry { entries := reg.entries.erase id }) name g.registry (p, w)) :
    Turnover ens (step b ens (.unlock name g.token g.registry)).2
      (ens.moment b (.unlock name g.token g.registry)) := by
  have haside := Aside.unlocked (P := fun _ => False) b
    (ens.setRegistry g.registry { entries := reg.entries.erase id }) name g.registry (p, w)
  -- the commit comes first; a call that was kept under the name may be given up after it
  obtain ⟨rest, hrest, hquiet⟩ := asks.told
  obtain ⟨more, hmore, hspares⟩ := haside.leads.told
  have htold := hmore.trans (congrArg (· ++ more) hrest)
  rw [List.append_assoc, List.cons_append] at htold
  have hbegins := haside.leads.begins.trans asks.begins
  have hreg := (hens.registries _ reg here).erase id
  have hfiled := filed_registry ens here { entries := reg.entries.erase id } id fun _ => Keyed.get?_erase_ne _
  rw [Keyed.get?_erase_self, Option.bind_none] at hfiled
  refine .of_step hstep ?_ htold (Nat.le_of_eq hbegins.symm) (fun hask => absurd rfl hask) ?_ ?_
  · exact (hens.setRegistry g.registry hreg).same haside.registries haside.calls
  · intro t ht
    rcases haside.elsewhere t ht with ht | ht
    · exact .inl (elsewhere_of_base (.refl _ ens) ht.of_world rfl rfl fun _ _ => .inr)
    · exact ht.elim
  · intro hmoment
    refine .takes name s g reg id rfl here line haside.registries ?_ ⟨_, hmoment, ?_⟩
    · intro q y hq
      have hq' := haside.filed q y hq
      rw [filed_world, hfiled, Function.update_apply] at hq'
      split at hq'
      next => cases hq'
      next hqn => exact ⟨hqn, hq'⟩
    · intro t ht
      rcases List.mem_append.1 ht with ht | ht
      · exact (hquiet _ ht).elim
      · exact hspares _ ht t rfl

theorem turnover_unlock (name token : String) (i : Nat) :
    Turnover ens (step b ens (.unlock name token i)).2 (ens.moment b (.unlock name token i)) := by
  cases hreg : ens.registries[i]? with
  | none =>
    have hsame : step b ens (.unlock name token i) = (.refused .noRegistry, ens) := by simp [step, hreg]
    refine turnover_of_same hens hsame rfl ?_
    rintro _ _ _ ⟨⟩ id s g hline
    obtain ⟨reg, -, hreg', -⟩ := filed_entry_eq_some_iff.1 hline
    rw [hreg] at hreg'
    cases hreg'
  | some reg =>
    have hgave := Registry.unlock_gave b token ens.world (hens.registries i reg hreg)
    have hstep : step b ens (.unlock name token i) =
        unlocked b (ens.setRegistry i (Registry.unlock b token reg ens.world).2.1) name i
          ((Registry.unlock b token reg ens.world).1, (Registry.unlock b token reg ens.world).2.2) := by
      simp [step, hreg]
    generalize Registry.unlock b token reg ens.world = r at hgave hstep
    -- a token that no entry has changes nothing; the entry of a token is taken out with its session
    cases hgave with
    | @nothing w other leads =>
      rw [setRegistry_self hreg] at hstep
      refine Aside.turnover (P := ens.Elsewhere) ?_ hens rfl (Nat.le_refl _) rfl (fun _ hs => .inl hs) rfl ?_
      · rw [hstep]
        exact (Aside.world (leads.spares _)).trans (.unlocked b ens name i (.finished (), w))
      · rintro _ _ _ ⟨⟩ id s g hline
        obtain ⟨reg', h, hreg', hid, hf⟩ := filed_entry_eq_some_iff.1 hline
        rw [hreg] at hreg'
        cases hreg'
        have ht := (LockHandle.filed?_eq_some_iff.1 hf).2.1
        intro he
        exact other id h hid (he ▸ ht)
    | @one id h s p w entry hs ht asks =>
      obtain ⟨s', g, hline, hs', ht', -, hi, -⟩ := hens.filed_entry hreg entry
      rw [hs] at hs'
      cases hs'
      rw [ht] at ht'
      cases ht'
      subst hi
      exact turnover_of_taken hens hreg hline asks hstep

omit hens in
theorem onSession_aside {on : String} {f : SessionId → Reply × Ensemble σ}
    (h : ∀ s, ens.Elsewhere s → Aside ens.Elsewhere ens (f s).2) :
    Aside ens.Elsewhere ens (ens.onSession on f).2 := by
  rcases ens.onSession_cases on f with ⟨reply, -, hsame⟩ | ⟨s, hon, -, hsame⟩
  · rw [hsame]
    exact .refl _ _
  · rw [hsame]
    exact h s (.session on hon)

omit hens in
theorem onHandle_aside {on : String} {f : LockHandle → Reply × Ensemble σ}
    (h : ∀ e, ens.handles.get? on = some e → Aside ens.Elsewhere ens (f e).2) :
    Aside ens.Elsewhere ens (ens.onHandle on f).2 := by
  rcases ens.onHandle_cases on f with ⟨reply, -, hsame⟩ | ⟨e, hon, -, hsame⟩
  · rw [hsame]
    exact .refl _ _
  · rw [hsame]
    exact h e hon

omit hens in
/-- An event that no registry takes part in: it is aside, whether the next session is opened by it or not. -/
theorem step_aside {e : Event} (ask : e.asked? = none) (poll : ∀ name, e ≠ .poll name)
    (unlock : ∀ name token i, e ≠ .unlock name token i) :
    Aside ens.Elsewhere ens (step b ens e).2 ∨
      Aside (· = ens.world.begins + 1) { ens with world := ens.world.number.2 } (step b ens e).2 := by
  cases e with
  | acquire name token key i => cases ask
  | unlock name token i => exact absurd rfl (unlock name token i)
  | poll name => exact absurd rfl (poll name)
  | cancel name =>
    unfold step
    dsimp only
    cases ens.calls.get? name with
    | none => exact .inl (.refl _ _)
    | some c => exact .inl ((Aside.world ((giveUp_leads b ens c).spares _)).trans (.eraseCall name))
  | begin name =>
    unfold step
    dsimp only
    split
    next => exact .inl (.refl _ _)
    next => exact .inr (.begin b .first _ name _ rfl)
  | identify name on => exact .inl (onSession_aside fun s hs => .identify b .first ens name on s hs)
  | lock name on pair => exact .inl (onSession_aside fun s hs => .lock b .first ens name on s hs pair)
  | commit name on => exact .inl (onSession_aside fun s hs => .commit b .first ens name on s hs)
  | dropSession on =>
    refine .inl (onSession_aside fun s _ => ?_)
    exact (Aside.world ((World.drop_leads b ens.world s).spares _)).trans (.eraseSession on)
  | create name key =>
    have hasks := LockHandle.create_asks b none key ens.world
    have hleads := hasks.leads (q := Traffic.Spares (· = ens.world.begins + 1)) (by simp [Traffic.Spares])
      fun _ hy => hy.spares _
    unfold step
    dsimp only
    split
    next => exact .inl (.refl _ _)
    next => exact .inr (.created b { ens with world := ens.world.number.2 } name _
        (LockHandle.create_opens b none key ens.world) rfl hleads)
  | handleAcquire name on => exact .inl (onHandle_aside fun h hon => .handleAcquire b .first ens name on hon)
  | handleRelease name on =>
    refine .inl (onHandle_aside fun h hon => ?_)
    cases hs : h.session with
    | none =>
      unfold handleRelease
      rw [hs]
      exact .refl _ _
    | some s => exact .handleRelease b ens name on s hs (.handle on h hon hs)
  | dropHandle on =>
    refine .inl (onHandle_aside fun h _ => ?_)
    exact (Aside.world ((LockHandle.discard_leads b ens.world h).spares _)).trans (.eraseHandle on)
  | elapse d => exact .inl (.world ⟨rfl, [], (List.append_nil _).symm, by simp⟩)

/-- An event that no registry takes part in lets the tables rest. -/
theorem turnover_of_aside {e : Event} (h : Aside ens.Elsewhere ens (step b ens e).2 ∨
      Aside (· = ens.world.begins + 1) { ens with world := ens.world.number.2 } (step b ens e).2)
    (ask : e.asked? = none) (grant : (ens.moment b e).grant? = none)
    (nothing : ∀ name token i, e ≠ .unlock name token i) : Turnover ens (step b ens e).2 (ens.moment b e) := by
  rcases h with h | h
  · exact turnover_of_elsewhere hens h ask grant nothing
  · refine Aside.turnover h hens rfl (Nat.le_succ _) ask ?_ grant fun name token i he => absurd he (nothing name token i)
    rintro s rfl
    exact .inr ⟨rfl, Nat.le_refl _⟩

/-- What every event does to the tables of registries, for every backend. -/
theorem step_turnover (e : Event) : Turnover ens (step b ens e).2 (ens.moment b e) := by
  cases e with
  | acquire name token key i => exact turnover_acquire hens name token key i
  | unlock name token i => exact turnover_unlock hens name token i
  | poll name => exact turnover_poll hens name
  | _ => exact turnover_of_aside hens (step_aside rfl (by simp) (by simp)) rfl rfl (by simp)

end Events

/-! ## Lines after an event -/

/-- A line was there before the event, or it is the one of the acquisition that the event carries on. -/
theorem Turns.line {ens ens' : Ensemble σ} {m : Moment} (t : ens.Turns ens' m) {p : Place} {s : SessionId} {g : Grant}
    (hp : ens'.filed p = some (s, g)) : ens.filed p = some (s, g) ∨ ∃ name, ens.Carries name s g m.event := by
  cases t with
  | rests _ _ lines _ _ => exact .inl (lines p _ hp)
  | waits name s₀ g₀ carries _ _ _ lines _ =>
    rcases lines p _ hp with ⟨-, he⟩ | ⟨hline, -⟩
    · cases he
      exact .inr ⟨name, carries⟩
    · exact .inl hline
  | files name s₀ g₀ reg e carries _ _ _ _ _ _ lines _ =>
    rcases lines p _ hp with ⟨-, he⟩ | ⟨hline, -⟩
    · cases he
      exact .inr ⟨name, carries⟩
    · exact .inl hline
  | takes name s₀ g₀ reg id _ _ _ _ lines _ => exact .inl (lines p _ hp).2

/-! ## Lines that differ -/

section Apart

variable {ens ens' : Ensemble σ} {κ : Type} (f : SessionId × Grant → κ)

/-- Places with lines that do not differ in some respect are the same place. -/
def LinesApart (ens : Ensemble σ) : Prop :=
  ∀ p q x y, ens.filed p = some x → ens.filed q = some y → f x = f y → p = q

variable {f}

theorem Moves.apart {e : Event} {name : String} {p : Place} {s : SessionId} {g : Grant}
    (lines : ens.Moves ens' e name p (s, g)) (carries : ens.Carries name s g e) (h : ens.LinesApart f)
    (fresh : e.asked? = some g.token → s = ens.world.begins + 1 →
      ∀ q y, ens.filed q = some y → f y ≠ f (s, g)) : ens'.LinesApart f := by
  -- no line that is still there is like the one that comes
  have hnew : ∀ q y, ens.filed q = some y → (e = .poll name → q ≠ .call name) → f y ≠ f (s, g) := by
    intro q y hline hleft hsame
    cases carries with
    | starts hs => exact fresh rfl hs q y hline hsame
    | goesOn line => exact hleft rfl (h q _ y _ hline line hsame)
  intro q q' x y hq hq' hsame
  rcases lines q x hq with ⟨rfl, rfl⟩ | ⟨hline, hleft⟩
  · rcases lines q' y hq' with ⟨rfl, -⟩ | ⟨hline', hleft'⟩
    · rfl
    · exact absurd hsame.symm (hnew q' y hline' hleft')
  · rcases lines q' y hq' with ⟨rfl, rfl⟩ | ⟨hline', -⟩
    · exact absurd hsame (hnew q x hline hleft)
    · exact h q q' x y hline hline' hsame

/-- Lines still differ after an event, when the line of a new acquisition differs from those that were there. -/
theorem Turns.apart {m : Moment} (t : ens.Turns ens' m) (h : ens.LinesApart f)
    (fresh : ∀ g, m.event.asked? = some g.token → ∀ q y, ens.filed q = some y → f y ≠ f (ens.world.begins + 1, g)) :
    ens'.LinesApart f := by
  have hfresh : ∀ s g, m.event.asked? = some g.token → s = ens.world.begins + 1 →
      ∀ q y, ens.filed q = some y → f y ≠ f (s, g) := by
    rintro _ g hask rfl
    exact fresh g hask
  cases t with
  | rests _ _ lines _ _ => exact fun p q x y hp hq => h p q x y (lines p x hp) (lines q y hq)
  | waits name s g carries _ _ _ lines _ => exact lines.apart carries h (hfresh s g)
  | files name s g reg e carries _ _ _ _ _ _ lines _ => exact lines.apart carries h (hfresh s g)
  | takes name s g reg id _ _ _ _ lines _ => exact fun p q x y hp hq => h p q x y (lines p x hp).2 (lines q y hq).2

end Apart

end Ensemble

/-- The tables of every run are tidy, whatever the backend answers. -/
theorem Run.tidy_of {σ : Type} (b : Backend σ) (st : σ) (n : Nat) (hs : List (Happening σ)) :
    (Run.of b st n hs).ensemble.Tidy := by
  refine Run.of_induction (P := fun r => r.ensemble.Tidy) (Ensemble.tidy_ofBackend st n) ?_ hs
  rintro r (e | f) h
  · exact (Ensemble.step_turnover h e).tidy
  · exact h.same rfl fun _ _ _ => id

end NamedLock
