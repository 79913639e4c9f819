import NamedLock.Proofs.Ensemble.Release

/-!
# Recording — what each event adds to the metrics

An event records something when an acquisition fails or a release ends, and nothing otherwise. Almost every operation
is silent: it leaves metrics and clock as they are. `step_metrics` says what an event records, for every backend.
-/

namespace NamedLock

/-- The key of an acquisition that failed, by its reply. -/
def Reply.failed? (key : LockKey) : Reply → Option LockKey
  | .lockError _ => some key
  | _ => none

/-- The key of the acquisition that a moment ends with an error. -/
def Moment.failed? (m : Moment) : Option LockKey :=
  match m.event, m.call with
  | .acquire _ _ key _, _ => m.reply.failed? key
  | .poll _, some (.acquire _ a) => m.reply.failed? a.key
  | _, _ => none

namespace Metrics

/-- The outcome of a release whose commit was answered. -/
def Outcome.ofCommit : Except DatabaseError Unit → Outcome
  | .ok _ => .ok
  | .error _ => .unlockError

/-- What is recorded of an acquisition that failed. -/
def failed : Option LockKey → Recording
  | some key => lockFailed key.lockClass
  | none => []

/-- What is recorded of a release that ends at this time. -/
def ended (now : Nanos) : Option (Registry.Unlocking × Except DatabaseError Unit) → Recording
  | some (u, answer) => lockEnded u.lockClass (.ofCommit answer) (now - u.acquiredAt)
  | none => []

end Metrics

/-- What an event records. -/
def Ensemble.recorded {σ : Type} (b : Backend σ) (ens : Ensemble σ) (e : Event) : Metrics.Recording :=
  Metrics.failed (ens.moment b e).failed? ++ Metrics.ended ens.world.now (ens.ends? b e)

/-! ## Silence -/

namespace World

variable {σ : Type}

/-- One world becomes another one, and nothing is recorded meanwhile. -/
structure Silent (w w' : World σ) : Prop where
  metrics : w'.metrics = w.metrics
  now : w'.now = w.now

variable {w w' w'' : World σ}

theorem Silent.refl (w : World σ) : w.Silent w := ⟨rfl, rfl⟩

theorem Silent.trans (h : w.Silent w') (h' : w'.Silent w'') : w.Silent w'' :=
  ⟨h'.metrics.trans h.metrics, h'.now.trans h.now⟩

section Operations

variable (b : Backend σ) (turn : Turn) (w : World σ) (s : SessionId) (r : Request)

theorem poll_silent : w.Silent (w.poll b turn s r).2 := by
  cases turn <;> exact ⟨rfl, rfl⟩

end Operations

end World

namespace LockHandle

open World

variable {σ : Type} (b : Backend σ) (turn : Turn) (span : Option Log.Span) (key : LockKey) (s : SessionId)
  (w : World σ)

theorem identify_silent : w.Silent (identify b turn span key s w).2 := by
  have hpoll := poll_silent b turn w s .transactionId
  unfold identify
  cases hp : w.poll b turn s .transactionId with
  | mk p w' =>
    rw [hp] at hpoll
    cases p with
    | pending => exact hpoll
    | ready answer => cases answer <;> exact ⟨hpoll.metrics, hpoll.now⟩

theorem begin_silent : w.Silent (begin b turn span key s w).2 := by
  have hpoll := poll_silent b turn w s .begin
  unfold begin
  cases hp : w.poll b turn s .begin with
  | mk p w' =>
    rw [hp] at hpoll
    cases p with
    | pending => exact hpoll
    | ready answer =>
      cases answer with
      | error e => exact hpoll
      | ok u => exact hpoll.trans (identify_silent b .first span key s w')

theorem create_silent : w.Silent (create b span key w).2 := by
  have hbegin := begin_silent b .first span key (w.begins + 1) w.number.2
  exact ⟨hbegin.metrics, hbegin.now⟩

theorem resume_silent (o : Opening) : w.Silent (o.resume b span key w).2 := by
  cases o with
  | beginning s => exact begin_silent b .later span key s w
  | identifying s => exact identify_silent b .later span key s w

theorem cancel_silent (o : Opening) : w.Silent (o.cancel b w) := by
  cases o <;> exact ⟨rfl, rfl⟩

theorem acquire_silent (h : LockHandle) : w.Silent (h.acquire b turn span w).2 := by
  unfold acquire
  cases h.key with
  | none => exact .refl _
  | some key =>
    cases h.session with
    | none => exact .refl _
    | some s =>
      have hasked : w.Silent (announce turn span key h.transactionId w) := by
        cases turn <;> exact ⟨rfl, rfl⟩
      have hpoll := hasked.trans (poll_silent b turn _ s (.lock key.hashes))
      dsimp only
      cases hp : (announce turn span key h.transactionId w).poll b turn s (.lock key.hashes) with
      | mk p w' =>
        rw [hp] at hpoll
        cases p with
        | pending => exact hpoll
        | ready answer => cases answer <;> exact hpoll

theorem commit_silent : w.Silent (commit b turn s w).2 := by
  have hpoll := poll_silent b turn w s .commit
  unfold commit
  cases hp : w.poll b turn s .commit with
  | mk p w' =>
    rw [hp] at hpoll
    cases p with
    | pending => exact hpoll
    | ready answer => exact ⟨hpoll.metrics, hpoll.now⟩

theorem discard_silent (h : LockHandle) : w.Silent (h.discard b w) := by
  unfold discard
  cases h.session <;> exact ⟨rfl, rfl⟩

end LockHandle

/-! ## Registries -/

namespace Registry

open World

variable {σ : Type} (b : Backend σ) (turn : Turn) (token : String) (key : LockKey) (reg : Registry) (w : World σ)

/-- The key of an acquisition that failed. -/
def failed? (key : LockKey) : Acquired → Option LockKey
  | .finished (.error _) => some key
  | _ => none

theorem enter_silent (h : LockHandle) : w.Silent (enter b token key h reg w).2 := by
  unfold enter
  dsimp only
  cases reg.entries.get? key.encoded with
  | none => exact ⟨rfl, rfl⟩
  | some stale =>
    have hdiscard := LockHandle.discard_silent b (w.tell (displacedEvent key stale)) stale
    exact ⟨hdiscard.metrics, hdiscard.now⟩

/-- An acquisition records its failure. -/
theorem lock_metrics (h : LockHandle) :
    (lock b turn token key h reg w).2.2.metrics =
      w.metrics ++ Metrics.failed (failed? key (lock b turn token key h reg w).1) := by
  have hacquire := LockHandle.acquire_silent b turn (some (acquireSpan key)) w h
  unfold lock
  cases hp : h.acquire b turn (some (acquireSpan key)) w with
  | mk p w' =>
    have hmetrics : w'.metrics = w.metrics := by
      rw [hp] at hacquire
      exact hacquire.metrics
    cases p with
    | pending => simp [failed?, Metrics.failed, hmetrics]
    | ready answer =>
      cases answer with
      | error e =>
        have hdiscard := LockHandle.discard_silent b (fail key "Error obtaining the advisory lock" e w') h
        have hfail : (fail key "Error obtaining the advisory lock" e w').metrics =
            w'.metrics ++ Metrics.lockFailed key.lockClass := rfl
        simp only [failed?, Metrics.failed, hdiscard.metrics, hfail, hmetrics]
      | ok h' =>
        have henter : (enter b token key h' reg w').2.metrics = w'.metrics :=
          (enter_silent b token key reg w' h').metrics
        simp [failed?, Metrics.failed, henter, hmetrics]

theorem opened_metrics (r : Progress LockHandle.Opening (Except LockError LockHandle) × World σ) :
    (opened b token key reg r).2.2.metrics =
      r.2.metrics ++ Metrics.failed (failed? key (opened b token key reg r).1) := by
  rcases r with ⟨p, w'⟩
  cases p with
  | suspended o => simp [opened, failed?, Metrics.failed]
  | finished answer =>
    cases answer with
    | error e => simp [opened, failed?, Metrics.failed, fail, World.tell, World.record]
    | ok h => exact lock_metrics b .first token key reg w' h

theorem acquire_metrics :
    (acquire b token key reg w).2.2.metrics =
      w.metrics ++ Metrics.failed (failed? key (acquire b token key reg w).1) := by
  have hcreate := LockHandle.create_silent b (some (acquireSpan key)) key w
  rw [← hcreate.metrics]
  exact opened_metrics b token key reg _

theorem resumeAcquire_metrics (a : Acquisition) :
    (resumeAcquire b a reg w).2.2.metrics =
      w.metrics ++ Metrics.failed (failed? a.key (resumeAcquire b a reg w).1) := by
  unfold resumeAcquire
  cases a.stage with
  | opening o =>
    have hresume := LockHandle.resume_silent b (some (acquireSpan a.key)) a.key w o
    rw [← hresume.metrics]
    exact opened_metrics b a.token a.key reg _
  | locking h => exact lock_metrics b .later a.token a.key reg w h

theorem cancelAcquire_silent (a : Acquisition) : w.Silent (cancelAcquire b a w) := by
  unfold cancelAcquire
  cases a.stage with
  | opening o => exact LockHandle.cancel_silent b w o
  | locking h =>
    dsimp only
    cases h.session <;> exact ⟨rfl, rfl⟩

/-- A release records how it ends. -/
theorem finish_metrics (u : Unlocking) :
    (finish b turn u w).2.metrics = w.metrics ++
      Metrics.ended w.now (match (w.poll b turn u.session .commit).1 with
        | .ready answer => some (u, answer)
        | .pending => none) := by
  have hpoll := poll_silent b turn w u.session .commit
  rcases finish_cases b turn u w with ⟨hp, hfinish⟩ | ⟨answer, hp, hfinish⟩
  · rw [hp, hfinish]
    simp [Metrics.ended, hpoll.metrics]
  · rw [hp, hfinish]
    cases answer <;>
      simp [Metrics.ended, Metrics.Outcome.ofCommit, conclude, Except.mapError, World.tell, World.record, World.drop,
        hpoll.metrics, hpoll.now]

end Registry

/-! ## Ensembles -/

namespace Ensemble

open World

variable {σ : Type} (b : Backend σ) (turn : Turn) (ens : Ensemble σ) (name on : String) (s : SessionId)

theorem giveUp_silent (c : Call) : ens.world.Silent (giveUp b ens c) := by
  cases c with
  | acquire i a => exact Registry.cancelAcquire_silent b ens.world a
  | create key o => exact LockHandle.cancel_silent b ens.world o
  | handleAcquire on =>
    unfold giveUp
    dsimp only
    cases (ens.handles.get? on).bind (·.session) <;> exact ⟨rfl, rfl⟩
  | _ => exact ⟨rfl, rfl⟩

/-- A call that is kept records nothing, whatever it takes the place of. -/
theorem keep_silent (c : Call) : ens.world.Silent (keep b ens name c).2.world := by
  unfold keep
  dsimp only
  cases ens.calls.get? name with
  | none => exact .refl _
  | some old => exact giveUp_silent b ens old

theorem acquired_silent (i : Nat) (r : Registry.Acquired × Registry × World σ) :
    r.2.2.Silent (acquired b ens name i r).2.world := by
  rcases r with ⟨p, reg, w⟩
  cases p with
  | suspended a => exact keep_silent b { ens.setRegistry i reg with world := w } name (.acquire i a)
  | finished answer => cases answer <;> exact .refl _

/-- An acquisition fails for its caller when it fails. -/
theorem acquired_failed? (key : LockKey) (i : Nat) (r : Registry.Acquired × Registry × World σ) :
    (acquired b ens name i r).1.failed? key = Registry.failed? key r.1 := by
  rcases r with ⟨p, reg, w⟩
  cases p with
  | suspended a => rfl
  | finished answer => cases answer <;> rfl

theorem unlocked_silent (i : Nat) (r : Progress Registry.Unlocking Unit × World σ) :
    r.2.Silent (unlocked b ens name i r).2.world := by
  rcases r with ⟨p, w⟩
  cases p with
  | suspended u => exact keep_silent b { ens with world := w } name (.unlock i u)
  | finished _ => exact .refl _

/-- Whatever a request comes to, its world is kept or given to a call. -/
theorem poll_silent_then {r : Request} {p : Poll r.Answer} {w : World σ} (hp : ens.world.poll b turn s r = (p, w)) :
    ens.world.Silent w := by
  have hpoll := poll_silent b turn ens.world s r
  rwa [hp] at hpoll

theorem begin_silent : ens.world.Silent (begin b turn name s ens).2.world := by
  unfold begin
  cases hp : ens.world.poll b turn s .begin with
  | mk p w =>
    have hpoll := poll_silent_then b turn ens s hp
    cases p with
    | pending => exact hpoll.trans (keep_silent b { ens with world := w } name _)
    | ready answer =>
      cases answer with
      | error e => exact hpoll
      | ok u => cases ens.sessions.get? name <;> exact ⟨hpoll.metrics, hpoll.now⟩

theorem identify_silent : ens.world.Silent (identify b turn name on s ens).2.world := by
  unfold identify
  cases hp : ens.world.poll b turn s .transactionId with
  | mk p w =>
    have hpoll := poll_silent_then b turn ens s hp
    cases p with
    | pending => exact hpoll.trans (keep_silent b { ens with world := w } name _)
    | ready answer => cases answer <;> exact hpoll

theorem lock_silent (pair : HashPair) : ens.world.Silent (lock b turn name on s pair ens).2.world := by
  unfold lock
  cases hp : ens.world.poll b turn s (.lock pair) with
  | mk p w =>
    have hpoll := poll_silent_then b turn ens s hp
    cases p with
    | pending => exact hpoll.trans (keep_silent b { ens with world := w } name _)
    | ready answer => exact hpoll

theorem commit_silent : ens.world.Silent (commit b turn name on s ens).2.world := by
  unfold commit
  cases hp : ens.world.poll b turn s .commit with
  | mk p w =>
    have hpoll := poll_silent_then b turn ens s hp
    cases p with
    | pending => exact hpoll.trans (keep_silent b { ens with world := w } name _)
    | ready answer => exact hpoll

theorem created_silent (key : LockKey) (r : Progress LockHandle.Opening (Except LockError LockHandle) × World σ) :
    r.2.Silent (created b ens name key r).2.world := by
  rcases r with ⟨p, w⟩
  cases p with
  | suspended o => exact keep_silent b { ens with world := w } name _
  | finished answer =>
    cases answer with
    | error e => exact .refl _
    | ok h =>
      unfold created
      dsimp only
      cases ens.handles.get? name with
      | none => exact .refl _
      | some old => exact LockHandle.discard_silent b w old

theorem handleAcquire_silent (h : LockHandle) : ens.world.Silent (handleAcquire b turn name on h ens).2.world := by
  have hacquire := LockHandle.acquire_silent b turn none ens.world h
  unfold handleAcquire
  cases hp : h.acquire b turn none ens.world with
  | mk p w =>
    rw [hp] at hacquire
    cases p with
    | pending => exact hacquire.trans (keep_silent b { ens with world := w } name _)
    | ready answer => cases answer <;> exact hacquire

theorem handleCommit_silent : ens.world.Silent (handleCommit b turn name on s ens).2.world := by
  have hcommit := LockHandle.commit_silent b turn s ens.world
  unfold handleCommit
  cases hp : LockHandle.commit b turn s ens.world with
  | mk p w =>
    rw [hp] at hcommit
    cases p with
    | pending => exact hcommit.trans (keep_silent b { ens with world := w } name _)
    | ready answer => cases answer <;> exact hcommit

theorem handleRelease_silent (h : LockHandle) : ens.world.Silent (handleRelease b name on h ens).2.world := by
  unfold handleRelease
  cases h.session with
  | none => exact .refl _
  | some s =>
    exact handleCommit_silent b .first { ens with handles := ens.handles.set on { h with session := none } } name on s

theorem onSession_silent {f : SessionId → Reply × Ensemble σ} (h : ∀ s, ens.world.Silent (f s).2.world) :
    ens.world.Silent (ens.onSession on f).2.world := by
  rcases ens.onSession_cases on f with ⟨reply, -, hsame⟩ | ⟨s, -, -, hsame⟩
  · rw [hsame]
    exact .refl _
  · rw [hsame]
    exact h s

theorem onHandle_silent {f : LockHandle → Reply × Ensemble σ} (h : ∀ e, ens.world.Silent (f e).2.world) :
    ens.world.Silent (ens.onHandle on f).2.world := by
  rcases ens.onHandle_cases on f with ⟨reply, -, hsame⟩ | ⟨e, -, -, hsame⟩
  · rw [hsame]
    exact .refl _
  · rw [hsame]
    exact h e

theorem silent_unless_busy (busy : Bool) {r : Reply × Ensemble σ} (h : ens.world.Silent r.2.world) :
    ens.world.Silent (if busy then (.busy, ens) else r).2.world := by
  cases busy with
  | true => exact .refl _
  | false => exact h

/-- A call that no registry makes is looked at again without a record. -/
theorem resume_silent {c : Call} (hacq : ∀ i a, c ≠ .acquire i a) (hunl : ∀ i u, c ≠ .unlock i u) :
    ens.world.Silent (resume b name c ens).2.world := by
  cases c with
  | acquire i a => exact absurd rfl (hacq i a)
  | unlock i u => exact absurd rfl (hunl i u)
  | begin s => exact begin_silent b .later ens name s
  | lock on s pair => exact lock_silent b .later ens name on s pair
  | identify on s => exact identify_silent b .later ens name on s
  | commit on s => exact commit_silent b .later ens name on s
  | create key o =>
    exact (LockHandle.resume_silent b none key ens.world o).trans (created_silent b ens name key _)
  | handleAcquire on =>
    unfold resume
    dsimp only
    cases ens.handles.get? on with
    | none => exact .refl _
    | some h => exact handleAcquire_silent b .later ens name on h
  | handleRelease on s => exact handleCommit_silent b .later ens name on s

/-! ## What an event records -/

section Recorded

variable {b : Backend σ} {ens : Ensemble σ} {e : Event}

/-- A silent event records nothing. -/
theorem metrics_of_silent (h : ens.world.Silent (step b ens e).2.world) (failed : (ens.moment b e).failed? = none)
    (ends : ens.ends? b e = none) : (step b ens e).2.world.metrics = ens.world.metrics ++ ens.recorded b e := by
  rw [h.metrics, recorded, failed, ends]
  exact (List.append_nil _).symm

theorem metrics_acquire (name token : String) (key : LockKey) (i : Nat) :
    (step b ens (.acquire name token key i)).2.world.metrics =
      ens.world.metrics ++ ens.recorded b (.acquire name token key i) := by
  cases hreg : ens.registries[i]? with
  | none =>
    have hstep : step b ens (.acquire name token key i) = (.refused .noRegistry, ens) := by simp [step, hreg]
    refine metrics_of_silent (hstep ▸ .refl _) ?_ rfl
    simp [moment, Moment.failed?, hstep, Reply.failed?]
  | some reg =>
    have hstep : step b ens (.acquire name token key i) =
        acquired b ens name i (Registry.acquire b token key reg ens.world) := by simp [step, hreg]
    have hfailed : (ens.moment b (.acquire name token key i)).failed? =
        Registry.failed? key (Registry.acquire b token key reg ens.world).1 := by
      rw [← acquired_failed? b ens name key i, ← hstep]
      rfl
    rw [hstep, (acquired_silent b ens name i _).metrics, Registry.acquire_metrics, recorded, hfailed]
    simp [ends?, commits?, Metrics.ended]

theorem metrics_unlock (hens : ens.Tidy) (name token : String) (i : Nat) :
    (step b ens (.unlock name token i)).2.world.metrics =
      ens.world.metrics ++ ens.recorded b (.unlock name token i) := by
  cases hreg : ens.registries[i]? with
  | none =>
    have hstep : step b ens (.unlock name token i) = (.refused .noRegistry, ens) := by simp [step, hreg]
    exact metrics_of_silent (hstep ▸ .refl _) rfl (by simp [ends?, commits?, starts?, hreg])
  | some reg =>
    have hstep : step b ens (.unlock name token i) =
        unlocked b (ens.setRegistry i (Registry.unlock b token reg ens.world).2.1) name i
          ((Registry.unlock b token reg ens.world).1, (Registry.unlock b token reg ens.world).2.2) := by
      simp [step, hreg]
    rcases Registry.unlock_cases b (hens.registries i reg hreg) token ens.world with
      ⟨hnone, hunlock⟩ | ⟨u, h, hsome, -, -, hunlock⟩
    · rw [hunlock] at hstep
      refine metrics_of_silent (hstep ▸ ⟨rfl, rfl⟩) rfl (by simp [ends?, commits?, starts?, hreg, hnone])
    · rw [hunlock] at hstep
      have hends : ens.ends? b (.unlock name token i) =
          match (ens.world.poll b .first u.session .commit).1 with
          | .ready answer => some (u, answer)
          | .pending => none := by
        simp only [ends?, commits?, starts?, hreg, Option.bind_some, hsome, Option.map_some, World.poll]
        cases (b.start u.session .commit ens.world.sessions).1 <;> rfl
      have hsilent := unlocked_silent b (ens.setRegistry i { entries := reg.entries.erase u.lockId }) name i
        (Registry.finish b .first u ens.world)
      rw [hstep, hsilent.metrics, Registry.finish_metrics, recorded, hends]
      rfl

theorem metrics_poll (name : String) :
    (step b ens (.poll name)).2.world.metrics = ens.world.metrics ++ ens.recorded b (.poll name) := by
  cases hc : ens.calls.get? name with
  | none =>
    have hstep : step b ens (.poll name) = (.refused .notPending, ens) := by simp [step, hc]
    refine metrics_of_silent (hstep ▸ .refl _) ?_ (by simp [ends?, commits?, hc])
    simp [moment, Moment.failed?, Event.called?, hc]
  | some c =>
    have hstep : step b ens (.poll name) = resume b name c { ens with calls := ens.calls.erase name } := by
      simp [step, hc]
    -- only acquisitions fail, and only releases end
    cases c with
    | acquire i a =>
      have hends : ens.ends? b (.poll name) = none := by simp [ends?, commits?, hc, Call.unlocking?]
      cases hreg : ens.registries[i]? with
      | none =>
        have hgone : step b ens (.poll name) = (.refused .noRegistry, { ens with calls := ens.calls.erase name }) := by
          simp [hstep, resume, hreg]
        refine metrics_of_silent (hgone ▸ .refl _) ?_ hends
        simp [moment, Moment.failed?, Event.called?, hc, hgone, Reply.failed?]
      | some reg =>
        have hresume : step b ens (.poll name) = acquired b { ens with calls := ens.calls.erase name } name i
            (Registry.resumeAcquire b a reg ens.world) := by simp [hstep, resume, hreg]
        have hfailed : (ens.moment b (.poll name)).failed? =
            Registry.failed? a.key (Registry.resumeAcquire b a reg ens.world).1 := by
          rw [← acquired_failed? b { ens with calls := ens.calls.erase name } name a.key i, ← hresume]
          simp [moment, Moment.failed?, Event.called?, hc]
        rw [hresume, (acquired_silent b _ name i _).metrics, Registry.resumeAcquire_metrics, recorded, hfailed, hends]
        simp [Metrics.ended]
    | unlock i u =>
      have hends : ens.ends? b (.poll name) =
          match (ens.world.poll b .later u.session .commit).1 with
          | .ready answer => some (u, answer)
          | .pending => none := by
        simp only [ends?, commits?, hc, Option.bind_some, Call.unlocking?, Option.map_some, World.poll]
        cases (b.resume u.session .commit ens.world.sessions).1 <;> rfl
      have hfailed : (ens.moment b (.poll name)).failed? = none := by
        simp [moment, Moment.failed?, Event.called?, hc]
      have hresume : step b ens (.poll name) = unlocked b { ens with calls := ens.calls.erase name } name i
          (Registry.finish b .later u ens.world) := hstep
      rw [hresume, (unlocked_silent b _ name i _).metrics, Registry.finish_metrics, recorded, hfailed, hends]
      rfl
    | _ =>
      refine metrics_of_silent ?_ (by simp [moment, Moment.failed?, Event.called?, hc])
        (by simp [ends?, commits?, hc, Call.unlocking?])
      rw [hstep]
      exact resume_silent b { ens with calls := ens.calls.erase name } name (by simp) (by simp)

/-- An event records the failure of an acquisition or the end of a release, and nothing else, for every backend. -/
theorem step_metrics (b : Backend σ) (hens : ens.Tidy) (e : Event) :
    (step b ens e).2.world.metrics = ens.world.metrics ++ ens.recorded b e := by
  cases e with
  | acquire name token key i => exact metrics_acquire name token key i
  | unlock name token i => exact metrics_unlock hens name token i
  | poll name => exact metrics_poll name
  | cancel name =>
    refine metrics_of_silent ?_ rfl rfl
    cases hc : ens.calls.get? name with
    | none =>
      have hstep : step b ens (.cancel name) = (.refused .notPending, ens) := by simp [step, hc]
      exact hstep ▸ .refl _
    | some c =>
      have hstep : step b ens (.cancel name) =
          (.done, { ens with world := giveUp b ens c, calls := ens.calls.erase name }) := by simp [step, hc]
      rw [hstep]
      exact giveUp_silent b ens c
  | begin name =>
    have hbegin := begin_silent b .first { ens with world := ens.world.number.2 } name (ens.world.begins + 1)
    exact metrics_of_silent (silent_unless_busy ens (ens.sessionBusy name) ⟨hbegin.metrics, hbegin.now⟩) rfl rfl
  | identify name on =>
    exact metrics_of_silent (onSession_silent ens on fun s => identify_silent b .first ens name on s) rfl rfl
  | lock name on pair =>
    exact metrics_of_silent (onSession_silent ens on fun s => lock_silent b .first ens name on s pair) rfl rfl
  | commit name on =>
    exact metrics_of_silent (onSession_silent ens on fun s => commit_silent b .first ens name on s) rfl rfl
  | dropSession on => exact metrics_of_silent (onSession_silent ens on fun s => ⟨rfl, rfl⟩) rfl rfl
  | create name key =>
    have hcreate := LockHandle.create_silent b none key ens.world
    exact metrics_of_silent (silent_unless_busy ens (ens.handleBusy name)
      (hcreate.trans (created_silent b ens name key _))) rfl rfl
  | handleAcquire name on =>
    exact metrics_of_silent (onHandle_silent ens on fun h => handleAcquire_silent b .first ens name on h) rfl rfl
  | handleRelease name on =>
    exact metrics_of_silent (onHandle_silent ens on fun h => handleRelease_silent b ens name on h) rfl rfl
  | dropHandle on =>
    exact metrics_of_silent (onHandle_silent ens on fun h => LockHandle.discard_silent b ens.world h) rfl rfl
  -- time passes, which is not silent but records nothing either
  | elapse d => exact (List.append_nil _).symm

/-! ## Events that record nothing -/

/-- An acquisition fails by the reply to its event. -/
theorem failed?_of_pending (h : (step b ens e).1 = .pending) : (ens.moment b e).failed? = none := by
  have hreply : (ens.moment b e).reply = .pending := h
  unfold Moment.failed?
  rw [hreply]
  split <;> rfl

/-- An event with a release that ends does not wait. -/
theorem ends?_of_pending (hens : ens.Tidy) (h : (step b ens e).1 = .pending) : ens.ends? b e = none := by
  cases e with
  | unlock name token i =>
    cases hreg : ens.registries[i]? with
    | none => simp [ends?, commits?, starts?, hreg]
    | some reg =>
      rcases Registry.unlock_cases b (hens.registries i reg hreg) token ens.world with
        ⟨hnone, -⟩ | ⟨u, h', hsome, -, -, hunlock⟩
      · simp [ends?, commits?, starts?, hreg, hnone]
      · rcases Registry.finish_cases b .first u ens.world with ⟨hp, -⟩ | ⟨answer, -, hfinish⟩
        · have hcommit : (b.start u.session .commit ens.world.sessions).1 = .pending := hp
          simp [ends?, commits?, starts?, hreg, hsome, hcommit]
        · simp [step, hreg, hunlock, hfinish, unlocked] at h
  | poll name =>
    cases hc : ens.calls.get? name with
    | none => simp [ends?, commits?, hc]
    | some c =>
      cases c with
      | unlock i u =>
        rcases Registry.finish_cases b .later u ens.world with ⟨hp, -⟩ | ⟨answer, -, hfinish⟩
        · have hcommit : (b.resume u.session .commit ens.world.sessions).1 = .pending := hp
          simp [ends?, commits?, hc, Call.unlocking?, hcommit]
        · simp [step, hc, resume, Registry.resumeUnlock, hfinish, unlocked] at h
      | _ => simp [ends?, commits?, hc, Call.unlocking?]
  | _ => rfl

/-- A token that no entry has starts no release. -/
theorem starts?_of_unmatched {name token : String} {i : Nat}
    (h : ∀ reg id h, ens.registries[i]? = some reg → reg.entries.get? id = some h → h.ownerToken ≠ some token)
    (hens : ens.Tidy) : ens.starts? (.unlock name token i) = none := by
  cases hreg : ens.registries[i]? with
  | none => simp [starts?, hreg]
  | some reg =>
    have hfind : (reg.entries.find? fun e => e.2.ownerToken = some token) = none := by
      rw [List.find?_eq_none]
      rintro ⟨id, e⟩ he
      have hid := (Keyed.get?_eq_some_iff (hens.registries i reg hreg).nodup).2 he
      simpa using h reg id e hreg hid
    simp [starts?, hreg, Registry.release?, hfind]

/-- An event that waits, or cancels a call, or presents a token that no entry has. -/
inductive Idle (b : Backend σ) (ens : Ensemble σ) : Event → Prop
  | waits {e : Event} (h : (step b ens e).1 = .pending) : Idle b ens e
  | cancels (name : String) : Idle b ens (.cancel name)
  | unmatched (name : String) {token : String} {i : Nat}
    (h : ∀ reg id h, ens.registries[i]? = some reg → reg.entries.get? id = some h → h.ownerToken ≠ some token) :
    Idle b ens (.unlock name token i)

theorem Idle.metrics (h : Idle b ens e) (hens : ens.Tidy) : (step b ens e).2.world.metrics = ens.world.metrics := by
  have hnothing : ens.recorded b e = [] := by
    cases h with
    | waits h => rw [recorded, failed?_of_pending h, ends?_of_pending hens h]; rfl
    | cancels name => rfl
    | @unmatched name token i h =>
      have hends : ens.ends? b (.unlock name token i) = none := by
        simp [ends?, commits?, starts?_of_unmatched h hens]
      rw [recorded, hends]
      rfl
  rw [step_metrics b hens, hnothing, List.append_nil]

end Recorded

end Ensemble

end NamedLock
