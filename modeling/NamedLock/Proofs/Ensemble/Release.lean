import NamedLock.Proofs.Ensemble.Places

/-!
# Release — locks that are given up, and the calls that wait

A token starts a release when a table has an entry with it, and the release ends with the answer to its commit. Until
then it may wait in a call. An event keeps at most one call, which takes the place of the one that was kept under its
name; `step_calls` says which calls wait after each event, for every backend.
-/

namespace NamedLock

/-- The release that waits in a call. -/
def Call.unlocking? : Call → Option Registry.Unlocking
  | .unlock _ u => some u
  | _ => none

/-- The name under which an event keeps its call when it has to wait. -/
def Event.name? : Event → Option String
  | .acquire name _ _ _ => some name
  | .unlock name _ _ => some name
  | .begin name => some name
  | .identify name _ => some name
  | .lock name _ _ => some name
  | .commit name _ => some name
  | .create name _ => some name
  | .handleAcquire name _ => some name
  | .handleRelease name _ => some name
  | _ => none

namespace Registry

variable {σ : Type}

/-- The release of an entry. -/
def releaseOf? (token : String) (e : String × LockHandle) : Option Unlocking :=
  match e.2.key, e.2.session with
  | some key, some session =>
    some { token, lockId := e.1, lockClass := key.lockClass, session, acquiredAt := e.2.acquiredAt }
  | _, _ => none

/-- The release that a token starts: the one of the first entry with the token. -/
def release? (token : String) (reg : Registry) : Option Unlocking :=
  (reg.entries.find? fun e => e.2.ownerToken = some token).bind (releaseOf? token)

/-- Where every entry has a token, the one that is found is the first one with the token asked for. -/
theorem findOwned_eq_find? (token : String) (es : List (String × LockHandle))
    (hes : ∀ e ∈ es, ∃ t, e.2.ownerToken = some t) :
    findOwned token es = ((es.find? fun e => e.2.ownerToken = some token).map (·.1), []) := by
  induction es with
  | nil => rfl
  | cons e es ih =>
    obtain ⟨t, ht⟩ := hes e List.mem_cons_self
    by_cases hto : t = token
    · simp [findOwned, ht, hto]
    · simp [findOwned, ht, hto, ih fun e he => hes e (List.mem_cons_of_mem _ he)]

/-- What asking a tidy registry to give up the lock of a token comes to. -/
theorem unlock_cases (b : Backend σ) {reg : Registry} (hreg : reg.Tidy) (token : String) (w : World σ) :
    (reg.release? token = none ∧ unlock b token reg w =
      (.finished (), reg, w.tell (unlockEvent token .info "Caller not lock owner" [("owner", .text token)]))) ∨
      ∃ u h, reg.release? token = some u ∧ reg.entries.get? u.lockId = some h ∧
        h.key.map LockKey.lockClass = some u.lockClass ∧ unlock b token reg w =
          ((finish b .first u w).1, { entries := reg.entries.erase u.lockId }, (finish b .first u w).2) := by
  have htokens : ∀ e ∈ reg.entries, ∃ t, e.2.ownerToken = some t := by
    rintro ⟨id, h⟩ he
    obtain ⟨-, t, -, -, ht, -⟩ := hreg.entries id h ((Keyed.get?_eq_some_iff hreg.nodup).2 he)
    exact ⟨t, ht⟩
  have hfound := findOwned_eq_find? token reg.entries htokens
  cases hfind : reg.entries.find? fun e => e.2.ownerToken = some token with
  | none =>
    have htake : takeOwned token reg w = (none, reg, w) := by simp [takeOwned, hfound, hfind]
    exact .inl ⟨by simp [release?, hfind], by rw [unlock, htake]⟩
  | some e =>
    rcases e with ⟨id, h⟩
    have hid : reg.entries.get? id = some h :=
      (Keyed.get?_eq_some_iff hreg.nodup).2 (List.mem_of_find?_eq_some hfind)
    obtain ⟨s, -, key, hs, -, hk, -⟩ := hreg.entries id h hid
    have htake : takeOwned token reg w = (some (id, h), { entries := reg.entries.erase id }, w) := by
      simp [takeOwned, hfound, hfind, hid]
    refine .inr ⟨{ token, lockId := id, lockClass := key.lockClass, session := s, acquiredAt := h.acquiredAt }, h,
      ?_, hid, by simp [hk], ?_⟩
    · simp [release?, hfind, releaseOf?, hk, hs]
    · rw [unlock, htake]
      dsimp only
      rw [hk, hs]

end Registry

namespace Ensemble

variable {σ : Type} (b : Backend σ) (ens : Ensemble σ)

/-- The release that an event starts. -/
def starts? : Event → Option Registry.Unlocking
  | .unlock _ token i => (ens.registries[i]?).bind (Registry.release? token)
  | _ => none

/-- The release that an event starts or looks at again, with what its commit comes to. -/
def commits? : Event → Option (Registry.Unlocking × Poll (Except DatabaseError Unit))
  | .unlock name token i =>
    (ens.starts? (.unlock name token i)).map fun u => (u, (b.start u.session .commit ens.world.sessions).1)
  | .poll name =>
    ((ens.calls.get? name).bind Call.unlocking?).map fun u =>
      (u, (b.resume u.session .commit ens.world.sessions).1)
  | _ => none

/-- The release that ends with an event, with the answer to its commit. -/
def ends? (e : Event) : Option (Registry.Unlocking × Except DatabaseError Unit) :=
  (ens.commits? b e).bind fun
    | (u, .ready answer) => some (u, answer)
    | (_, .pending) => none

/-- The release that goes on to wait after an event. -/
def defers? (e : Event) : Option Registry.Unlocking :=
  (ens.commits? b e).bind fun
    | (_, .ready _) => none
    | (u, .pending) => some u

/-- The call that an event gives up: it is cancelled, or another one is kept under its name. -/
def givenUp? (e : Event) : Option Call :=
  match e with
  | .cancel name => ens.calls.get? name
  | e => if (step b ens e).1 = .pending then e.name?.bind ens.calls.get? else none

section GivenUp

variable {b ens} {e : Event}

theorem givenUp?_of_waits (called : e.called? = none) (waits : (step b ens e).1 = .pending) :
    ens.givenUp? b e = e.name?.bind ens.calls.get? := by
  cases e with
  | cancel name => cases called
  | _ => simp [givenUp?, waits]

theorem givenUp?_of_ends (called : e.called? = none) (ends : (step b ens e).1 ≠ .pending) :
    ens.givenUp? b e = none := by
  cases e with
  | cancel name => cases called
  | _ => simp [givenUp?, ends]

end GivenUp

end Ensemble

/-! ## Commits -/

theorem Registry.finish_cases {σ : Type} (b : Backend σ) (turn : Turn) (u : Unlocking) (w : World σ) :
    ((w.poll b turn u.session .commit).1 = .pending ∧
      finish b turn u w = (.suspended u, (w.poll b turn u.session .commit).2)) ∨
    ∃ answer, (w.poll b turn u.session .commit).1 = .ready answer ∧
      finish b turn u w = (.finished (),
        conclude u (answer.mapError .release) ((w.poll b turn u.session .commit).2.drop b u.session)) := by
  unfold finish LockHandle.commit
  cases w.poll b turn u.session .commit with
  | mk p w' =>
    cases p with
    | pending => exact .inl ⟨rfl, rfl⟩
    | ready answer => exact .inr ⟨answer, rfl, rfl⟩

namespace Ensemble

variable {σ : Type}

/-! ## Calls that end and calls that are kept -/

/-- What a call comes to: it ends and the calls that wait are as before, or it is kept under its name. -/
inductive Settles (ens : Ensemble σ) (name : String) (u? : Option Registry.Unlocking) : Reply × Ensemble σ → Prop
  | ends {reply : Reply} {ens' : Ensemble σ} (ends : reply ≠ .pending) (calls : ens'.calls = ens.calls)
    (none : u? = none) : Settles ens name u? (reply, ens')
  | waits {c : Call} {ens' : Ensemble σ} (call : c.unlocking? = u?) (calls : ens'.calls = ens.calls.set name c) :
    Settles ens name u? (.pending, ens')

section Settles

variable (b : Backend σ) (turn : Turn) (ens : Ensemble σ) (name on : String) (s : SessionId)

variable {ens name} in
/-- Where the calls are the same, a call settles the same way. -/
theorem Settles.of_calls {ens₁ : Ensemble σ} {u? : Option Registry.Unlocking} {r : Reply × Ensemble σ}
    (hr : ens₁.Settles name u? r) (h : ens₁.calls = ens.calls) : ens.Settles name u? r := by
  cases hr with
  | ends ends calls none => exact .ends ends (calls.trans h) none
  | waits call calls => exact .waits call (h ▸ calls)

theorem acquired_settles (i : Nat) (r : Registry.Acquired × Registry × World σ) :
    ens.Settles name none (acquired b ens name i r) := by
  rcases r with ⟨p, reg, w⟩
  cases p with
  | suspended a => exact .waits (c := .acquire i a) rfl rfl
  | finished answer => cases answer <;> exact .ends (by simp) rfl rfl

theorem unlocked_settles (i : Nat) {p : Progress Registry.Unlocking Unit} {u? : Option Registry.Unlocking} (w : World σ)
    (hp : p = .finished () ∧ u? = none ∨ ∃ u, p = .suspended u ∧ u? = some u) :
    ens.Settles name u? (unlocked b ens name i (p, w)) := by
  rcases hp with ⟨rfl, hu⟩ | ⟨u, rfl, hu⟩
  · exact .ends (by simp) rfl hu
  · exact .waits (c := .unlock i u) hu.symm rfl

theorem begin_settles : ens.Settles name none (begin b turn name s ens) := by
  unfold begin
  cases ens.world.poll b turn s .begin with
  | mk p w =>
    cases p with
    | pending => exact .waits (c := .begin s) rfl rfl
    | ready answer => cases answer <;> exact .ends (by simp) rfl rfl

theorem identify_settles : ens.Settles name none (identify b turn name on s ens) := by
  unfold identify
  cases ens.world.poll b turn s .transactionId with
  | mk p w =>
    cases p with
    | pending => exact .waits (c := .identify on s) rfl rfl
    | ready answer => cases answer <;> exact .ends (by simp) rfl rfl

theorem replyOf_ne_pending (answer : Except DatabaseError Unit) : replyOf answer ≠ .pending := by
  cases answer <;> simp [replyOf]

theorem lock_settles (pair : HashPair) : ens.Settles name none (lock b turn name on s pair ens) := by
  unfold lock
  cases ens.world.poll b turn s (.lock pair) with
  | mk p w =>
    cases p with
    | pending => exact .waits (c := .lock on s pair) rfl rfl
    | ready answer => exact .ends (replyOf_ne_pending answer) rfl rfl

theorem commit_settles : ens.Settles name none (commit b turn name on s ens) := by
  unfold commit
  cases ens.world.poll b turn s .commit with
  | mk p w =>
    cases p with
    | pending => exact .waits (c := .commit on s) rfl rfl
    | ready answer => exact .ends (replyOf_ne_pending answer) rfl rfl

theorem created_settles (key : LockKey) (r : Progress LockHandle.Opening (Except LockError LockHandle) × World σ) :
    ens.Settles name none (created b ens name key r) := by
  rcases r with ⟨p, w⟩
  cases p with
  | suspended o => exact .waits (c := .create key o) rfl rfl
  | finished answer => cases answer <;> exact .ends (by simp) rfl rfl

theorem handleAcquire_settles (h : LockHandle) : ens.Settles name none (handleAcquire b turn name on h ens) := by
  unfold handleAcquire
  cases h.acquire b turn none ens.world with
  | mk p w =>
    cases p with
    | pending => exact .waits (c := .handleAcquire on) rfl rfl
    | ready answer => cases answer <;> exact .ends (by simp) rfl rfl

theorem handleCommit_settles : ens.Settles name none (handleCommit b turn name on s ens) := by
  unfold handleCommit
  cases LockHandle.commit b turn s ens.world with
  | mk p w =>
    cases p with
    | pending => exact .waits (c := .handleRelease on s) rfl rfl
    | ready answer => cases answer <;> exact .ends (by simp) rfl rfl

theorem handleRelease_settles (h : LockHandle) : ens.Settles name none (handleRelease b name on h ens) := by
  unfold handleRelease
  cases h.session with
  | none => exact .ends (by simp) rfl rfl
  | some s =>
    have hcommit := handleCommit_settles b .first { ens with handles := ens.handles.set on { h with session := none } }
      name on s
    exact hcommit.of_calls rfl

theorem onSession_settles {f : SessionId → Reply × Ensemble σ} (h : ∀ s, ens.Settles name none (f s)) :
    ens.Settles name none (ens.onSession on f) := by
  rcases ens.onSession_cases on f with ⟨reply, answered, hsame⟩ | ⟨s, -, -, hsame⟩
  · rw [hsame]
    exact .ends answered rfl rfl
  · rw [hsame]
    exact h s

theorem onHandle_settles {f : LockHandle → Reply × Ensemble σ} (h : ∀ e, ens.Settles name none (f e)) :
    ens.Settles name none (ens.onHandle on f) := by
  rcases ens.onHandle_cases on f with ⟨reply, answered, hsame⟩ | ⟨e, -, -, hsame⟩
  · rw [hsame]
    exact .ends answered rfl rfl
  · rw [hsame]
    exact h e

/-- A release that waits or ends, when its commit is asked for or looked at again. -/
theorem finish_settles (i : Nat) (u : Registry.Unlocking) (w : World σ) {u? : Option Registry.Unlocking}
    (hu : u? = match (w.poll b turn u.session .commit).1 with
      | .ready _ => none
      | .pending => some u) :
    ens.Settles name u? (unlocked b ens name i (Registry.finish b turn u w)) := by
  rcases Registry.finish_cases b turn u w with ⟨hp, hfinish⟩ | ⟨answer, hp, hfinish⟩
  · rw [hp] at hu
    rw [hfinish]
    exact unlocked_settles b ens name i _ (.inr ⟨u, rfl, hu⟩)
  · rw [hp] at hu
    rw [hfinish]
    exact unlocked_settles b ens name i _ (.inl ⟨rfl, hu⟩)

end Settles

/-! ## The calls that wait after an event -/

/-- What an event does to the calls that wait. -/
inductive Shifts (b : Backend σ) (ens ens' : Ensemble σ) (reply : Reply) : Event → Prop
  /-- The event ends, and the calls that wait are as before. -/
  | rests {e : Event} (called : e.called? = none) (ends : reply ≠ .pending) (calls : ens'.calls = ens.calls)
    (defers : ens.defers? b e = none) : Shifts b ens ens' reply e
  /-- The call of the event is kept. -/
  | keeps {e : Event} {name : String} {c : Call} (name? : e.name? = some name) (called : e.called? = none)
    (waits : reply = .pending) (calls : ens'.calls = ens.calls.set name c) (defers : c.unlocking? = ens.defers? b e) :
    Shifts b ens ens' reply e
  /-- A call that was looked at again ends. -/
  | leaves {name : String} (ends : reply ≠ .pending) (calls : ens'.calls = ens.calls.erase name)
    (defers : ens.defers? b (.poll name) = none) : Shifts b ens ens' reply (.poll name)
  /-- A call that was looked at again goes on waiting. -/
  | again {name : String} {c c' : Call} (here : ens.calls.get? name = some c) (waits : reply = .pending)
    (calls : ens'.calls = (ens.calls.erase name).set name c') (defers : c'.unlocking? = ens.defers? b (.poll name)) :
    Shifts b ens ens' reply (.poll name)
  /-- A call is cancelled. -/
  | cancels {name : String} (ends : reply ≠ .pending) (calls : ens'.calls = ens.calls.erase name) :
    Shifts b ens ens' reply (.cancel name)

section Shifts

variable {b : Backend σ} {ens : Ensemble σ}

/-- An event that settles under its name shifts the calls accordingly. -/
theorem Settles.shifts {e : Event} {name : String} (hname : e.name? = some name) (hcalled : e.called? = none)
    {u? : Option Registry.Unlocking} (hr : ens.Settles name u? (step b ens e)) (hu : u? = ens.defers? b e) :
    Shifts b ens (step b ens e).2 (step b ens e).1 e := by
  generalize step b ens e = r at hr
  cases hr with
  | ends ends calls none => exact .rests hcalled ends calls (hu ▸ none)
  | waits call calls => exact .keeps hname hcalled rfl calls (call.trans hu)

theorem shifts_unlock (hens : ens.Tidy) (name token : String) (i : Nat) :
    Shifts b ens (step b ens (.unlock name token i)).2 (step b ens (.unlock name token i)).1
      (.unlock name token i) := by
  cases hreg : ens.registries[i]? with
  | none =>
    have hstep : step b ens (.unlock name token i) = (.refused .noRegistry, ens) := by simp [step, hreg]
    rw [hstep]
    exact .rests rfl (by simp) rfl (by simp [defers?, commits?, starts?, hreg])
  | some reg =>
    have hstep : step b ens (.unlock name token i) =
        unlocked b (ens.setRegistry i (Registry.unlock b token reg ens.world).2.1) name i
          ((Registry.unlock b token reg ens.world).1, (Registry.unlock b token reg ens.world).2.2) := by
      simp [step, hreg]
    rcases Registry.unlock_cases b (hens.registries i reg hreg) token ens.world with
      ⟨hnone, hunlock⟩ | ⟨u, h, hsome, -, -, hunlock⟩
    · rw [hunlock] at hstep
      have hown : ens.Settles name none (step b ens (.unlock name token i)) := hstep ▸ .ends (by simp) rfl rfl
      exact hown.shifts rfl rfl (by simp [defers?, commits?, starts?, hreg, hnone])
    · rw [hunlock] at hstep
      have hdefers : ens.defers? b (.unlock name token i) =
          match (ens.world.poll b .first u.session .commit).1 with
          | .ready _ => none
          | .pending => some u := by
        simp only [defers?, commits?, starts?, hreg, Option.bind_some, hsome, Option.map_some, World.poll]
        cases (b.start u.session .commit ens.world.sessions).1 <;> rfl
      have hsettles := finish_settles b .first (ens.setRegistry i { entries := reg.entries.erase u.lockId }) name i u
        ens.world hdefers
      have hown : ens.Settles name (ens.defers? b (.unlock name token i)) (step b ens (.unlock name token i)) :=
        hstep ▸ hsettles.of_calls rfl
      exact hown.shifts rfl rfl rfl

/-- A call that is looked at again settles: a release waits until its commit is answered. -/
theorem resume_settles (b : Backend σ) (ens : Ensemble σ) (name : String) (c : Call) {u? : Option Registry.Unlocking}
    (hu : u? = c.unlocking?.bind fun u => match (b.resume u.session .commit ens.world.sessions).1 with
      | .ready _ => none
      | .pending => some u) :
    ens.Settles name u? (resume b name c ens) := by
  cases c with
  | acquire i a =>
    subst hu
    unfold resume
    dsimp only
    cases ens.registries[i]? with
    | none => exact .ends (by simp) rfl rfl
    | some reg => exact acquired_settles b ens name i _
  | unlock i u => exact finish_settles b .later ens name i u ens.world hu
  | begin s => exact hu ▸ begin_settles b .later ens name s
  | lock on s pair => exact hu ▸ lock_settles b .later ens name on s pair
  | identify on s => exact hu ▸ identify_settles b .later ens name on s
  | commit on s => exact hu ▸ commit_settles b .later ens name on s
  | create key o => exact hu ▸ created_settles b ens name key _
  | handleAcquire on =>
    subst hu
    unfold resume
    dsimp only
    cases ens.handles.get? on with
    | none => exact .ends (by simp) rfl rfl
    | some h => exact handleAcquire_settles b .later ens name on h
  | handleRelease on s => exact hu ▸ handleCommit_settles b .later ens name on s

theorem shifts_poll (name : String) :
    Shifts b ens (step b ens (.poll name)).2 (step b ens (.poll name)).1 (.poll name) := by
  cases hc : ens.calls.get? name with
  | none =>
    have hstep : step b ens (.poll name) = (.refused .notPending, ens) := by simp [step, hc]
    rw [hstep]
    exact .leaves (by simp) (Keyed.erase_of_get?_eq_none hc).symm (by simp [defers?, commits?, hc])
  | some c =>
    have hstep : step b ens (.poll name) = resume b name c { ens with calls := ens.calls.erase name } := by
      simp [step, hc]
    have hdefers : ens.defers? b (.poll name) = c.unlocking?.bind fun u =>
        match (b.resume u.session .commit ens.world.sessions).1 with
        | .ready _ => none
        | .pending => some u := by
      simp only [defers?, commits?, hc, Option.bind_some]
      cases c.unlocking? with
      | none => rfl
      | some u =>
        simp only [Option.map_some, Option.bind_some]
        cases (b.resume u.session .commit ens.world.sessions).1 <;> rfl
    have hsettles := resume_settles b { ens with calls := ens.calls.erase name } name c hdefers
    rw [hstep]
    generalize resume b name c { ens with calls := ens.calls.erase name } = r at hsettles
    cases hsettles with
    | ends ends calls none => exact .leaves ends calls none
    | waits call calls => exact .again hc rfl calls call

/-- An event with no release and a name settles, whatever else it does. -/
theorem shifts_of_settles {e : Event} {name : String} (hname : e.name? = some name)
    (hr : ens.Settles name none (step b ens e)) (hdefers : ens.defers? b e = none) :
    Shifts b ens (step b ens e).2 (step b ens e).1 e := by
  refine hr.shifts hname ?_ hdefers.symm
  cases e <;> first | rfl | cases hname

theorem onSession_rests (ens : Ensemble σ) (on : String) {f : SessionId → Reply × Ensemble σ}
    (h : ∀ s, (f s).1 ≠ .pending ∧ (f s).2.calls = ens.calls) :
    (ens.onSession on f).1 ≠ .pending ∧ (ens.onSession on f).2.calls = ens.calls := by
  rcases ens.onSession_cases on f with ⟨reply, answered, hsame⟩ | ⟨s, -, -, hsame⟩
  · rw [hsame]
    exact ⟨answered, rfl⟩
  · rw [hsame]
    exact h s

theorem onHandle_rests (ens : Ensemble σ) (on : String) {f : LockHandle → Reply × Ensemble σ}
    (h : ∀ e, (f e).1 ≠ .pending ∧ (f e).2.calls = ens.calls) :
    (ens.onHandle on f).1 ≠ .pending ∧ (ens.onHandle on f).2.calls = ens.calls := by
  rcases ens.onHandle_cases on f with ⟨reply, answered, hsame⟩ | ⟨e, -, -, hsame⟩
  · rw [hsame]
    exact ⟨answered, rfl⟩
  · rw [hsame]
    exact h e

theorem unless_busy {name : String} (busy : Bool) {r : Reply × Ensemble σ} (h : ens.Settles name none r) :
    ens.Settles name none (if busy then (.busy, ens) else r) := by
  cases busy with
  | true => exact .ends (by simp) rfl rfl
  | false => exact h

/-- Which calls wait after an event, for every backend. -/
theorem step_calls (b : Backend σ) (hens : ens.Tidy) (e : Event) :
    Shifts b ens (step b ens e).2 (step b ens e).1 e := by
  cases e with
  | acquire name token key i =>
    refine shifts_of_settles (show Event.name? _ = some name from rfl) ?_ rfl
    unfold step
    dsimp only
    cases ens.registries[i]? with
    | none => exact .ends (by simp) rfl rfl
    | some reg => exact acquired_settles b ens name i _
  | unlock name token i => exact shifts_unlock hens name token i
  | poll name => exact shifts_poll name
  | cancel name =>
    cases hc : ens.calls.get? name with
    | none =>
      have hstep : step b ens (.cancel name) = (.refused .notPending, ens) := by simp [step, hc]
      rw [hstep]
      exact .cancels (by simp) (Keyed.erase_of_get?_eq_none hc).symm
    | some c =>
      have hstep : step b ens (.cancel name) =
          (.done, { ens with world := giveUp b ens c, calls := ens.calls.erase name }) := by simp [step, hc]
      rw [hstep]
      exact .cancels (by simp) rfl
  | begin name =>
    have hbegin := begin_settles b .first { ens with world := ens.world.number.2 } name (ens.world.begins + 1)
    exact shifts_of_settles rfl (unless_busy (ens.sessionBusy name) (hbegin.of_calls rfl)) rfl
  | identify name on =>
    exact shifts_of_settles rfl (onSession_settles ens name on (identify_settles b .first ens name on)) rfl
  | lock name on pair =>
    exact shifts_of_settles rfl (onSession_settles ens name on fun s => lock_settles b .first ens name on s pair) rfl
  | commit name on =>
    exact shifts_of_settles rfl (onSession_settles ens name on (commit_settles b .first ens name on)) rfl
  | dropSession on =>
    obtain ⟨hends, hcalls⟩ := onSession_rests ens on
      (f := fun s => (.done, { ens with world := ens.world.drop b s, sessions := ens.sessions.erase on }))
      fun s => ⟨by simp, rfl⟩
    exact .rests rfl hends hcalls rfl
  | create name key =>
    exact shifts_of_settles rfl (unless_busy (ens.handleBusy name) (created_settles b ens name key _)) rfl
  | handleAcquire name on =>
    exact shifts_of_settles rfl (onHandle_settles ens name on fun h => handleAcquire_settles b .first ens name on h) rfl
  | handleRelease name on =>
    exact shifts_of_settles rfl (onHandle_settles ens name on fun h => handleRelease_settles b ens name on h) rfl
  | dropHandle on =>
    obtain ⟨hends, hcalls⟩ := onHandle_rests ens on
      (f := fun h => (.done, { ens with world := h.discard b ens.world, handles := ens.handles.erase on }))
      fun e => ⟨by simp, rfl⟩
    exact .rests rfl hends hcalls rfl
  | elapse d => exact .rests rfl (by simp [step]) rfl rfl

end Shifts

end Ensemble

end NamedLock
