import NamedLock.Proofs.Ensemble.Authority
import NamedLock.Proofs.Ensemble.Recording

/-!
# Failure — acquisitions that end with an error

An acquisition asks its session for three things in turn: to begin, for its number, and for its lock. It fails when
the session does not begin or does not get the lock; the number may be refused. `Refused` follows these requests from
the one that is being looked at to the error, through every state of the sessions in between. A failed acquisition
leaves the tables as they were, and its session is dropped without a commit.
-/

namespace NamedLock

open Ensemble

variable {σ : Type}

/-- What comes of a request that is made, or looked at again. -/
def Backend.answer (b : Backend σ) (turn : Turn) (s : SessionId) (r : Request) (st : σ) : Poll r.Answer × σ :=
  match turn with
  | .first => b.start s r st
  | .later => b.resume s r st

theorem World.poll_answer (b : Backend σ) (turn : Turn) (s : SessionId) (r : Request) (w : World σ) :
    b.answer turn s r w.sessions = ((w.poll b turn s r).1, (w.poll b turn s r).2.sessions) := by
  cases turn <;> rfl

/-- What a session is told with a request: the request itself, the first time. -/
def Turn.told (turn : Turn) (s : SessionId) (r : Request) : List Traffic :=
  match turn with
  | .first => [.asked s r]
  | .later => []

theorem World.poll_told (b : Backend σ) (turn : Turn) (s : SessionId) (r : Request) (w : World σ) :
    (w.poll b turn s r).2.traffic = w.traffic ++ turn.told s r := by
  cases turn with
  | first => rfl
  | later => exact (List.append_nil _).symm

/-- How an acquisition fails that looks at a request in some state of the sessions: the error, the sessions afterwards,
and what they were told meanwhile. -/
inductive Refused (b : Backend σ) (key : LockKey) (s : SessionId) :
    Turn → Request → σ → LockError → σ → List Traffic → Prop
  /-- The session does not begin. -/
  | unopened {turn st e st'} (answer : b.answer turn s .begin st = (.ready (.error e), st')) :
    Refused b key s turn .begin st e st' (turn.told s .begin)
  | opened {turn st st₁ e st' rest} (answer : b.answer turn s .begin st = (.ready (.ok ()), st₁))
    (next : Refused b key s .first .transactionId st₁ e st' rest) :
    Refused b key s turn .begin st e st' (turn.told s .begin ++ rest)
  /-- The lock is asked for next, whether the number is known or not. -/
  | identified {turn st st₁ number e st' rest}
    (answer : b.answer turn s .transactionId st = (.ready number, st₁))
    (next : Refused b key s .first (.lock key.hashes) st₁ e st' rest) :
    Refused b key s turn .transactionId st e st' (turn.told s .transactionId ++ rest)
  /-- The session does not get the lock, and is dropped. -/
  | unlocked {turn st source st₁} (answer : b.answer turn s (.lock key.hashes) st = (.ready (.error source), st₁)) :
    Refused b key s turn (.lock key.hashes) st (.acquire key.encoded source) (b.drop s st₁)
      (turn.told s (.lock key.hashes) ++ [.dropped s])

namespace Refused

variable {b : Backend σ} {key : LockKey} {s : SessionId} {turn : Turn} {r : Request} {st st' : σ} {e : LockError}
  {told : List Traffic}

/-- The error is the one of the beginning, or that of the lock with the key. -/
theorem cause (h : Refused b key s turn r st e st' told) :
    (∃ turn st₁ st₂, b.answer turn s .begin st₁ = (.ready (.error e), st₂)) ∨
      ∃ source turn st₁ st₂, e = .acquire key.encoded source ∧
        b.answer turn s (.lock key.hashes) st₁ = (.ready (.error source), st₂) := by
  induction h with
  | unopened answer => exact .inl ⟨_, _, _, answer⟩
  | opened _ _ ih => exact ih
  | identified _ _ ih => exact ih
  | unlocked answer => exact .inr ⟨_, _, _, _, rfl, answer⟩

/-- Where sessions only fail to begin for want of a connection, whoever fails may try again. -/
theorem retryable (h : Refused b key s turn r st e st' told)
    (only : ∀ turn s st e st', b.answer turn s .begin st = (.ready (.error e), st') → ∃ source, e = .session source) :
    e.isRetryable = true ∧ ∀ reason, e ≠ .invalidState reason := by
  rcases h.cause with ⟨turn, st₁, st₂, answer⟩ | ⟨source, -, -, -, rfl, -⟩
  · obtain ⟨source, rfl⟩ := only _ _ _ _ _ answer
    exact ⟨rfl, by simp⟩
  · exact ⟨rfl, by simp⟩

/-- A session that was opened is dropped; one that was not is the one that did not begin. -/
theorem dropped (h : Refused b key s turn r st e st' told) :
    .dropped s ∈ told ∨ r = .begin ∧ b.answer turn s .begin st = (.ready (.error e), st') := by
  induction h with
  | unopened answer => exact .inr ⟨rfl, answer⟩
  | opened _ _ ih =>
    rcases ih with hdropped | ⟨hr, -⟩
    · exact .inl (List.mem_append_right _ hdropped)
    · cases hr
  | identified _ _ ih =>
    rcases ih with hdropped | ⟨hr, -⟩
    · exact .inl (List.mem_append_right _ hdropped)
    · cases hr
  | unlocked _ => exact .inl (by simp)

end Refused

/-! ## Requests of an acquisition -/

/-- The request that an acquisition waits for. -/
def Registry.Acquisition.request (a : Registry.Acquisition) : Request :=
  match a.stage with
  | .opening (.beginning _) => .begin
  | .opening (.identifying _) => .transactionId
  | .locking _ => .lock a.key.hashes

namespace Registry

/-- An acquisition fails between two worlds. -/
def Fails (b : Backend σ) (key : LockKey) (s : SessionId) (turn : Turn) (r : Request) (err : LockError)
    (w w' : World σ) : Prop :=
  ∃ told, Refused b key s turn r w.sessions err w'.sessions told ∧ w'.traffic = w.traffic ++ told

variable (b : Backend σ) (turn : Turn) (token : String) (key : LockKey) (reg : Registry) {s : SessionId}
  (w : World σ) {err : LockError}

/-- The lock of a handle is refused. -/
theorem lock_fails {h : LockHandle} (hs : h.session = some s) (hk : h.key = some key)
    (failed : (lock b turn token key h reg w).1 = .finished (.error err)) :
    Fails b key s turn (.lock key.hashes) err w (lock b turn token key h reg w).2.2 := by
  let w₁ := LockHandle.announce turn (some (acquireSpan key)) key h.transactionId w
  -- telling that the lock is asked for changes no session
  have hsessions : w₁.sessions = w.sessions := by cases turn <;> rfl
  have htraffic : w₁.traffic = w.traffic := by cases turn <;> rfl
  have hanswer := World.poll_answer b turn s (.lock key.hashes) w₁
  have htold := World.poll_told b turn s (.lock key.hashes) w₁
  rw [hsessions] at hanswer
  rw [htraffic] at htold
  unfold lock LockHandle.acquire at failed ⊢
  rw [hk, hs] at failed ⊢
  dsimp only at failed ⊢
  generalize World.poll b turn s (.lock key.hashes) _ = r at failed hanswer htold ⊢
  obtain ⟨answer, w'⟩ := r
  cases answer with
  | pending => cases failed
  | ready answer =>
    cases answer with
    | ok _ => cases failed
    | error source =>
      cases failed
      simp only [LockHandle.discard, hs]
      exact ⟨_, .unlocked hanswer, (congrArg (· ++ [Traffic.dropped s]) htold).trans (List.append_assoc ..)⟩

/-- The number of the transaction is asked for, and then the lock is refused. -/
theorem identify_fails (span : Option Log.Span)
    (failed : (opened b token key reg (LockHandle.identify b turn span key s w)).1 = .finished (.error err)) :
    Fails b key s turn .transactionId err w
      (opened b token key reg (LockHandle.identify b turn span key s w)).2.2 := by
  have hanswer := World.poll_answer b turn s .transactionId w
  have htold := World.poll_told b turn s .transactionId w
  unfold LockHandle.identify at failed ⊢
  generalize World.poll b turn s .transactionId w = r at failed hanswer htold ⊢
  obtain ⟨answer, w'⟩ := r
  cases answer with
  | pending => cases failed
  | ready number =>
    have hnext : Fails b key s .first (.lock key.hashes) err w'
        (opened b token key reg (.finished (.ok (LockHandle.identified span key s number w').1),
          (LockHandle.identified span key s number w').2)).2.2 := by
      cases number with
      | ok id => exact lock_fails b .first token key reg w' rfl rfl failed
      | error e =>
        exact lock_fails b .first token key reg (w'.tell (LockHandle.unidentifiedEvent span key e)) rfl rfl failed
    obtain ⟨rest, hrefused, hrest⟩ := hnext
    exact ⟨_, .identified hanswer hrefused,
      hrest.trans ((congrArg (· ++ rest) htold).trans (List.append_assoc ..))⟩

/-- The session does not begin, or it does and the lock is refused later. -/
theorem begin_fails (span : Option Log.Span)
    (failed : (opened b token key reg (LockHandle.begin b turn span key s w)).1 = .finished (.error err)) :
    Fails b key s turn .begin err w (opened b token key reg (LockHandle.begin b turn span key s w)).2.2 := by
  have hanswer := World.poll_answer b turn s .begin w
  have htold := World.poll_told b turn s .begin w
  unfold LockHandle.begin at failed ⊢
  generalize World.poll b turn s .begin w = r at failed hanswer htold ⊢
  obtain ⟨answer, w'⟩ := r
  cases answer with
  | pending => cases failed
  | ready answer =>
    cases answer with
    | error e =>
      cases failed
      exact ⟨_, .unopened hanswer, htold⟩
    | ok _ =>
      obtain ⟨rest, hrefused, hrest⟩ := identify_fails b .first token key reg w' span failed
      exact ⟨_, .opened hanswer hrefused,
        hrest.trans ((congrArg (· ++ rest) htold).trans (List.append_assoc ..))⟩

theorem acquire_fails (failed : (acquire b token key reg w).1 = .finished (.error err)) :
    Fails b key (w.begins + 1) .first .begin err w (acquire b token key reg w).2.2 :=
  begin_fails b .first token key reg w.number.2 (some (acquireSpan key)) failed

theorem resumeAcquire_fails {a : Acquisition} (ha : a.On s)
    (failed : (resumeAcquire b a reg w).1 = .finished (.error err)) :
    Fails b a.key s .later a.request err w (resumeAcquire b a reg w).2.2 := by
  obtain ⟨hs, hk⟩ := ha
  unfold Acquisition.session? at hs
  unfold Acquisition.request
  unfold resumeAcquire at failed ⊢
  cases hstage : a.stage with
  | opening o =>
    rw [hstage] at hs failed
    cases o with
    | beginning s' =>
      cases hs
      exact begin_fails b .later a.token a.key reg w _ failed
    | identifying s' =>
      cases hs
      exact identify_fails b .later a.token a.key reg w _ failed
  | locking h =>
    rw [hstage] at hs failed
    exact lock_fails b .later a.token a.key reg w hs (hk h hstage) failed

end Registry

/-! ## Events that end with an error -/

namespace Ensemble

/-- An event looks at an acquisition of a grant, at the request that it has come to: a new one on the next session, or
one that waited. -/
inductive Looks (ens : Ensemble σ) (s : SessionId) (g : Grant) : Event → Turn → Request → Prop
  | starts (name : String) (hs : s = ens.world.begins + 1) :
    Looks ens s g (.acquire name g.token g.key g.registry) .first .begin
  | goesOn (name : String) {a : Registry.Acquisition} (hc : ens.calls.get? name = some (.acquire g.registry a))
    (hs : a.session? = some s) (ht : a.token = g.token) (hk : a.key = g.key) :
    Looks ens s g (.poll name) .later a.request

variable {b : Backend σ} {ens : Ensemble σ} {e : Event} {key : LockKey} {err : LockError}

theorem Looks.carries {s : SessionId} {g : Grant} {turn : Turn} {r : Request} (h : ens.Looks s g e turn r) :
    ∃ name, ens.Carries name s g e := by
  cases h with
  | starts name hs => exact ⟨name, .starts hs⟩
  | goesOn name hc hs ht hk => exact ⟨name, .goesOn (filed_call_eq_some_iff.2 ⟨_, hc, hs, ht, hk⟩)⟩

/-- An acquisition that is taken over with an error has failed. -/
theorem acquired_lockError {name : String} {i : Nat} {r : Registry.Acquired × Registry × World σ}
    (failed : (acquired b ens name i r).1 = .lockError err) :
    r.1 = .finished (.error err) ∧ (acquired b ens name i r).2 = { ens.setRegistry i r.2.1 with world := r.2.2 } := by
  rcases r with ⟨p, reg, w⟩
  cases p with
  | suspended a => cases failed
  | finished answer =>
    cases answer with
    | ok token => cases failed
    | error e =>
      cases failed
      exact ⟨rfl, rfl⟩

theorem Came.registry {token : String} {s : SessionId} {reg : Registry}
    {r : Registry.Acquired × Registry × World σ} (h : Registry.Came token key reg s r)
    (failed : r.1 = .finished (.error err)) : r.2.1 = reg := by
  cases h with
  | waits => cases failed
  | fails => rfl
  | files => cases failed

/-- The calls that wait once an event is over that keeps none. -/
def callsLeft (ens : Ensemble σ) (e : Event) : Keyed String Call :=
  match e.called? with
  | some name => ens.calls.erase name
  | none => ens.calls

/-- What is left of an acquisition that failed: nothing but what its requests made of the sessions, and what was
recorded and told. -/
structure Leftover (b : Backend σ) (ens ens' : Ensemble σ) (e : Event) (key : LockKey) (err : LockError) : Prop where
  rest : ens' = { ens with world := ens'.world, calls := ens.callsLeft e }
  requests : ∃ s g turn r, g.key = key ∧ g.registry < ens.registries.length ∧ ens.Looks s g e turn r ∧
    Registry.Fails b key s turn r err ens.world ens'.world

/-- An event that ends an acquisition with an error. -/
theorem leftover_of_failed (hens : ens.Tidy) (failed : (ens.moment b e).failed? = some key)
    (reply : (step b ens e).1 = .lockError err) : Leftover b ens (step b ens e).2 e key err := by
  cases e with
  | acquire name token key' i =>
    have hkey : key' = key := by
      simp only [Moment.failed?, moment, reply, Reply.failed?, Option.some.injEq] at failed
      exact failed
    subst hkey
    cases hreg : ens.registries[i]? with
    | none => simp [step, hreg] at reply
    | some reg =>
      have hstep : step b ens (.acquire name token key' i) =
          acquired b ens name i (Registry.acquire b token key' reg ens.world) := by simp [step, hreg]
      rw [hstep] at reply ⊢
      obtain ⟨hfailed, hdone⟩ := acquired_lockError reply
      obtain ⟨hi, -⟩ := List.getElem?_eq_some_iff.1 hreg
      have hsame := Came.registry (Registry.acquire_came b token key' reg ens.world) hfailed
      rw [hdone, hsame, setRegistry_self hreg]
      exact ⟨rfl, _, { registry := i, token, key := key' }, .first, .begin, rfl, hi, .starts name rfl,
        Registry.acquire_fails b token key' reg ens.world hfailed⟩
  | poll name =>
    cases hc : ens.calls.get? name with
    | none => simp [step, hc] at reply
    | some c =>
      cases c with
      | acquire i a =>
        -- the call that waited is over, whatever comes of it
        have hkey : a.key = key := by
          simp only [Moment.failed?, moment, Event.called?, Option.bind_some, hc, reply, Reply.failed?,
            Option.some.injEq] at failed
          exact failed
        subst hkey
        obtain ⟨s, ha⟩ := hens.calls name i a hc
        have hstep : step b ens (.poll name) = resume b name (.acquire i a) { ens with calls := ens.calls.erase name } := by
          simp [step, hc]
        cases hreg : ens.registries[i]? with
        | none => simp [hstep, resume, hreg] at reply
        | some reg =>
          have hresume : step b ens (.poll name) = acquired b { ens with calls := ens.calls.erase name } name i
              (Registry.resumeAcquire b a reg ens.world) := by simp [hstep, resume, hreg]
          rw [hresume] at reply ⊢
          obtain ⟨hfailed, hdone⟩ := acquired_lockError reply
          obtain ⟨hi, -⟩ := List.getElem?_eq_some_iff.1 hreg
          have hsame := Came.registry (Registry.resumeAcquire_came b reg ens.world ha) hfailed
          have hbase : Ensemble.setRegistry { ens with calls := ens.calls.erase name } i reg =
              { ens with calls := ens.calls.erase name } := setRegistry_self hreg
          rw [hdone, hsame, hbase]
          exact ⟨rfl, s, { registry := i, token := a.token, key := a.key }, .later, a.request, rfl, hi,
            .goesOn name hc ha.session rfl rfl, Registry.resumeAcquire_fails b reg ens.world ha hfailed⟩
      | _ => simp [Moment.failed?, moment, Event.called?, hc] at failed
  | _ => cases failed

/-- An acquisition that failed is counted, and nothing is measured. -/
theorem metrics_of_failed (hens : ens.Tidy) (failed : (ens.moment b e).failed? = some key) :
    (step b ens e).2.world.metrics =
      ens.world.metrics ++ [.counted (Metrics.labelsOf key.lockClass .lockError)] := by
  -- the event ends no unlocking at the same time
  have hends : ens.ends? b e = none := by
    cases e with
    | poll name =>
      cases hc : ens.calls.get? name with
      | none => simp [ends?, commits?, hc]
      | some c =>
        cases c with
        | acquire i a => simp [ends?, commits?, hc, Call.unlocking?]
        | _ => simp [Moment.failed?, moment, Event.called?, hc] at failed
    | unlock name token i => cases failed
    | _ => rfl
  rw [step_metrics b hens, recorded, failed, hends]
  rfl

/-- An acquisition fails by its reply. -/
theorem lockError_of_failed (failed : (ens.moment b e).failed? = some key) :
    ∃ err, (step b ens e).1 = .lockError err := by
  have hreply : ∀ key', (step b ens e).1.failed? key' = some key → ∃ err, (step b ens e).1 = .lockError err := by
    intro key' h
    unfold Reply.failed? at h
    split at h
    next err he => exact ⟨err, he⟩
    next => cases h
  unfold Moment.failed? at failed
  split at failed
  next => exact hreply _ failed
  next => exact hreply _ failed
  next => cases failed

end Ensemble

/-! ## Sessions of acquisitions that failed -/

/-- The session of an acquisition that fails was never committed, and is not. -/
theorem Run.Attributed.uncommitted_of_failed {r : Run σ} (h : r.Attributed) {b : Backend σ} {e : Event} {s : SessionId}
    {g : Grant} {turn : Turn} {req : Request} (looks : r.ensemble.Looks s g e turn req)
    (hi : g.registry < r.ensemble.registries.length) :
    .asked s .commit ∉ (step b r.ensemble e).2.world.traffic := by
  have t : Turnover r.ensemble (step b r.ensemble e).2 (r.ensemble.moment b e) := step_turnover h.tidy e
  obtain ⟨name, carries⟩ := looks.carries
  have hevent : (r.ensemble.moment b e).event = e := rfl
  have begun : (r.ensemble.moment b e).event.asked? ≠ none → .asked s .begin ∈ (r.ensemble.moment b e).traffic := by
    intro hask
    cases looks with
    | starts name hs => exact hs ▸ (opens_of_acquire b r.ensemble name hi).2
    | goesOn name hc hs ht hk => exact absurd rfl hask
  obtain ⟨hopened, hbefore⟩ := h.opened_of_carries (hevent ▸ carries) begun
  rw [t.told, List.mem_append]
  rintro (hold | hnew)
  · exact hbefore hold
  · -- only an unlocking commits an opened session, and this event is none
    obtain ⟨⟨name', hunlock⟩, -⟩ := h.committed_step t hopened hnew
    exact carries.not_unlock name' hunlock

end NamedLock
