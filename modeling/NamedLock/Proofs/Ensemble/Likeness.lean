import NamedLock.Proofs.Ensemble.Run

/-!
# Likeness — what does not depend on what sessions are made of

Only a backend looks into the state of sessions. So when two worlds are alike, and stay alike through each single thing
that is done with sessions and records, they stay alike through every operation and every event, and all replies are the
same. A property of one world is a case of it: what each single thing keeps, every event keeps.
-/

namespace NamedLock

variable {σ τ : Type}

/-- Two outcomes with one answer, and with states that are alike. -/
def Alike {α S T : Type} (R : S → T → Prop) (p : α × S) (q : α × T) : Prop :=
  ∃ a x y, p = (a, x) ∧ q = (a, y) ∧ R x y

theorem Alike.intro {α S T : Type} {R : S → T → Prop} (a : α) {x : S} {y : T} (h : R x y) : Alike R (a, x) (a, y) :=
  ⟨a, x, y, rfl, rfl, h⟩

/-- A relation of worlds that single things keep: a session is opened under the next number, asked for something else,
looked at again or left; something is told or recorded; time passes. -/
structure Tracks (b : Backend σ) (c : Backend τ) (R : World σ → World τ → Prop) : Prop where
  now : ∀ {w v}, R w v → w.now = v.now
  begins : ∀ {w v}, R w v → w.begins = v.begins
  traffic : ∀ {w v}, R w v → w.traffic = v.traffic
  opens : ∀ {w v}, R w v →
    Alike R (w.number.2.poll b .first w.number.1 .begin) (v.number.2.poll c .first v.number.1 .begin)
  asks : ∀ {w v}, R w v → ∀ s r, r ≠ .begin → Alike R (w.poll b .first s r) (v.poll c .first s r)
  looks : ∀ {w v}, R w v → ∀ s r, Alike R (w.poll b .later s r) (v.poll c .later s r)
  abandons : ∀ {w v}, R w v → ∀ s, R (w.abandon b s) (v.abandon c s)
  drops : ∀ {w v}, R w v → ∀ s, R (w.drop b s) (v.drop c s)
  tells : ∀ {w v}, R w v → ∀ e, R (w.tell e) (v.tell e)
  records : ∀ {w v}, R w v → ∀ m, R (w.record m) (v.record m)
  passes : ∀ {w v}, R w v → ∀ d, R { w with now := w.now + d } { v with now := v.now + d }

namespace Tracks

variable {b : Backend σ} {c : Backend τ} {R : World σ → World τ → Prop} (m : Tracks b c R) {w : World σ} {v : World τ}
  (h : R w v)

include m h

theorem polls (turn : Turn) (s : SessionId) {r : Request} (hr : r ≠ .begin) :
    Alike R (w.poll b turn s r) (v.poll c turn s r) := by
  cases turn with
  | first => exact m.asks h s r hr
  | later => exact m.looks h s r

theorem abandonsAndDrops (s : SessionId) : R (w.abandonAndDrop b s) (v.abandonAndDrop c s) :=
  m.drops (m.abandons h s) s

/-! ## Handles -/

section Handles

variable (turn : Turn) (span : Option Log.Span) (key : LockKey) (s : SessionId)

theorem identified (answer : Except DatabaseError Int) :
    Alike R (LockHandle.identified span key s answer w) (LockHandle.identified span key s answer v) := by
  unfold LockHandle.identified
  rw [m.now h]
  cases answer with
  | ok id => exact .intro _ h
  | error e => exact .intro _ (m.tells h _)

theorem identify :
    Alike R (LockHandle.identify b turn span key s w) (LockHandle.identify c turn span key s v) := by
  obtain ⟨p, w', v', hw, hv, h'⟩ := m.polls h turn s (r := .transactionId) (by simp)
  unfold LockHandle.identify
  rw [hw, hv]
  cases p with
  | pending => exact .intro _ h'
  | ready answer =>
    obtain ⟨e, w'', v'', hw', hv', h''⟩ := m.identified h' span key s answer
    dsimp only
    rw [hw', hv']
    exact .intro _ h''

omit h in
/-- An opening goes on alike once its session has been asked to begin. -/
theorem begin (hpoll : Alike R (w.poll b turn s .begin) (v.poll c turn s .begin)) :
    Alike R (LockHandle.begin b turn span key s w) (LockHandle.begin c turn span key s v) := by
  obtain ⟨p, w', v', hw, hv, h'⟩ := hpoll
  unfold LockHandle.begin
  rw [hw, hv]
  cases p with
  | pending => exact .intro _ h'
  | ready answer =>
    cases answer with
    | error e => exact .intro _ h'
    | ok u => exact m.identify h' .first span key s

theorem create : Alike R (LockHandle.create b span key w) (LockHandle.create c span key v) := by
  have hopens := m.opens h
  have hnumber : v.number.1 = w.number.1 := congrArg (· + 1) (m.begins h).symm
  unfold LockHandle.create
  rw [hnumber] at hopens
  dsimp only
  rw [hnumber]
  exact m.begin .first span key _ hopens

theorem resumeOpening (o : LockHandle.Opening) : Alike R (o.resume b span key w) (o.resume c span key v) := by
  cases o with
  | beginning s => exact m.begin .later span key s (m.looks h s .begin)
  | identifying s => exact m.identify h .later span key s

theorem cancelOpening (o : LockHandle.Opening) : R (o.cancel b w) (o.cancel c v) := by
  cases o with
  | beginning s => exact m.abandons h s
  | identifying s => exact m.abandonsAndDrops h s

theorem announce (id : Int) : R (LockHandle.announce turn span key id w) (LockHandle.announce turn span key id v) := by
  cases turn with
  | first => exact m.tells h _
  | later => exact h

theorem acquireHandle (e : LockHandle) : Alike R (e.acquire b turn span w) (e.acquire c turn span v) := by
  unfold LockHandle.acquire
  cases e.key with
  | none => exact .intro _ h
  | some key =>
    cases e.session with
    | none => exact .intro _ h
    | some s =>
      obtain ⟨p, w', v', hw, hv, h'⟩ :=
        m.polls (m.announce h turn span key e.transactionId) turn s (r := .lock key.hashes) (by simp)
      dsimp only
      rw [hw, hv]
      cases p with
      | pending => exact .intro _ h'
      | ready answer =>
        cases answer with
        | error e => exact .intro _ h'
        | ok u =>
          dsimp only
          rw [m.now h']
          exact .intro _ h'

theorem commitHandle : Alike R (LockHandle.commit b turn s w) (LockHandle.commit c turn s v) := by
  obtain ⟨p, w', v', hw, hv, h'⟩ := m.polls h turn s (r := .commit) (by simp)
  unfold LockHandle.commit
  rw [hw, hv]
  cases p with
  | pending => exact .intro _ h'
  | ready answer => exact .intro _ (m.drops h' s)

theorem discard (e : LockHandle) : R (e.discard b w) (e.discard c v) := by
  unfold LockHandle.discard
  cases e.session with
  | none => exact h
  | some s => exact m.drops h s

end Handles

/-! ## Registries -/

section Registries

open Registry

variable (turn : Turn) (token : String) (key : LockKey) (reg : Registry)

theorem fail (message : String) (e : LockError) : R (fail key message e w) (fail key message e v) :=
  m.tells (m.records h _) _

theorem enter (e : LockHandle) : Alike R (enter b token key e reg w) (enter c token key e reg v) := by
  unfold Registry.enter
  cases reg.entries.get? key.encoded with
  | none => exact .intro _ (m.tells h _)
  | some stale => exact .intro _ (m.tells (m.discard (m.tells h _) stale) _)

theorem lock (e : LockHandle) : Alike (Alike R) (lock b turn token key e reg w) (lock c turn token key e reg v) := by
  obtain ⟨p, w', v', hw, hv, h'⟩ := m.acquireHandle h turn (some (acquireSpan key)) e
  unfold Registry.lock
  rw [hw, hv]
  cases p with
  | pending => exact .intro _ (.intro _ h')
  | ready answer =>
    cases answer with
    | error err => exact .intro _ (.intro _ (m.discard (m.fail h' key _ err) e))
    | ok e' =>
      obtain ⟨reg', w'', v'', hw', hv', h''⟩ := m.enter h' token key reg e'
      dsimp only
      rw [hw', hv']
      exact .intro _ (.intro _ h'')

omit h in
theorem opened {r : Progress LockHandle.Opening (Except LockError LockHandle) × World σ}
    {r' : Progress LockHandle.Opening (Except LockError LockHandle) × World τ} (hr : Alike R r r') :
    Alike (Alike R) (opened b token key reg r) (opened c token key reg r') := by
  obtain ⟨p, w', v', rfl, rfl, h'⟩ := hr
  cases p with
  | suspended o => exact .intro _ (.intro _ h')
  | finished answer =>
    cases answer with
    | error e => exact .intro _ (.intro _ (m.fail h' key _ e))
    | ok e => exact m.lock h' .first token key reg e

theorem acquire : Alike (Alike R) (Registry.acquire b token key reg w) (Registry.acquire c token key reg v) :=
  m.opened token key reg (m.create h _ key)

theorem resumeAcquire (a : Acquisition) :
    Alike (Alike R) (Registry.resumeAcquire b a reg w) (Registry.resumeAcquire c a reg v) := by
  unfold Registry.resumeAcquire
  cases a.stage with
  | opening o => exact m.opened a.token a.key reg (m.resumeOpening h _ a.key o)
  | locking e => exact m.lock h .later a.token a.key reg e

theorem cancelAcquire (a : Acquisition) : R (Registry.cancelAcquire b a w) (Registry.cancelAcquire c a v) := by
  unfold Registry.cancelAcquire
  cases a.stage with
  | opening o => exact m.cancelOpening h o
  | locking e =>
    dsimp only
    cases e.session with
    | none => exact h
    | some s => exact m.abandonsAndDrops h s

theorem takeOwned : Alike (Alike R) (takeOwned token reg w) (takeOwned token reg v) := by
  -- each entry that is passed over is told of
  have htold : ∀ (ids : List String) {w v}, R w v →
      R (ids.foldl (fun w id => w.tell (tokenlessEvent token id)) w)
        (ids.foldl (fun v id => v.tell (tokenlessEvent token id)) v) := by
    intro ids
    induction ids with
    | nil => exact fun h => h
    | cons id ids ih => exact fun h => ih (m.tells h _)
  unfold Registry.takeOwned
  rcases findOwned token reg.entries with ⟨_ | id, tokenless⟩
  · exact .intro _ (.intro _ (htold tokenless h))
  · exact .intro _ (.intro _ (htold tokenless h))

theorem conclude (u : Unlocking) (answer : Except LockError Unit) : R (conclude u answer w) (conclude u answer v) := by
  unfold Registry.conclude
  rw [m.now h]
  cases answer with
  | ok x => exact m.tells (m.records h _) _
  | error e => exact m.tells (m.records h _) _

theorem finish (u : Unlocking) : Alike R (finish b turn u w) (finish c turn u v) := by
  obtain ⟨p, w', v', hw, hv, h'⟩ := m.commitHandle h turn u.session
  unfold Registry.finish
  rw [hw, hv]
  cases p with
  | pending => exact .intro _ h'
  | ready answer => exact .intro _ (m.conclude h' u answer)

theorem unlock : Alike (Alike R) (Registry.unlock b token reg w) (Registry.unlock c token reg v) := by
  obtain ⟨taken, _, _, hw, hv, reg', w', v', rfl, rfl, h'⟩ := m.takeOwned h token reg
  unfold Registry.unlock
  rw [hw, hv]
  cases taken with
  | none => exact .intro _ (.intro _ (m.tells h' _))
  | some e =>
    rcases e with ⟨id, e⟩
    dsimp only
    cases e.key with
    | none => exact .intro _ (.intro _ (m.discard (m.tells h' _) e))
    | some key =>
      cases e.session with
      | none => exact .intro _ (.intro _ (m.conclude h' _ _))
      | some s =>
        obtain ⟨p, w'', v'', hw', hv', h''⟩ := m.finish h' .first
          { token, lockId := id, lockClass := key.lockClass, session := s, acquiredAt := e.acquiredAt }
        dsimp only
        rw [hw', hv']
        exact .intro _ (.intro _ h'')

end Registries

end Tracks

/-! ## Ensembles -/

/-- Two ensembles that differ in their worlds at most, which are alike. -/
inductive Ensemble.Like (R : World σ → World τ → Prop) : Ensemble σ → Ensemble τ → Prop
  | intro {w v} (h : R w v) (registries : List Registry) (handles : Keyed String LockHandle)
    (sessions : Keyed String SessionId) (calls : Keyed String Call) :
    Like R ⟨w, registries, handles, sessions, calls⟩ ⟨v, registries, handles, sessions, calls⟩

namespace Ensemble.Like

variable {b : Backend σ} {c : Backend τ} {R : World σ → World τ → Prop} {ens : Ensemble σ} {ens' : Ensemble τ}

theorem world (h : Like R ens ens') : R ens.world ens'.world := by
  cases h with
  | intro h => exact h

/-- Worlds take the place of others, whatever those had to do with each other. -/
theorem setWorld {Q : World σ → World τ → Prop} (h : Like Q ens ens') {w : World σ} {v : World τ} (hw : R w v) :
    Like R { ens with world := w } { ens' with world := v } := by
  cases h with
  | intro => exact .intro hw _ _ _ _

theorem setRegistry (h : Like R ens ens') (i : Nat) (reg : Registry) :
    Like R (ens.setRegistry i reg) (ens'.setRegistry i reg) := by
  cases h with
  | intro h => exact .intro h _ _ _ _

theorem eraseCall (h : Like R ens ens') (name : String) :
    Like R { ens with calls := ens.calls.erase name } { ens' with calls := ens'.calls.erase name } := by
  cases h with
  | intro h => exact .intro h _ _ _ _

theorem setHandle (h : Like R ens ens') (on : String) (e : LockHandle) :
    Like R { ens with handles := ens.handles.set on e } { ens' with handles := ens'.handles.set on e } := by
  cases h with
  | intro h => exact .intro h _ _ _ _

theorem registries (h : Like R ens ens') : ens'.registries = ens.registries := by
  cases h with
  | intro => rfl

theorem calls (h : Like R ens ens') : ens'.calls = ens.calls := by
  cases h with
  | intro => rfl

theorem handles (h : Like R ens ens') : ens'.handles = ens.handles := by
  cases h with
  | intro => rfl

theorem sessions (h : Like R ens ens') : ens'.sessions = ens.sessions := by
  cases h with
  | intro => rfl

end Ensemble.Like

namespace Tracks

open Ensemble

variable {b : Backend σ} {c : Backend τ} {R : World σ → World τ → Prop} (m : Tracks b c R) {ens : Ensemble σ}
  {ens' : Ensemble τ} (h : Like R ens ens') (turn : Turn) (name on : String) (s : SessionId)

include m h

theorem giveUp (call : Call) : R (giveUp b ens call) (giveUp c ens' call) := by
  cases call with
  | acquire i a => exact m.cancelAcquire h.world a
  | unlock i u => exact m.abandonsAndDrops h.world u.session
  | begin s => exact m.abandons h.world s
  | lock on s pair => exact m.abandons h.world s
  | identify on s => exact m.abandons h.world s
  | commit on s => exact m.abandons h.world s
  | create key o => exact m.cancelOpening h.world o
  | handleAcquire on =>
    unfold Ensemble.giveUp
    dsimp only
    rw [h.handles]
    cases (ens.handles.get? on).bind (·.session) with
    | none => exact h.world
    | some s => exact m.abandons h.world s
  | handleRelease on s => exact m.abandonsAndDrops h.world s

theorem keep (call : Call) : Alike (Like R) (keep b ens name call) (keep c ens' name call) := by
  unfold Ensemble.keep
  dsimp only
  rw [h.calls]
  cases hold : ens.calls.get? name with
  | none =>
    cases h with
    | intro h => exact .intro _ (.intro h _ _ _ _)
  | some old =>
    have hgone := m.giveUp h old
    cases h with
    | intro h => exact .intro _ (.intro hgone _ _ _ _)

omit h in
/-- An acquisition is taken over alike, wherever its world comes from. -/
theorem acquired {Q : World σ → World τ → Prop} (h : Like Q ens ens') (i : Nat)
    {r : Registry.Acquired × Registry × World σ} {r' : Registry.Acquired × Registry × World τ}
    (hr : Alike (Alike R) r r') : Alike (Like R) (acquired b ens name i r) (acquired c ens' name i r') := by
  obtain ⟨p, _, _, rfl, rfl, reg, w, v, rfl, rfl, hw⟩ := hr
  have hset := (h.setRegistry i reg).setWorld hw
  unfold Ensemble.acquired
  cases p with
  | suspended a => exact m.keep hset name _
  | finished answer => cases answer <;> exact .intro _ hset

theorem unlocked (i : Nat) {r : Progress Registry.Unlocking Unit × World σ}
    {r' : Progress Registry.Unlocking Unit × World τ} (hr : Alike R r r') :
    Alike (Like R) (unlocked b ens name i r) (unlocked c ens' name i r') := by
  obtain ⟨p, w, v, rfl, rfl, hw⟩ := hr
  have hset := h.setWorld hw
  unfold Ensemble.unlocked
  cases p with
  | suspended u => exact m.keep hset name _
  | finished x => exact .intro _ hset

omit h in
/-- A session is opened alike once it has been asked to begin. -/
theorem beginSession {Q : World σ → World τ → Prop} (h : Like Q ens ens')
    (hpoll : Alike R (ens.world.poll b turn s .begin) (ens'.world.poll c turn s .begin)) :
    Alike (Like R) (Ensemble.begin b turn name s ens) (Ensemble.begin c turn name s ens') := by
  obtain ⟨p, w, v, hw, hv, hwv⟩ := hpoll
  unfold Ensemble.begin
  rw [hw, hv]
  cases p with
  | pending => exact m.keep (h.setWorld hwv) name _
  | ready answer =>
    cases answer with
    | error e => exact .intro _ (h.setWorld hwv)
    | ok u =>
      dsimp only
      rw [h.sessions]
      cases ens.sessions.get? name with
      | none =>
        cases h with
        | intro => exact .intro _ (.intro hwv _ _ _ _)
      | some old =>
        cases h with
        | intro => exact .intro _ (.intro (m.drops hwv old) _ _ _ _)

theorem identifySession :
    Alike (Like R) (Ensemble.identify b turn name on s ens) (Ensemble.identify c turn name on s ens') := by
  obtain ⟨p, w, v, hw, hv, hwv⟩ := m.polls h.world turn s (r := .transactionId) (by simp)
  unfold Ensemble.identify
  rw [hw, hv]
  cases p with
  | pending => exact m.keep (h.setWorld hwv) name _
  | ready answer => cases answer <;> exact .intro _ (h.setWorld hwv)

theorem lockSession (pair : HashPair) :
    Alike (Like R) (Ensemble.lock b turn name on s pair ens) (Ensemble.lock c turn name on s pair ens') := by
  obtain ⟨p, w, v, hw, hv, hwv⟩ := m.polls h.world turn s (r := .lock pair) (by simp)
  unfold Ensemble.lock
  rw [hw, hv]
  cases p with
  | pending => exact m.keep (h.setWorld hwv) name _
  | ready answer => exact .intro _ (h.setWorld hwv)

theorem commitSession :
    Alike (Like R) (Ensemble.commit b turn name on s ens) (Ensemble.commit c turn name on s ens') := by
  obtain ⟨p, w, v, hw, hv, hwv⟩ := m.polls h.world turn s (r := .commit) (by simp)
  unfold Ensemble.commit
  rw [hw, hv]
  cases p with
  | pending => exact m.keep (h.setWorld hwv) name _
  | ready answer => exact .intro _ (h.setWorld hwv)

theorem created (key : LockKey) {r : Progress LockHandle.Opening (Except LockError LockHandle) × World σ}
    {r' : Progress LockHandle.Opening (Except LockError LockHandle) × World τ} (hr : Alike R r r') :
    Alike (Like R) (created b ens name key r) (created c ens' name key r') := by
  obtain ⟨p, w, v, rfl, rfl, hwv⟩ := hr
  unfold Ensemble.created
  cases p with
  | suspended o => exact m.keep (h.setWorld hwv) name _
  | finished answer =>
    cases answer with
    | error e => exact .intro _ (h.setWorld hwv)
    | ok e =>
      dsimp only
      rw [h.handles]
      cases ens.handles.get? name with
      | none =>
        cases h with
        | intro => exact .intro _ (.intro hwv _ _ _ _)
      | some old =>
        cases h with
        | intro => exact .intro _ (.intro (m.discard hwv old) _ _ _ _)

theorem acquireOwn (e : LockHandle) :
    Alike (Like R) (Ensemble.handleAcquire b turn name on e ens) (Ensemble.handleAcquire c turn name on e ens') := by
  obtain ⟨p, w, v, hw, hv, hwv⟩ := m.acquireHandle h.world turn none e
  unfold Ensemble.handleAcquire
  rw [hw, hv]
  cases p with
  | pending => exact m.keep (h.setWorld hwv) name _
  | ready answer =>
    cases answer with
    | error err => exact .intro _ (h.setWorld hwv)
    | ok e' => exact .intro _ ((h.setWorld hwv).setHandle on e')

theorem commitOwn :
    Alike (Like R) (Ensemble.handleCommit b turn name on s ens) (Ensemble.handleCommit c turn name on s ens') := by
  obtain ⟨p, w, v, hw, hv, hwv⟩ := m.commitHandle h.world turn s
  unfold Ensemble.handleCommit
  rw [hw, hv]
  cases p with
  | pending => exact m.keep (h.setWorld hwv) name _
  | ready answer =>
    cases h with
    | intro => cases answer <;> exact .intro _ (.intro hwv _ _ _ _)

theorem releaseOwn (e : LockHandle) :
    Alike (Like R) (Ensemble.handleRelease b name on e ens) (Ensemble.handleRelease c name on e ens') := by
  unfold Ensemble.handleRelease
  cases e.session with
  | none => exact .intro _ h
  | some s => exact m.commitOwn (h.setHandle on { e with session := none }) .first name on s

omit m in
theorem onSession {f : SessionId → Reply × Ensemble σ} {g : SessionId → Reply × Ensemble τ}
    (hfg : ∀ s, Alike (Like R) (f s) (g s)) : Alike (Like R) (ens.onSession on f) (ens'.onSession on g) := by
  have hbusy : ens'.sessionBusy on = ens.sessionBusy on := by
    cases h with
    | intro => rfl
  unfold Ensemble.onSession
  rw [hbusy, h.sessions]
  split
  next => exact .intro _ h
  next =>
    cases ens.sessions.get? on with
    | none => exact .intro _ h
    | some s => exact hfg s

omit m in
theorem onHandle {f : LockHandle → Reply × Ensemble σ} {g : LockHandle → Reply × Ensemble τ}
    (hfg : ∀ e, Alike (Like R) (f e) (g e)) : Alike (Like R) (ens.onHandle on f) (ens'.onHandle on g) := by
  have hbusy : ens'.handleBusy on = ens.handleBusy on := by
    cases h with
    | intro => rfl
  unfold Ensemble.onHandle
  rw [hbusy, h.handles]
  split
  next => exact .intro _ h
  next =>
    cases ens.handles.get? on with
    | none => exact .intro _ h
    | some e => exact hfg e

theorem resume (call : Call) : Alike (Like R) (resume b name call ens) (resume c name call ens') := by
  cases call with
  | acquire i a =>
    unfold Ensemble.resume
    dsimp only
    rw [h.registries]
    cases ens.registries[i]? with
    | none => exact .intro _ h
    | some reg => exact m.acquired name h i (m.resumeAcquire h.world reg a)
  | unlock i u => exact m.unlocked h name i (m.finish h.world .later u)
  | begin s => exact m.beginSession .later name s h (m.looks h.world s .begin)
  | lock on s pair => exact m.lockSession h .later name on s pair
  | identify on s => exact m.identifySession h .later name on s
  | commit on s => exact m.commitSession h .later name on s
  | create key o => exact m.created h name key (m.resumeOpening h.world none key o)
  | handleAcquire on =>
    unfold Ensemble.resume
    dsimp only
    rw [h.handles]
    cases ens.handles.get? on with
    | none => exact .intro _ h
    | some e => exact m.acquireOwn h .later name on e
  | handleRelease on s => exact m.commitOwn h .later name on s

/-- Every event is answered in the same way, and leads to ensembles that are alike. -/
theorem step (e : Event) : Alike (Like R) (step b ens e) (step c ens' e) := by
  cases e with
  | acquire name token key i =>
    unfold Ensemble.step
    dsimp only
    rw [h.registries]
    cases ens.registries[i]? with
    | none => exact .intro _ h
    | some reg => exact m.acquired name h i (m.acquire h.world token key reg)
  | unlock name token i =>
    unfold Ensemble.step
    dsimp only
    rw [h.registries]
    cases ens.registries[i]? with
    | none => exact .intro _ h
    | some reg =>
      obtain ⟨p, _, _, hw, hv, reg', w, v, rfl, rfl, hwv⟩ := m.unlock h.world token reg
      dsimp only
      rw [hw, hv]
      exact m.unlocked (h.setRegistry i reg') name i (.intro _ hwv)
  | poll name =>
    unfold Ensemble.step
    dsimp only
    rw [h.calls]
    cases ens.calls.get? name with
    | none => exact .intro _ h
    | some call => exact m.resume (h.calls ▸ h.eraseCall name) name call
  | cancel name =>
    unfold Ensemble.step
    dsimp only
    rw [h.calls]
    cases ens.calls.get? name with
    | none => exact .intro _ h
    | some call => exact .intro _ (h.calls ▸ (h.eraseCall name).setWorld (m.giveUp h call))
  | begin name =>
    have hbusy : ens'.sessionBusy name = ens.sessionBusy name := by
      cases h with
      | intro => rfl
    have hopens := m.opens h.world
    have hnumber : ens'.world.number.1 = ens.world.number.1 := congrArg (· + 1) (m.begins h.world).symm
    unfold Ensemble.step
    dsimp only
    rw [hbusy]
    split
    next => exact .intro _ h
    next =>
      rw [hnumber] at hopens ⊢
      -- the number is taken before the session is asked, and in between the worlds need not be alike
      have hapart : Like (fun _ _ => True) ({ ens with world := ens.world.number.2 })
          ({ ens' with world := ens'.world.number.2 }) := h.setWorld trivial
      exact m.beginSession .first name _ hapart hopens
  | identify name on => exact onSession h on fun s => m.identifySession h .first name on s
  | lock name on pair => exact onSession h on fun s => m.lockSession h .first name on s pair
  | commit name on => exact onSession h on fun s => m.commitSession h .first name on s
  | dropSession on =>
    refine onSession h on fun s => ?_
    have hdrop := m.drops h.world s
    cases h with
    | intro => exact .intro _ (.intro hdrop _ _ _ _)
  | create name key =>
    have hbusy : ens'.handleBusy name = ens.handleBusy name := by
      cases h with
      | intro => rfl
    unfold Ensemble.step
    dsimp only
    rw [hbusy]
    split
    next => exact .intro _ h
    next => exact m.created h name key (m.create h.world none key)
  | handleAcquire name on => exact onHandle h on fun e => m.acquireOwn h .first name on e
  | handleRelease name on => exact onHandle h on fun e => m.releaseOwn h name on e
  | dropHandle on =>
    refine onHandle h on fun e => ?_
    have hdiscard := m.discard h.world e
    cases h with
    | intro => exact .intro _ (.intro hdiscard _ _ _ _)
  | elapse d => exact .intro _ (h.setWorld (m.passes h.world d))

/-! ## Runs -/

/-- The moments of an event are the same. -/
theorem moment (e : Event) : ens'.moment c e = ens.moment b e := by
  obtain ⟨reply, ens₁, ens₁', hstep, hstep', h₁⟩ := m.step h e
  unfold Ensemble.moment
  rw [hstep, hstep', h.calls, m.traffic h.world, m.traffic h₁.world]

end Tracks

/-- Runs with one history, whose ensembles are alike. -/
structure Run.Like (R : World σ → World τ → Prop) (r : Run σ) (r' : Run τ) : Prop where
  ensemble : r.ensemble.Like R r'.ensemble
  history : r'.history = r.history

/-- The same event, or changes from outside that keep worlds alike. -/
inductive Happening.Like (R : World σ → World τ → Prop) : Happening σ → Happening τ → Prop
  | event (e : Event) : Like R (.event e) (.event e)
  | outside {f : σ → σ} {g : τ → τ}
    (h : ∀ {w v}, R w v → R { w with sessions := f w.sessions } { v with sessions := g v.sessions }) :
    Like R (.outside f) (.outside g)

namespace Tracks

variable {b : Backend σ} {c : Backend τ} {R : World σ → World τ → Prop} (m : Tracks b c R)

include m

theorem advance {r : Run σ} {r' : Run τ} {h : Happening σ} {h' : Happening τ} (hr : r.Like R r') (hh : h.Like R h') :
    (r.advance b h).Like R (r'.advance c h') := by
  cases hh with
  | event e =>
    obtain ⟨reply, ens, ens', hstep, hstep', hens⟩ := m.step hr.ensemble e
    refine ⟨?_, ?_⟩
    · simp only [Run.advance, hstep, hstep']
      exact hens
    · simp only [Run.advance, m.moment hr.ensemble e, hr.history]
  | outside hfg => exact ⟨hr.ensemble.setWorld (hfg hr.ensemble.world), hr.history⟩

/-- Runs in which the same things happen are alike, when they start so. -/
theorem run {ι : Type} {f : ι → Happening σ} {g : ι → Happening τ} (hfg : ∀ x, (f x).Like R (g x)) {st : σ} {st' : τ}
    (start : R { sessions := st } { sessions := st' }) (n : Nat) (xs : List ι) :
    (Run.of b st n (xs.map f)).Like R (Run.of c st' n (xs.map g)) := by
  induction xs using List.reverseRecOn with
  | nil => exact ⟨.intro start _ _ _ _, rfl⟩
  | append_singleton xs x ih =>
    rw [List.map_append, List.map_append, List.map_singleton, List.map_singleton, Run.of_concat, Run.of_concat]
    exact m.advance ih (hfg x)

end Tracks

/-! ## What sessions keep -/

/-- A property of sessions, and of how many were asked for, that every request keeps; and so does giving up and
dropping. -/
structure Backend.Keeps (b : Backend σ) (P : Nat → σ → Prop) : Prop where
  opens : ∀ {n st}, P n st → P (n + 1) (b.start (n + 1) .begin st).2
  asks : ∀ {n st}, P n st → ∀ s r, r ≠ .begin → P n (b.start s r st).2
  looks : ∀ {n st}, P n st → ∀ s r, P n (b.resume s r st).2
  abandons : ∀ {n st}, P n st → ∀ s, P n (b.abandon s st)
  drops : ∀ {n st}, P n st → ∀ s, P n (b.drop s st)

namespace Backend.Keeps

variable {b : Backend σ} {P : Nat → σ → Prop}

/-- A world is like itself as long as the property holds of its sessions. -/
theorem tracks (h : b.Keeps P) : Tracks b b fun w v => w = v ∧ P w.begins w.sessions where
  now := fun hw => hw.1 ▸ rfl
  begins := fun hw => hw.1 ▸ rfl
  traffic := fun hw => hw.1 ▸ rfl
  opens := by
    rintro w _ ⟨rfl, hw⟩
    exact .intro _ ⟨rfl, h.opens hw⟩
  asks := by
    rintro w _ ⟨rfl, hw⟩ s r hr
    exact .intro _ ⟨rfl, h.asks hw s r hr⟩
  looks := by
    rintro w _ ⟨rfl, hw⟩ s r
    exact .intro _ ⟨rfl, h.looks hw s r⟩
  abandons := by
    rintro w _ ⟨rfl, hw⟩ s
    exact ⟨rfl, h.abandons hw s⟩
  drops := by
    rintro w _ ⟨rfl, hw⟩ s
    exact ⟨rfl, h.drops hw s⟩
  tells := by
    rintro w _ ⟨rfl, hw⟩ e
    exact ⟨rfl, hw⟩
  records := by
    rintro w _ ⟨rfl, hw⟩ r
    exact ⟨rfl, hw⟩
  passes := by
    rintro w _ ⟨rfl, hw⟩ d
    exact ⟨rfl, hw⟩

/-- What requests keep, events keep. -/
theorem step (h : b.Keeps P) {ens : Ensemble σ} (hens : P ens.world.begins ens.world.sessions) (e : Event) :
    P (ens.step b e).2.world.begins (ens.step b e).2.world.sessions := by
  have hlike : ens.Like (fun w v => w = v ∧ P w.begins w.sessions) ens := .intro ⟨rfl, hens⟩ _ _ _ _
  obtain ⟨reply, ens', ens'', hstep, -, hlike'⟩ := h.tracks.step hlike e
  rw [hstep]
  exact hlike'.world.2

/-- What requests and changes from outside keep holds in every run in which it holds at first. -/
theorem run (h : b.Keeps P) {st : σ} (start : P 0 st) (n : Nat) {hs : List (Happening σ)}
    (outside : ∀ f, .outside f ∈ hs → ∀ {k st}, P k st → P k (f st)) :
    P (Run.of b st n hs).ensemble.world.begins (Run.of b st n hs).ensemble.world.sessions := by
  induction hs using List.reverseRecOn with
  | nil => exact start
  | append_singleton hs x ih =>
    rw [Run.of_concat]
    have hold := ih fun f hf => outside f (List.mem_append_left _ hf)
    cases x with
    | event e => exact h.step hold e
    | outside f => exact outside f (List.mem_append_right _ List.mem_cons_self) hold

end Backend.Keeps

end NamedLock
