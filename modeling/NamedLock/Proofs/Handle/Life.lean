import NamedLock.Proofs.Session.Dealings
import NamedLock.Session.Scripted

/-!
# Life — a handle from its creation to its release

A handle is made on a session of its own, asks for its lock any number of times, and is released. Each call may wait,
and asking for the lock may be given up while it does. Meanwhile the rest of the world goes on, but nobody else tells
the session anything. `Life` follows the calls on a handle, and keeps no account of it but for the call that waits and
whether it was ever to be released; `Stands` is what the fields of the handle and the messages to its session are then.

A release takes the session out of the handle before the commit, and clears the rest once the commit has been answered.
`release` does so for one handle; it is what ensembles do for the handles that they keep.
-/

namespace NamedLock

variable {σ : Type}

/-! ## What a session was told -/

/-- The session that a message goes to. -/
def Traffic.session : Traffic → SessionId
  | .asked s _ => s
  | .dropped s => s

namespace World

/-- What a session was told, in order. -/
def told (s : SessionId) (w : World σ) : List Traffic := w.traffic.filter fun x => x.session = s

theorem told_of_traffic {s : SessionId} {w w' : World σ} {new : List Traffic} (h : w'.traffic = w.traffic ++ new)
    (only : ∀ x ∈ new, x.session = s) : w'.told s = w.told s ++ new := by
  have hall : new.filter (fun x => x.session = s) = new := List.filter_eq_self.2 fun x hx => by simp [only x hx]
  rw [told, told, h, List.filter_append, hall]

section Told

variable (b : Backend σ) (turn : Turn) (s : SessionId) (w : World σ)

theorem told_poll (r : Request) : (w.poll b turn s r).2.told s = w.told s ++ turn.told s r := by
  refine told_of_traffic (poll_told b turn s r w) fun x hx => ?_
  cases turn with
  | first =>
    rw [List.mem_singleton.1 hx]
    rfl
  | later => cases hx

theorem told_drop : (w.drop b s).told s = w.told s ++ [.dropped s] :=
  told_of_traffic rfl fun x hx => by
    rw [List.mem_singleton.1 hx]
    rfl

end Told

end World

namespace LockHandle

/-! ## The calls on one handle -/

/-- Asking for the lock sets no field but the time at which it was got. -/
theorem acquire_keeps {b : Backend σ} {turn : Turn} {span : Option Log.Span} {h h' : LockHandle} {w w' : World σ}
    (call : h.acquire b turn span w = (.ready (.ok h'), w')) :
    h'.session = h.session ∧ h'.key = h.key ∧ h'.ownerToken = h.ownerToken ∧ h'.transactionId = h.transactionId := by
  unfold acquire at call
  split at call
  next => cases call
  next => cases call
  next key s _ _ =>
    generalize World.poll b turn s (.lock key.hashes) _ = r at call
    obtain ⟨p, w₁⟩ := r
    cases p with
    | pending => cases call
    | ready answer =>
      cases answer with
      | error e => cases call
      | ok u =>
        cases call
        exact ⟨rfl, rfl, rfl, rfl⟩

/-- Takes over what the commit of a session has come to, for the handle that gave the session away. -/
def settled (s : SessionId) (h : LockHandle) :
    Poll (Except LockError Unit) × World σ → Progress SessionId (Except LockError Unit) × LockHandle × World σ
  | (.pending, w) => (.suspended s, h, w)
  | (.ready answer, w) => (.finished answer, h.cleared, w)

/-- Releases a handle: its session is taken out, and committed. -/
def release (b : Backend σ) (h : LockHandle) (w : World σ) :
    Progress SessionId (Except LockError Unit) × LockHandle × World σ :=
  match h.session with
  | none => (.finished (.error .transactionMissing), h, w)
  | some s => settled s { h with session := none } (commit b .first s w)

/-- Looks again for the answer to the commit of a session that a handle has given away. -/
def releaseAgain (b : Backend σ) (s : SessionId) (h : LockHandle) (w : World σ) :
    Progress SessionId (Except LockError Unit) × LockHandle × World σ :=
  settled s h (commit b .later s w)

/-- Does not wait for the lock any longer. -/
def forgo (b : Backend σ) (h : LockHandle) (w : World σ) : World σ :=
  match h.session with
  | some s => w.abandon b s
  | none => w

end LockHandle

namespace Ensemble

variable (b : Backend σ) (ens : Ensemble σ) (name on : String)

/-- Takes over what the release of a handle has come to. -/
def settle : Progress SessionId (Except LockError Unit) × LockHandle × World σ → Reply × Ensemble σ
  | (.suspended s, h, world) =>
    keep b { ens with world, handles := ens.handles.set on h } name (.handleRelease on s)
  | (.finished (.ok ()), h, world) => (.done, { ens with world, handles := ens.handles.set on h })
  | (.finished (.error e), h, world) => (.lockError e, { ens with world, handles := ens.handles.set on h })

variable {ens on} {h : LockHandle} (hon : ens.handles.get? on = some h)

include hon

theorem handleCommit_eq_settle (turn : Turn) (s : SessionId) :
    handleCommit b turn name on s ens =
      settle b ens name on (LockHandle.settled s h (LockHandle.commit b turn s ens.world)) := by
  have hsame := Keyed.set_of_get?_eq_some hon
  have hcleared := Keyed.adjust_of_get?_eq_some hon LockHandle.cleared
  unfold handleCommit
  cases LockHandle.commit b turn s ens.world with
  | mk p w =>
    cases p with
    | pending => simp only [LockHandle.settled, settle, hsame]
    | ready answer => cases answer <;> simp only [LockHandle.settled, settle, hcleared]

/-- An ensemble goes on with a release as one handle does. -/
theorem handleCommit_eq_releaseAgain (s : SessionId) :
    handleCommit b .later name on s ens = settle b ens name on (h.releaseAgain b s ens.world) :=
  handleCommit_eq_settle b name hon .later s

/-- An ensemble releases a handle that it keeps as one handle is released. -/
theorem handleRelease_eq_release : handleRelease b name on h ens = settle b ens name on (h.release b ens.world) := by
  unfold handleRelease LockHandle.release
  cases hs : h.session with
  | none => simp only [settle, Keyed.set_of_get?_eq_some hon]
  | some s =>
    -- from here on the handle has no session
    let given : Ensemble σ := { ens with handles := ens.handles.set on { h with session := none } }
    have hgiven : given.handles.get? on = some { h with session := none } := Keyed.get?_set_self ..
    have hsettle := handleCommit_eq_settle b name hgiven .first s
    refine hsettle.trans ?_
    change settle b given name on (LockHandle.settled s _ (LockHandle.commit b .first s ens.world)) =
      settle b ens name on (LockHandle.settled s _ (LockHandle.commit b .first s ens.world))
    generalize LockHandle.commit b .first s ens.world = r
    obtain ⟨p, w⟩ := r
    cases p with
    | pending => simp only [LockHandle.settled, settle, given, Keyed.set_set]
    | ready answer => cases answer <;> simp only [LockHandle.settled, settle, given, Keyed.set_set]

/-- In an ensemble, too, a handle is left as it is, whatever comes of asking for its lock. -/
theorem handleAcquire_keeps (turn : Turn) :
    ∃ h', (handleAcquire b turn name on h ens).2.handles.get? on = some h' ∧ h'.session = h.session ∧
      h'.key = h.key ∧ h'.ownerToken = h.ownerToken ∧ h'.transactionId = h.transactionId := by
  unfold handleAcquire
  cases hcall : h.acquire b turn none ens.world with
  | mk p w =>
    cases p with
    | pending => exact ⟨h, hon, rfl, rfl, rfl, rfl⟩
    | ready answer =>
      cases answer with
      | ok h' => exact ⟨h', Keyed.get?_set_self .., LockHandle.acquire_keeps hcall⟩
      | error e => exact ⟨h, hon, rfl, rfl, rfl, rfl⟩

theorem giveUp_handleAcquire : giveUp b ens (.handleAcquire on) = h.forgo b ens.world := by
  simp only [giveUp, hon, Option.bind_some]
  rfl

end Ensemble

/-! ## Calls on a handle -/

namespace LockHandle

/-- What comes of creating a handle, from the call on. -/
inductive Made (b : Backend σ) (key : LockKey) (w₀ : World σ) :
    Progress Opening (Except LockError LockHandle) → World σ → Prop
  | called (span : Option Log.Span) : Made b key w₀ (create b span key w₀).1 (create b span key w₀).2
  | meanwhile {p : Progress Opening (Except LockError LockHandle)} {w w' : World σ} (before : Made b key w₀ p w)
    (same : w'.told (w₀.begins + 1) = w.told (w₀.begins + 1)) : Made b key w₀ p w'
  | resumed {o : Opening} {w : World σ} (span : Option Log.Span) (before : Made b key w₀ (.suspended o) w) :
    Made b key w₀ (o.resume b span key w).1 (o.resume b span key w).2

/-- A call on a handle that waits. -/
inductive Doing
  | acquiring
  | releasing (s : SessionId)
  deriving DecidableEq, Repr

/-- What still waits once a release has been looked at. -/
def Doing.ofRelease {α : Type} : Progress SessionId α → Option Doing
  | .suspended s => some (.releasing s)
  | .finished _ => none

/-- The calls on a handle that was made for a key: the number that it was made with, the call that waits, and whether a
release was ever called. -/
inductive Life (b : Backend σ) (key : LockKey) (w₀ : World σ) : Int → Option Doing → Bool → LockHandle → World σ → Prop
  | created {h : LockHandle} {w : World σ} (made : Made b key w₀ (.finished (.ok h)) w) :
    Life b key w₀ h.transactionId none false h w
  /-- The rest of the world goes on. -/
  | meanwhile {id : Int} {doing : Option Doing} {released : Bool} {h : LockHandle} {w w' : World σ}
    (before : Life b key w₀ id doing released h w) (same : w'.told (w₀.begins + 1) = w.told (w₀.begins + 1)) :
    Life b key w₀ id doing released h w'
  /-- The owner of an active handle enters its token. -/
  | entitled {id : Int} {released : Bool} {h : LockHandle} {w : World σ} (before : Life b key w₀ id none released h w)
    (active : h.isActive = true) (token : String) :
    Life b key w₀ id none released { h with ownerToken := some token } w
  | waits {id : Int} {turn : Turn} {released : Bool} {h : LockHandle} {w w' : World σ} (span : Option Log.Span)
    (before : Life b key w₀ id (turn.waiting .acquiring) released h w)
    (call : h.acquire b turn span w = (.pending, w')) : Life b key w₀ id (some .acquiring) released h w'
  | acquires {id : Int} {turn : Turn} {released : Bool} {h h' : LockHandle} {w w' : World σ} (span : Option Log.Span)
    (before : Life b key w₀ id (turn.waiting .acquiring) released h w)
    (call : h.acquire b turn span w = (.ready (.ok h'), w')) : Life b key w₀ id none released h' w'
  | fails {id : Int} {turn : Turn} {released : Bool} {h : LockHandle} {w w' : World σ} {e : LockError}
    (span : Option Log.Span) (before : Life b key w₀ id (turn.waiting .acquiring) released h w)
    (call : h.acquire b turn span w = (.ready (.error e), w')) : Life b key w₀ id none released h w'
  | forgoes {id : Int} {released : Bool} {h : LockHandle} {w : World σ}
    (before : Life b key w₀ id (some .acquiring) released h w) : Life b key w₀ id none released h (h.forgo b w)
  | releases {id : Int} {released : Bool} {h : LockHandle} {w : World σ} (before : Life b key w₀ id none released h w) :
    Life b key w₀ id (Doing.ofRelease (h.release b w).1) true (h.release b w).2.1 (h.release b w).2.2
  | releasesOn {id : Int} {released : Bool} {s : SessionId} {h : LockHandle} {w : World σ}
    (before : Life b key w₀ id (some (.releasing s)) released h w) :
    Life b key w₀ id (Doing.ofRelease (h.releaseAgain b s w).1) true (h.releaseAgain b s w).2.1
      (h.releaseAgain b s w).2.2

/-! ## Where a handle stands -/

variable {b : Backend σ} {key : LockKey} {s : SessionId} {h h' : LockHandle} {w w' w₀ : World σ} {turn : Turn}
  {span : Option Log.Span}

/-- The messages of an opening. -/
def openingOf (s : SessionId) : List Traffic := [.asked s .begin, .asked s .transactionId]

/-- The messages that ask for the pair of a key a number of times. -/
def locksOf (s : SessionId) (key : LockKey) (n : Nat) : List Traffic := List.replicate n (.asked s (.lock key.hashes))

/-- What an opening has come to, and what its session was told. -/
inductive Formed (key : LockKey) (s : SessionId) (before : List Traffic) :
    Progress Opening (Except LockError LockHandle) → List Traffic → Prop
  | beginning : Formed key s before (.suspended (.beginning s)) (before ++ [.asked s .begin])
  | identifying : Formed key s before (.suspended (.identifying s)) (before ++ openingOf s)
  | fails {e : LockError} {told : List Traffic} : Formed key s before (.finished (.error e)) told
  | opens {h : LockHandle} (hs : h.session = some s) (hk : h.key = some key) :
    Formed key s before (.finished (.ok h)) (before ++ openingOf s)

/-- Where a handle stands between calls and in them: it has its session and its key, or it has given its session away
and has its key, or it has nothing. -/
inductive Stands (key : LockKey) (s : SessionId) (before : List Traffic) :
    Option Doing → Bool → LockHandle → List Traffic → Prop
  | active {doing : Option Doing} {h : LockHandle} (n : Nat) (hd : ∀ t, doing ≠ some (.releasing t))
    (hs : h.session = some s) (hk : h.key = some key) :
    Stands key s before doing false h (before ++ openingOf s ++ locksOf s key n)
  | leaving {h : LockHandle} (n : Nat) (hs : h.session = none) (hk : h.key = some key) :
    Stands key s before (some (.releasing s)) true h (before ++ openingOf s ++ locksOf s key n ++ [.asked s .commit])
  | left {h : LockHandle} (n : Nat) (hs : h.session = none) (hk : h.key = none) (ht : h.ownerToken = none) :
    Stands key s before none true h
      (before ++ openingOf s ++ locksOf s key n ++ [.asked s .commit] ++ [.dropped s])

theorem identify_formed {before : List Traffic} (htold : w.told s ++ turn.told s .transactionId = before ++ openingOf s) :
    Formed key s before (identify b turn span key s w).1 ((identify b turn span key s w).2.told s) := by
  have hpoll := World.told_poll b turn s w .transactionId
  rw [htold] at hpoll
  unfold identify
  generalize w.poll b turn s .transactionId = r at hpoll ⊢
  obtain ⟨p, w'⟩ := r
  cases p with
  | pending => exact hpoll ▸ .identifying
  | ready answer =>
    cases answer with
    | ok id => exact hpoll ▸ .opens rfl rfl
    | error e =>
      -- telling that the number could not be read is no message to the session
      have htell : ((identified span key s (.error e) w').2).told s = w'.told s := rfl
      exact (htell.trans hpoll) ▸ .opens rfl rfl

theorem begin_formed {before : List Traffic} (htold : w.told s ++ turn.told s .begin = before ++ [.asked s .begin]) :
    Formed key s before (begin b turn span key s w).1 ((begin b turn span key s w).2.told s) := by
  have hpoll := World.told_poll b turn s w .begin
  rw [htold] at hpoll
  unfold begin
  generalize w.poll b turn s .begin = r at hpoll ⊢
  obtain ⟨p, w'⟩ := r
  cases p with
  | pending => exact hpoll ▸ .beginning
  | ready answer =>
    cases answer with
    | error e => exact .fails
    | ok u =>
      refine identify_formed ?_
      change w'.told s = _ at hpoll
      rw [hpoll, List.append_assoc]
      rfl

/-- However often it waits, an opening asks its session to begin and for its number. -/
theorem Made.formed {p : Progress Opening (Except LockError LockHandle)} (m : Made b key w₀ p w) :
    Formed key (w₀.begins + 1) (w₀.told (w₀.begins + 1)) p (w.told (w₀.begins + 1)) := by
  induction m with
  | called span => exact begin_formed rfl
  | meanwhile _ same ih => exact same ▸ ih
  | @resumed o w span _ ih =>
    generalize htold : w.told (w₀.begins + 1) = told at ih
    cases ih with
    | beginning => exact begin_formed (by rw [htold]; exact List.append_nil _)
    | identifying => exact identify_formed (by rw [htold]; exact List.append_nil _)

/-! ## Asking for the lock -/

/-- A handle that has its session and its key asks the session for the pair of the key. -/
theorem told_acquire (hs : h.session = some s) (hk : h.key = some key) :
    (h.acquire b turn span w).2.told s = w.told s ++ turn.told s (.lock key.hashes) := by
  have hannounced : (announce turn span key h.transactionId w).told s = w.told s := by cases turn <;> rfl
  have hpoll := World.told_poll b turn s (announce turn span key h.transactionId w) (.lock key.hashes)
  rw [hannounced] at hpoll
  unfold acquire
  rw [hs, hk]
  dsimp only
  generalize World.poll b turn s (.lock key.hashes) _ = r at hpoll ⊢
  obtain ⟨p, w₁⟩ := r
  cases p with
  | pending => exact hpoll
  | ready answer => cases answer <;> exact hpoll

theorem locksOf_told (s : SessionId) (key : LockKey) (n : Nat) (turn : Turn) :
    ∃ n', locksOf s key n ++ turn.told s (.lock key.hashes) = locksOf s key n' := by
  cases turn with
  | first => exact ⟨n + 1, List.replicate_succ'.symm⟩
  | later => exact ⟨n, List.append_nil _⟩

theorem acquire_of_key_none (hk : h.key = none) : h.acquire b turn span w = (.ready (.error .keyMissing), w) := by
  unfold acquire
  rw [hk]

/-! ## Releasing -/

/-- What the answer to a commit is for the release of a handle. -/
def settlement (s : SessionId) : Poll (Except DatabaseError Unit) → Progress SessionId (Except LockError Unit)
  | .pending => .suspended s
  | .ready answer => .finished (answer.mapError .release)

/-- A release comes to what the commit comes to. -/
theorem settled_commit (b : Backend σ) (turn : Turn) (s : SessionId) (h : LockHandle) (w : World σ) :
    (settled s h (commit b turn s w)).1 = settlement s (b.answer turn s .commit w.sessions).1 := by
  rw [World.poll_answer b turn s .commit w]
  unfold commit
  cases w.poll b turn s .commit with
  | mk p w' => cases p <;> rfl

theorem transactionId_settled (s : SessionId) (h : LockHandle) (r : Poll (Except LockError Unit) × World σ) :
    (settled s h r).2.1.transactionId = h.transactionId := by
  obtain ⟨p, w⟩ := r
  cases p <;> rfl

theorem transactionId_release (b : Backend σ) (h : LockHandle) (w : World σ) :
    (h.release b w).2.1.transactionId = h.transactionId := by
  unfold release
  split
  next => rfl
  next => exact transactionId_settled _ _ _

/-- A handle keeps the number that it was made with. -/
theorem Life.transactionId {id : Int} {doing : Option Doing} {released : Bool} (l : Life b key w₀ id doing released h w) :
    h.transactionId = id := by
  induction l with
  | created => rfl
  | meanwhile _ _ ih => exact ih
  | entitled _ _ _ ih => exact ih
  | waits _ _ _ ih => exact ih
  | acquires _ _ call ih =>
    obtain ⟨-, -, -, hsame⟩ := acquire_keeps call
    exact hsame.trans ih
  | fails _ _ _ ih => exact ih
  | forgoes _ ih => exact ih
  | releases _ ih => exact (transactionId_release _ _ _).trans ih
  | releasesOn _ ih => exact (transactionId_settled _ _ _).trans ih

/-! ## One call after the other -/

section Stands

variable {before : List Traffic} {doing : Option Doing} {released : Bool}

/-- The session is told to commit the first time, and dropped once the answer is there; then nothing is left. -/
theorem stands_settled {n : Nat} (hs : h.session = none) (hk : h.key = some key)
    (htold : w.told s ++ turn.told s .commit = before ++ openingOf s ++ locksOf s key n ++ [.asked s .commit]) :
    Stands key s before (Doing.ofRelease (settled s h (commit b turn s w)).1) true
      (settled s h (commit b turn s w)).2.1 ((settled s h (commit b turn s w)).2.2.told s) := by
  have hpoll := World.told_poll b turn s w .commit
  rw [htold] at hpoll
  unfold commit
  generalize w.poll b turn s .commit = r at hpoll ⊢
  obtain ⟨p, w'⟩ := r
  cases p with
  | pending => exact hpoll ▸ .leaving n hs hk
  | ready answer =>
    have hdrop : (w'.drop b s).told s =
        before ++ openingOf s ++ locksOf s key n ++ [.asked s .commit] ++ [.dropped s] := by
      rw [World.told_drop]
      exact congrArg (· ++ [Traffic.dropped s]) hpoll
    exact hdrop ▸ .left n rfl rfl rfl

/-- A handle that asks for its lock stands as it stood, and one that was released is refused. -/
theorem Stands.acquire (b : Backend σ) (span : Option Log.Span)
    (h₁ : Stands key s before (turn.waiting .acquiring) released h (w.told s)) :
    (released = false ∧ ∀ doing h', (∀ t, doing ≠ some (.releasing t)) → h'.session = h.session → h'.key = h.key →
        Stands key s before doing false h' ((h.acquire b turn span w).2.told s)) ∨
      released = true ∧ turn.waiting Doing.acquiring = none ∧
        h.acquire b turn span w = (.ready (.error .keyMissing), w) := by
  generalize hdoing : turn.waiting Doing.acquiring = d at h₁
  generalize ht : w.told s = told at h₁
  cases h₁ with
  | active n _ hs hk =>
    obtain ⟨n', hn'⟩ := locksOf_told s key n turn
    refine .inl ⟨rfl, fun doing h' hd hsession hkey => ?_⟩
    rw [told_acquire hs hk, ht, List.append_assoc _ (locksOf s key n), hn']
    exact .active n' hd (hsession.trans hs) (hkey.trans hk)
  | leaving n hs hk => cases turn <;> cases hdoing
  | left n hs hk _ =>
    -- the key is looked for before the session
    exact .inr ⟨rfl, rfl, acquire_of_key_none hk⟩

/-- Only an active handle waits for its lock. -/
theorem Stands.waits (h₁ : Stands key s before (turn.waiting .acquiring) released h (w.told s))
    (call : h.acquire b turn span w = (.pending, w')) :
    Stands key s before (some .acquiring) released h (w'.told s) := by
  rcases h₁.acquire b span with ⟨rfl, hsame⟩ | ⟨-, -, hrefused⟩
  · have hnext := hsame (some .acquiring) h (by simp) rfl rfl
    rw [call] at hnext
    exact hnext
  · rw [hrefused] at call
    cases call

/-- Only an active handle gets its lock. -/
theorem Stands.acquires (h₁ : Stands key s before (turn.waiting .acquiring) released h (w.told s))
    (call : h.acquire b turn span w = (.ready (.ok h'), w')) : Stands key s before none released h' (w'.told s) := by
  rcases h₁.acquire b span with ⟨rfl, hsame⟩ | ⟨-, -, hrefused⟩
  · obtain ⟨hsession, hkey, -, -⟩ := acquire_keeps call
    have hnext := hsame none h' (by simp) hsession hkey
    rw [call] at hnext
    exact hnext
  · rw [hrefused] at call
    cases call

theorem Stands.fails {e : LockError} (h₁ : Stands key s before (turn.waiting .acquiring) released h (w.told s))
    (call : h.acquire b turn span w = (.ready (.error e), w')) : Stands key s before none released h (w'.told s) := by
  rcases h₁.acquire b span with ⟨rfl, hsame⟩ | ⟨-, hnone, hrefused⟩
  · have hnext := hsame none h (by simp) rfl rfl
    rw [call] at hnext
    exact hnext
  · rw [hrefused] at call
    cases call
    exact hnone ▸ h₁

theorem Stands.entitled {told : List Traffic} (h₁ : Stands key s before none released h told)
    (active : h.isActive = true) (token : String) :
    Stands key s before none released { h with ownerToken := some token } told := by
  cases h₁ with
  | active n hd hs hk => exact .active n hd hs hk
  | left n hs => simp [isActive, hs] at active

theorem Stands.forgoes (h₁ : Stands key s before (some .acquiring) released h (w.told s)) :
    Stands key s before none released h ((h.forgo b w).told s) := by
  -- the session is not told that nobody waits for its answer any longer
  have hforgo : (h.forgo b w).told s = w.told s := by
    unfold forgo
    split <;> rfl
  rw [hforgo]
  generalize w.told s = told at h₁
  cases h₁ with
  | active n _ hs hk => exact .active n (by simp) hs hk

/-- A handle that is released gives its session away, or has none any more. -/
theorem Stands.release (b : Backend σ) (h₁ : Stands key s before none released h (w.told s)) :
    Stands key s before (Doing.ofRelease (h.release b w).1) true (h.release b w).2.1 ((h.release b w).2.2.told s) := by
  generalize ht : w.told s = told at h₁
  unfold LockHandle.release
  cases h₁ with
  | active n _ hs hk =>
    rw [hs]
    exact stands_settled rfl hk (by rw [ht]; rfl)
  | left n hs hk htoken =>
    rw [hs]
    exact ht ▸ .left n hs hk htoken

theorem Stands.releaseAgain (b : Backend σ) {t : SessionId}
    (h₁ : Stands key s before (some (.releasing t)) released h (w.told s)) :
    Stands key s before (Doing.ofRelease (h.releaseAgain b t w).1) true (h.releaseAgain b t w).2.1
      ((h.releaseAgain b t w).2.2.told s) := by
  generalize ht : w.told s = told at h₁
  cases h₁ with
  | active n hd => exact absurd rfl (hd t)
  | leaving n hs hk => exact stands_settled hs hk (by rw [ht]; exact List.append_nil _)

/-- A handle that was just made is active, and its session was not asked for a lock yet. -/
theorem Made.stands (m : Made b key w₀ (.finished (.ok h)) w) :
    Stands key (w₀.begins + 1) (w₀.told (w₀.begins + 1)) none false h (w.told (w₀.begins + 1)) := by
  have hformed := m.formed
  generalize w.told (w₀.begins + 1) = told at hformed ⊢
  cases hformed with
  | @opens h hs hk =>
    have hactive : Stands key (w₀.begins + 1) (w₀.told (w₀.begins + 1)) none false h _ := .active 0 (by simp) hs hk
    rw [locksOf, List.replicate_zero, List.append_nil] at hactive
    exact hactive

/-- A handle stands somewhere through all its life: each call leads from one place to another. -/
theorem Life.stands {id : Int} (l : Life b key w₀ id doing released h w) :
    Stands key (w₀.begins + 1) (w₀.told (w₀.begins + 1)) doing released h (w.told (w₀.begins + 1)) := by
  induction l with
  | created made => exact made.stands
  | meanwhile _ same ih => exact same ▸ ih
  | entitled _ active token ih => exact ih.entitled active token
  | waits _ _ call ih => exact ih.waits call
  | acquires _ _ call ih => exact ih.acquires call
  | fails _ _ call ih => exact ih.fails call
  | forgoes _ ih => exact ih.forgoes
  | releases _ ih => exact ih.release b
  | releasesOn _ ih => exact ih.releaseAgain b

end Stands

/-! ## The life of a handle -/

/-- The messages that end a session: it is asked to commit, and dropped once this was answered. -/
def closingOf (s : SessionId) (doing : Option Doing) (released : Bool) : List Traffic :=
  if released then .asked s .commit :: (if doing = none then [.dropped s] else []) else []

/-- What can be relied on at any time in the life of a handle on a session: its number, the call that waits, and whether
it was ever to be released. -/
structure LifeCycle (b : Backend σ) (key : LockKey) (s : SessionId) (before : List Traffic) (id : Int)
    (doing : Option Doing) (released : Bool) (h : LockHandle) (w : World σ) : Prop where
  /-- The number does not change. -/
  transactionId : h.transactionId = id
  ownKey : ∀ k, h.key = some k → k = key
  /-- Between calls a handle is active when it has its key, which is until the first release. -/
  active : doing = none → h.isActive = h.key.isSome ∧ h.isActive = !released
  /-- A handle that is not active has no token. -/
  token : doing = none → h.isActive = false → h.ownerToken = none
  /-- The session is opened, asked for the pair of the key some number of times, and committed once. -/
  told : ∃ n, w.told s = before ++ openingOf s ++ locksOf s key n ++ closingOf s doing released
  /-- Asking for the lock changes neither session nor key nor token. -/
  acquired : ∀ turn span h' w', h.acquire b turn span w = (.ready (.ok h'), w') →
    h'.session = h.session ∧ h'.key = h.key ∧ h'.ownerToken = h.ownerToken ∧ h'.transactionId = h.transactionId
  /-- After the first release all calls are refused, each in its own way, and nothing changes. -/
  refused : doing = none → released = true → ∀ turn span (w' : World σ),
    h.acquire b turn span w' = (.ready (.error .keyMissing), w') ∧
      h.release b w' = (.finished (.error .transactionMissing), h, w')
  /-- The first release comes to what the commit comes to, at once or later. -/
  firstRelease : doing = none → released = false →
    (h.release b w).1 = settlement s (b.start s .commit w.sessions).1
  firstReleaseAgain : ∀ t, doing = some (.releasing t) →
    t = s ∧ (h.releaseAgain b t w).1 = settlement s (b.resume s .commit w.sessions).1

/-- Through all calls on a handle, on any backend, and whatever happens around it: it is active exactly while it has its
key, keeps its number, and asks its session for the pair of its key only; the session is committed once, by the first
release, and told nothing afterwards. The first release fails exactly when the commit does, and with its error; all
calls after it are refused. -/
theorem life_cycle (b : Backend σ) (key : LockKey) (w₀ : World σ) {id : Int} {doing : Option Doing} {released : Bool}
    {h : LockHandle} {w : World σ} (l : Life b key w₀ id doing released h w) :
    LifeCycle b key (w₀.begins + 1) (w₀.told (w₀.begins + 1)) id doing released h w := by
  have hstands := l.stands
  have hid := l.transactionId
  generalize htold : w.told (w₀.begins + 1) = told at hstands
  cases hstands with
  | active n hd hs hk =>
    refine
      { transactionId := hid
        ownKey := fun k hk' => Option.some.inj (hk'.symm.trans hk)
        active := fun _ => ⟨by simp [isActive, hs, hk], by simp [isActive, hs]⟩
        token := fun _ hno => by simp [isActive, hs] at hno
        told := ⟨n, by simpa [closingOf] using htold⟩
        acquired := fun _ _ _ _ => acquire_keeps
        refused := fun _ hno => by cases hno
        firstRelease := fun _ _ => ?_
        firstReleaseAgain := fun t ht => absurd ht (hd t) }
    unfold release
    rw [hs]
    exact settled_commit b .first _ _ w
  | leaving n hs hk =>
    exact
      { transactionId := hid
        ownKey := fun k hk' => Option.some.inj (hk'.symm.trans hk)
        active := fun hno => by cases hno
        token := fun hno => by cases hno
        told := ⟨n, by simpa [closingOf] using htold⟩
        acquired := fun _ _ _ _ => acquire_keeps
        refused := fun hno => by cases hno
        firstRelease := fun hno => by cases hno
        firstReleaseAgain := fun t ht => by
          cases ht
          exact ⟨rfl, settled_commit b .later _ _ w⟩ }
  | left n hs hk ht =>
    refine
      { transactionId := hid
        ownKey := fun k hk' => by rw [hk] at hk'; cases hk'
        active := fun _ => ⟨by simp [isActive, hs, hk], by simp [isActive, hs]⟩
        token := fun _ _ => ht
        told := ⟨n, by simpa [closingOf] using htold⟩
        acquired := fun _ _ _ _ => acquire_keeps
        refused := fun _ _ turn span w' => ⟨acquire_of_key_none hk, ?_⟩
        firstRelease := fun _ hno => by cases hno
        firstReleaseAgain := fun t hno => by cases hno }
    unfold release
    rw [hs]

/-- A session whose connection is lost when it is committed. -/
def cutOff : World Scripted.State where
  sessions := { upcoming := [{ commits := [.error (.io "connection lost")] }] }

/-- The handle that is opened on this session. -/
def opened : LockHandle where
  session := some 1
  transactionId := 42
  ownerToken := none
  key := some { resourceId := "herd", lockClass := .dinosaurs }
  acquiredAt := 0

/-- A handle with a token is released while the connection is lost: the caller is told, nothing is left of the handle,
and the next release is refused. -/
theorem life_cycle_cut_off :
    let key : LockKey := { resourceId := "herd", lockClass := .dinosaurs }
    ∃ h w, Life Scripted.backend key cutOff 42 none false h w ∧ h.ownerToken = some "first" ∧
      (h.release Scripted.backend w).1 = .finished (.error (.release (.io "connection lost"))) ∧
      (h.release Scripted.backend w).2.1.ownerToken = none ∧
      ((h.release Scripted.backend w).2.1.release Scripted.backend w).1 = .finished (.error .transactionMissing) := by
  intro key
  have made : Made Scripted.backend key cutOff (.finished (.ok opened)) (create Scripted.backend none key cutOff).2 :=
    .called none
  have entered := (Life.created made).entitled rfl "first"
  have released := life_cycle Scripted.backend key cutOff entered.releases
  refine ⟨_, _, entered, rfl, ?_, released.token rfl rfl, (congrArg Prod.fst (released.refused rfl rfl .first none _).2)⟩
  exact (life_cycle Scripted.backend key cutOff entered).firstRelease rfl rfl

end LockHandle

end NamedLock
