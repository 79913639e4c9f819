import NamedLock.Handle
import NamedLock.Keyed

/-!
# Registry — the locks of a process, and who may give them up

A registry files the handle of every lock under the encoded key. Whoever takes a lock gets a token, and only the
holder of that token can give the lock up: a token that matches no entry is passed over in silence, so that nested
callers do not release the lock of their caller.
-/

namespace NamedLock

/-- The locks that are held, by encoded key. -/
structure Registry where
  entries : Keyed String LockHandle := []

/-- A lock that is held, as a registry shows it. -/
structure HeldLock where
  key : LockKey
  ownerToken : String
  transactionId : Int
  deriving DecidableEq, Repr

/-- Locks by resource, then by class. -/
def HeldLock.le (a b : HeldLock) : Bool :=
  a.key.resourceId < b.key.resourceId ||
    (a.key.resourceId == b.key.resourceId && a.key.lockClass.label ≤ b.key.lockClass.label)

namespace Registry

/-- The part of the program that log events of registries name. -/
def logTarget : String := "advisory_lock::lock::registry"

/-! ## Views -/

/-- How many locks are held. -/
def len (reg : Registry) : Nat := reg.entries.length

/-- Whether no lock is held. -/
def isEmpty (reg : Registry) : Bool := reg.entries.isEmpty

/-- Whether the lock with this key is held here. -/
def isLocked (reg : Registry) (key : LockKey) : Bool := reg.entries.contains key.encoded

/-- The lock of a handle, when the handle has a key and a token. -/
def held? (h : LockHandle) : Option HeldLock :=
  match h.key, h.ownerToken with
  | some key, some ownerToken => some { key, ownerToken, transactionId := h.transactionId }
  | _, _ => none

/-- The locks that are held. -/
def heldLocks (reg : Registry) : List HeldLock := reg.entries.values.filterMap held?

/-! ## Taking a lock -/

variable {σ : Type}

/-- The step of an acquisition that waits. -/
inductive Stage
  | opening (o : LockHandle.Opening)
  | locking (h : LockHandle)
  deriving DecidableEq, Repr

/-- An acquisition that waits. -/
structure Acquisition where
  token : String
  key : LockKey
  stage : Stage
  deriving DecidableEq, Repr

/-- The session that an acquisition waits for. -/
def Acquisition.session? (a : Acquisition) : Option SessionId :=
  match a.stage with
  | .opening o => some o.session
  | .locking h => h.session

/-- The span of an acquisition. -/
def acquireSpan (key : LockKey) : Log.Span where
  name := "acquire"
  target := logTarget
  fields := [("resource_id", .quoted key.resourceId), ("lock_class", .text key.lockClass.name)]

/-- An event inside an acquisition. -/
def acquireEvent (key : LockKey) (level : Log.Level) (message : String) (fields : Log.Fields) :
    Log.Event where
  level
  target := logTarget
  message
  fields := ("key", .text key.encoded) :: fields
  span := some (acquireSpan key)

/-- What an acquisition yields: its token, or an error. -/
abbrev Acquired := Progress Acquisition (Except LockError String)

/-- Ends an acquisition that failed: it is counted and logged. -/
def fail (key : LockKey) (message : String) (e : LockError) (w : World σ) : World σ :=
  (w.record (Metrics.lockFailed key.lockClass)).tell
    (acquireEvent key .error message [("error", .text e.message)])

/-- The message of a handle that is pushed out. -/
def displacedMessage : String :=
  "Advisory lock granted while another handle was registered for the same key"

/-- The event of a handle that is pushed out by another one under its key. -/
def displacedEvent (key : LockKey) (stale : LockHandle) : Log.Event :=
  acquireEvent key .error displacedMessage [("stale_owner", .text (Text.quoteOption stale.ownerToken))]

/-- Files the handle of a lock that was granted. A handle that was filed under the same key is pushed out and
its session dropped. -/
def enter (b : Backend σ) (token : String) (key : LockKey) (h : LockHandle) (reg : Registry)
    (w : World σ) : Registry × World σ :=
  -- only a handle that is filed has a token
  let entries := reg.entries.set key.encoded { h with ownerToken := some token }
  let w := match reg.entries.get? key.encoded with
    | none => w
    | some stale => stale.discard b (w.tell (displacedEvent key stale))
  ({ entries },
    w.tell (acquireEvent key .info "Advisory lock acquired"
      [("owner", .text token), ("txid", .number h.transactionId)]))

/-- Looks for the lock of a handle that has been opened. -/
def lock (b : Backend σ) (turn : Turn) (token : String) (key : LockKey) (h : LockHandle)
    (reg : Registry) (w : World σ) : Acquired × Registry × World σ :=
  match h.acquire b turn (some (acquireSpan key)) w with
  | (.pending, w) => (.suspended { token, key, stage := .locking h }, reg, w)
  | (.ready (.error e), w) =>
    -- the session is rolled back and nothing is filed
    (.finished (.error e), reg, h.discard b (fail key "Error obtaining the advisory lock" e w))
  | (.ready (.ok h), w) =>
    let (reg, w) := enter b token key h reg w
    (.finished (.ok token), reg, w)

/-- Goes on from the opening of a handle. -/
def opened (b : Backend σ) (token : String) (key : LockKey) (reg : Registry) :
    Progress LockHandle.Opening (Except LockError LockHandle) × World σ →
      Acquired × Registry × World σ
  | (.suspended o, w) => (.suspended { token, key, stage := .opening o }, reg, w)
  | (.finished (.error e), w) =>
    (.finished (.error e), reg, fail key "Error opening advisory lock session" e w)
  | (.finished (.ok h), w) => lock b .first token key h reg w

/-- Starts to take a lock; `token` is to be its token. -/
def acquire (b : Backend σ) (token : String) (key : LockKey) (reg : Registry) (w : World σ) :
    Acquired × Registry × World σ :=
  opened b token key reg (LockHandle.create b (some (acquireSpan key)) key w)

/-- Goes on with an acquisition. -/
def resumeAcquire (b : Backend σ) (a : Acquisition) (reg : Registry) (w : World σ) :
    Acquired × Registry × World σ :=
  match a.stage with
  | .opening o => opened b a.token a.key reg (o.resume b (some (acquireSpan a.key)) a.key w)
  | .locking h => lock b .later a.token a.key h reg w

/-- Gives up an acquisition: its waiting request, then its session. -/
def cancelAcquire (b : Backend σ) (a : Acquisition) (w : World σ) : World σ :=
  match a.stage with
  | .opening o => o.cancel b w
  | .locking h =>
    match h.session with
    | some s => w.abandonAndDrop b s
    | none => w

/-! ## Giving a lock up -/

/-- A release that waits for its commit. -/
structure Unlocking where
  token : String
  lockId : String
  lockClass : LockClass
  session : SessionId
  acquiredAt : Metrics.Nanos
  deriving DecidableEq, Repr

/-- The span of a release. -/
def unlockSpan (token : String) : Log.Span where
  name := "unlock"
  target := logTarget
  fields := [("owner_token", .quoted token)]

/-- An event inside a release. -/
def unlockEvent (token : String) (level : Log.Level) (message : String) (fields : Log.Fields) :
    Log.Event where
  level
  target := logTarget
  message
  fields
  span := some (unlockSpan token)

/-- The first entry with this token, and the entries without a token that stand before it. -/
def findOwned (token : String) : List (String × LockHandle) → Option String × List String
  | [] => (none, [])
  | (lockId, h) :: es =>
    match h.ownerToken with
    | none =>
      let (found, tokenless) := findOwned token es
      (found, lockId :: tokenless)
    | some t => if t = token then (some lockId, []) else findOwned token es

/-- The event of an entry without a token. -/
def tokenlessEvent (token lockId : String) : Log.Event :=
  unlockEvent token .error "Owner token could not be found in advisory lock"
    [("lock_id", .text lockId)]

/-- Takes the entry with this token out of the registry. -/
def takeOwned (token : String) (reg : Registry) (w : World σ) :
    Option (String × LockHandle) × Registry × World σ :=
  let (found, tokenless) := findOwned token reg.entries
  let w := tokenless.foldl (fun w lockId => w.tell (tokenlessEvent token lockId)) w
  match found with
  | none => (none, reg, w)
  | some lockId =>
    ((reg.entries.get? lockId).map fun h => (lockId, h), { entries := reg.entries.erase lockId }, w)

/-- Ends a release: it is counted, measured and logged. -/
def conclude (u : Unlocking) (answer : Except LockError Unit) (w : World σ) : World σ :=
  let fields : Log.Fields := [("lock_id", .text u.lockId), ("owner", .text u.token)]
  let duration := w.now - u.acquiredAt
  match answer with
  | .ok () =>
    (w.record (Metrics.lockEnded u.lockClass .ok duration)).tell
      (unlockEvent u.token .info "Unlocked lock" fields)
  | .error e =>
    (w.record (Metrics.lockEnded u.lockClass .unlockError duration)).tell
      (unlockEvent u.token .error "Could not unlock" (fields ++ [("error", .text e.message)]))

/-- Looks for the commit of a release. -/
def finish (b : Backend σ) (turn : Turn) (u : Unlocking) (w : World σ) :
    Progress Unlocking Unit × World σ :=
  match LockHandle.commit b turn u.session w with
  | (.pending, w) => (.suspended u, w)
  | (.ready answer, w) => (.finished (), conclude u answer w)

/-- Starts to give up the lock with this token. -/
def unlock (b : Backend σ) (token : String) (reg : Registry) (w : World σ) :
    Progress Unlocking Unit × Registry × World σ :=
  match takeOwned token reg w with
  | (none, reg, w) =>
    (.finished (), reg,
      w.tell (unlockEvent token .info "Caller not lock owner" [("owner", .text token)]))
  | (some (lockId, h), reg, w) =>
    match h.key, h.session with
    | none, _ =>
      (.finished (), reg,
        h.discard b (w.tell (unlockEvent token .error "Advisory lock has no key"
          [("lock_id", .text lockId), ("owner", .text token)])))
    | some key, some session =>
      -- the entry is gone from here on, whatever comes of the commit
      let (p, w) := finish b .first
        { token, lockId, lockClass := key.lockClass, session, acquiredAt := h.acquiredAt } w
      (p, reg, w)
    | some key, none =>
      -- a handle without a session has no lock left to release
      let u : Unlocking :=
        { token, lockId, lockClass := key.lockClass, session := 0, acquiredAt := h.acquiredAt }
      (.finished (), reg, conclude u (.error .transactionMissing) w)

/-- Goes on with a release. -/
def resumeUnlock (b : Backend σ) (u : Unlocking) (w : World σ) : Progress Unlocking Unit × World σ :=
  finish b .later u w

/-- Gives up a release: its session is dropped. -/
def cancelUnlock (b : Backend σ) (u : Unlocking) (w : World σ) : World σ :=
  w.abandonAndDrop b u.session

end Registry

end NamedLock
