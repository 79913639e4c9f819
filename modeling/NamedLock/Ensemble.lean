import NamedLock.Registry

/-!
# Ensemble — registries, handles and sessions that share one backend

Several registries, handles and sessions take locks from one backend. Calls are made by events; a call that has to
wait is kept under its name until it is looked at again or given up. `step` carries out one event.
-/

namespace NamedLock

/-- A call that waits. -/
inductive Call
  | acquire (registry : Nat) (a : Registry.Acquisition)
  | unlock (registry : Nat) (u : Registry.Unlocking)
  /-- A session of its own is being opened. -/
  | begin (s : SessionId)
  | lock (on : String) (s : SessionId) (pair : HashPair)
  | identify (on : String) (s : SessionId)
  | commit (on : String) (s : SessionId)
  /-- A handle of its own is being opened. -/
  | create (key : LockKey) (o : LockHandle.Opening)
  | handleAcquire (on : String)
  | handleRelease (on : String) (s : SessionId)
  deriving DecidableEq, Repr

/-- What a call is made on, when it leaves a session where it is: no second call is made on it meanwhile. -/
inductive Target
  | session (on : String)
  | handle (on : String)
  deriving DecidableEq, Repr

/-- What a call is made on. -/
def Call.target? : Call → Option Target
  | .lock on _ _ => some (.session on)
  | .identify on _ => some (.session on)
  | .commit on _ => some (.session on)
  | .handleAcquire on => some (.handle on)
  | .handleRelease on _ => some (.handle on)
  | _ => none

/-- Registries, handles and sessions, and the calls that wait. -/
structure Ensemble (σ : Type) where
  world : World σ
  registries : List Registry
  handles : Keyed String LockHandle := []
  /-- Sessions that no handle owns. -/
  sessions : Keyed String SessionId := []
  calls : Keyed String Call := []

/-- Something that happens. A call has a name, under which it is kept while it waits. -/
inductive Event
  | acquire (name : String) (token : String) (key : LockKey) (registry : Nat)
  | unlock (name : String) (token : String) (registry : Nat)
  | poll (name : String)
  | cancel (name : String)
  /-- Opens a session of this name. -/
  | begin (name : String)
  | identify (name on : String)
  | lock (name on : String) (pair : HashPair)
  | commit (name on : String)
  | dropSession (on : String)
  /-- Opens a handle of this name. -/
  | create (name : String) (key : LockKey)
  | handleAcquire (name on : String)
  | handleRelease (name on : String)
  | dropHandle (on : String)
  /-- Time passes. -/
  | elapse (d : Metrics.Nanos)
  deriving DecidableEq, Repr

/-- Why an event makes no sense. -/
inductive Refusal
  | noRegistry
  | noSession
  | noHandle
  | notPending
  deriving DecidableEq, Repr

/-- The message of a refusal. -/
def Refusal.message : Refusal → String
  | noRegistry => "no such registry"
  | noSession => "no such session"
  | noHandle => "no such handle"
  | notPending => "not pending"

/-- What an event is answered with. -/
inductive Reply
  | done
  /-- A lock was taken under this name, and this is its token. -/
  | token (name : String) (token : String)
  | transaction (id : Int)
  | lockError (e : LockError)
  | databaseError (e : DatabaseError)
  | pending
  /-- Another call on the same session or handle waits. -/
  | busy
  | refused (r : Refusal)
  deriving DecidableEq, Repr

namespace Ensemble

variable {σ : Type}

/-- An ensemble of `n` registries on a backend. -/
def ofBackend (st : σ) (n : Nat) : Ensemble σ where
  world := { sessions := st }
  registries := List.replicate n {}

/-- Changes the sessions from outside: no call is made. -/
def adjustSessions (ens : Ensemble σ) (f : σ → σ) : Ensemble σ :=
  { ens with world := { ens.world with sessions := f ens.world.sessions } }

/-- Gives up a call. A call on a session or on a handle leaves the session where it is, unless it owns
it. -/
def giveUp (b : Backend σ) (ens : Ensemble σ) : Call → World σ
  | .acquire _ a => Registry.cancelAcquire b a ens.world
  | .unlock _ u => Registry.cancelUnlock b u ens.world
  | .begin s => ens.world.abandon b s
  | .lock _ s _ => ens.world.abandon b s
  | .identify _ s => ens.world.abandon b s
  | .commit _ s => ens.world.abandon b s
  | .create _ o => o.cancel b ens.world
  | .handleAcquire on =>
    match (ens.handles.get? on).bind (·.session) with
    | some s => ens.world.abandon b s
    | none => ens.world
  | .handleRelease _ s => ens.world.abandonAndDrop b s

/-- Keeps a call that waits. A call that was kept under the same name is given up. -/
def keep (b : Backend σ) (ens : Ensemble σ) (name : String) (c : Call) : Reply × Ensemble σ :=
  let world := match ens.calls.get? name with
    | some old => giveUp b ens old
    | none => ens.world
  (.pending, { ens with world, calls := ens.calls.set name c })

/-- The call that waits on a session or on a handle. -/
def callOn? (ens : Ensemble σ) (t : Target) : Option Call :=
  ens.calls.values.find? fun c => c.target? = some t

/-- Whether a call on this session or handle waits. -/
def busy (ens : Ensemble σ) (t : Target) : Bool := (ens.callOn? t).isSome

/-- Whether a call on this session waits. -/
def sessionBusy (ens : Ensemble σ) (on : String) : Bool := ens.busy (.session on)

/-- Whether a call on this handle waits. -/
def handleBusy (ens : Ensemble σ) (on : String) : Bool := ens.busy (.handle on)

/-! ## Calls on registries -/

/-- Replaces a registry. -/
def setRegistry (ens : Ensemble σ) (i : Nat) (reg : Registry) : Ensemble σ :=
  { ens with registries := ens.registries.set i reg }

/-- Takes over what an acquisition has come to. -/
def acquired (b : Backend σ) (ens : Ensemble σ) (name : String) (i : Nat) :
    Registry.Acquired × Registry × World σ → Reply × Ensemble σ
  | (p, reg, world) =>
    let ens := { ens.setRegistry i reg with world }
    match p with
    | .suspended a => keep b ens name (.acquire i a)
    | .finished (.ok token) => (.token name token, ens)
    | .finished (.error e) => (.lockError e, ens)

/-- Takes over what a release has come to. -/
def unlocked (b : Backend σ) (ens : Ensemble σ) (name : String) (i : Nat) :
    Progress Registry.Unlocking Unit × World σ → Reply × Ensemble σ
  | (p, world) =>
    let ens := { ens with world }
    match p with
    | .suspended u => keep b ens name (.unlock i u)
    | .finished () => (.done, ens)

/-! ## Calls on sessions -/

/-- Looks whether a session has been opened. A session that had the same name is dropped. -/
def begin (b : Backend σ) (turn : Turn) (name : String) (s : SessionId) (ens : Ensemble σ) :
    Reply × Ensemble σ :=
  match ens.world.poll b turn s .begin with
  | (.pending, world) => keep b { ens with world } name (.begin s)
  | (.ready (.ok ()), world) =>
    let world := match ens.sessions.get? name with
      | some old => world.drop b old
      | none => world
    (.done, { ens with world, sessions := ens.sessions.set name s })
  | (.ready (.error e), world) => (.lockError e, { ens with world })

/-- Looks for the number of a session's transaction. -/
def identify (b : Backend σ) (turn : Turn) (name on : String) (s : SessionId) (ens : Ensemble σ) :
    Reply × Ensemble σ :=
  match ens.world.poll b turn s .transactionId with
  | (.pending, world) => keep b { ens with world } name (.identify on s)
  | (.ready (.ok id), world) => (.transaction id, { ens with world })
  | (.ready (.error e), world) => (.databaseError e, { ens with world })

/-- The reply to a request that yields nothing. -/
def replyOf : Except DatabaseError Unit → Reply
  | .ok () => .done
  | .error e => .databaseError e

/-- Looks for a lock of a session. -/
def lock (b : Backend σ) (turn : Turn) (name on : String) (s : SessionId) (pair : HashPair)
    (ens : Ensemble σ) : Reply × Ensemble σ :=
  match ens.world.poll b turn s (.lock pair) with
  | (.pending, world) => keep b { ens with world } name (.lock on s pair)
  | (.ready answer, world) => (replyOf answer, { ens with world })

/-- Looks for the commit of a session. -/
def commit (b : Backend σ) (turn : Turn) (name on : String) (s : SessionId) (ens : Ensemble σ) :
    Reply × Ensemble σ :=
  match ens.world.poll b turn s .commit with
  | (.pending, world) => keep b { ens with world } name (.commit on s)
  | (.ready answer, world) => (replyOf answer, { ens with world })

/-- Makes a call on a session that is there and not busy. -/
def onSession (ens : Ensemble σ) (on : String) (f : SessionId → Reply × Ensemble σ) : Reply × Ensemble σ :=
  if ens.sessionBusy on then (.busy, ens)
  else
    match ens.sessions.get? on with
    | some s => f s
    | none => (.refused .noSession, ens)

/-! ## Calls on handles -/

/-- Takes over what the opening of a handle has come to. A handle that had the same name is dropped. -/
def created (b : Backend σ) (ens : Ensemble σ) (name : String) (key : LockKey) :
    Progress LockHandle.Opening (Except LockError LockHandle) × World σ → Reply × Ensemble σ
  | (.suspended o, world) => keep b { ens with world } name (.create key o)
  | (.finished (.ok h), world) =>
    let world := match ens.handles.get? name with
      | some old => old.discard b world
      | none => world
    (.done, { ens with world, handles := ens.handles.set name h })
  | (.finished (.error e), world) => (.lockError e, { ens with world })

/-- Looks for the lock of a handle. -/
def handleAcquire (b : Backend σ) (turn : Turn) (name on : String) (h : LockHandle)
    (ens : Ensemble σ) : Reply × Ensemble σ :=
  match h.acquire b turn none ens.world with
  | (.pending, world) => keep b { ens with world } name (.handleAcquire on)
  | (.ready (.ok h), world) => (.done, { ens with world, handles := ens.handles.set on h })
  | (.ready (.error e), world) => (.lockError e, { ens with world })

/-- Looks for the commit of a handle that has given its session away. -/
def handleCommit (b : Backend σ) (turn : Turn) (name on : String) (s : SessionId) (ens : Ensemble σ) :
    Reply × Ensemble σ :=
  match LockHandle.commit b turn s ens.world with
  | (.pending, world) => keep b { ens with world } name (.handleRelease on s)
  | (.ready answer, world) =>
    let ens := { ens with world, handles := ens.handles.adjust on LockHandle.cleared }
    match answer with
    | .ok () => (.done, ens)
    | .error e => (.lockError e, ens)

/-- Releases a handle: its session is taken out of it first. -/
def handleRelease (b : Backend σ) (name on : String) (h : LockHandle) (ens : Ensemble σ) :
    Reply × Ensemble σ :=
  match h.session with
  | none => (.lockError .transactionMissing, ens)
  | some s =>
    -- from here on the handle owns no session, even if the commit is given up
    handleCommit b .first name on s
      { ens with handles := ens.handles.set on { h with session := none } }

/-- Makes a call on a handle that is there and not busy. -/
def onHandle (ens : Ensemble σ) (on : String) (f : LockHandle → Reply × Ensemble σ) : Reply × Ensemble σ :=
  if ens.handleBusy on then (.busy, ens)
  else
    match ens.handles.get? on with
    | some h => f h
    | none => (.refused .noHandle, ens)

/-! ## Calls that wait -/

/-- Looks again at a call that is no longer kept; it is kept again when it still waits. -/
def resume (b : Backend σ) (name : String) (c : Call) (ens : Ensemble σ) : Reply × Ensemble σ :=
  match c with
  | .acquire i a =>
    match ens.registries[i]? with
    | some reg => acquired b ens name i (Registry.resumeAcquire b a reg ens.world)
    | none => (.refused .noRegistry, ens)
  | .unlock i u => unlocked b ens name i (Registry.resumeUnlock b u ens.world)
  | .begin s => begin b .later name s ens
  | .lock on s pair => lock b .later name on s pair ens
  | .identify on s => identify b .later name on s ens
  | .commit on s => commit b .later name on s ens
  | .create key o => created b ens name key (o.resume b none key ens.world)
  | .handleAcquire on =>
    match ens.handles.get? on with
    | some h => handleAcquire b .later name on h ens
    | none => (.refused .noHandle, ens)
  | .handleRelease on s => handleCommit b .later name on s ens

/-- The session that a call waits for. -/
def waitsFor? (ens : Ensemble σ) : Call → Option SessionId
  | .acquire _ a => a.session?
  | .unlock _ u => some u.session
  | .begin s => some s
  | .lock _ s _ => some s
  | .identify _ s => some s
  | .commit _ s => some s
  | .create _ o => some o.session
  | .handleAcquire on => (ens.handles.get? on).bind (·.session)
  | .handleRelease _ s => some s

/-! ## Events -/

/-- Carries out an event. -/
def step (b : Backend σ) (ens : Ensemble σ) : Event → Reply × Ensemble σ
  | .acquire name token key i =>
    match ens.registries[i]? with
    | some reg => acquired b ens name i (Registry.acquire b token key reg ens.world)
    | none => (.refused .noRegistry, ens)
  | .unlock name token i =>
    match ens.registries[i]? with
    | some reg =>
      let (p, reg, world) := Registry.unlock b token reg ens.world
      unlocked b (ens.setRegistry i reg) name i (p, world)
    | none => (.refused .noRegistry, ens)
  | .poll name =>
    match ens.calls.get? name with
    -- the call is taken out first, so that keeping it again gives up nothing
    | some c => resume b name c { ens with calls := ens.calls.erase name }
    | none => (.refused .notPending, ens)
  | .cancel name =>
    match ens.calls.get? name with
    | some c => (.done, { ens with world := giveUp b ens c, calls := ens.calls.erase name })
    | none => (.refused .notPending, ens)
  | .begin name =>
    if ens.sessionBusy name then (.busy, ens)
    else
      let (s, world) := ens.world.number
      begin b .first name s { ens with world }
  | .identify name on => ens.onSession on fun s => identify b .first name on s ens
  | .lock name on pair => ens.onSession on fun s => lock b .first name on s pair ens
  | .commit name on => ens.onSession on fun s => commit b .first name on s ens
  | .dropSession on =>
    ens.onSession on fun s =>
      (.done, { ens with world := ens.world.drop b s, sessions := ens.sessions.erase on })
  | .create name key =>
    if ens.handleBusy name then (.busy, ens)
    else created b ens name key (LockHandle.create b none key ens.world)
  | .handleAcquire name on => ens.onHandle on fun h => handleAcquire b .first name on h ens
  | .handleRelease name on => ens.onHandle on fun h => handleRelease b name on h ens
  | .dropHandle on =>
    ens.onHandle on fun h =>
      (.done, { ens with world := h.discard b ens.world, handles := ens.handles.erase on })
  | .elapse d => (.done, { ens with world := { ens.world with now := ens.world.now + d } })

/-- Carries out events, first one first. -/
def run (b : Backend σ) (ens : Ensemble σ) : List Event → Ensemble σ
  | [] => ens
  | e :: es => run b (step b ens e).2 es

end Ensemble

end NamedLock
