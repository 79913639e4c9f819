import NamedLock.Text.Quoted
import NamedLock.World

/-!
# Handle — one lock and the session that holds it

A handle owns a session from the moment it is opened until it is released. Opening reads the number of the
transaction, which is only for diagnosis: a failure is logged and the number is zero. Releasing commits the session
and clears the handle, whatever comes of the commit.
-/

namespace NamedLock

/-- What an operation has come to: its result, or what it waits with. -/
inductive Progress (γ α : Type)
  | finished (a : α)
  | suspended (c : γ)

/-- A lock, or what is left of it after its release. -/
structure LockHandle where
  session : Option SessionId
  transactionId : Int
  ownerToken : Option String
  key : Option LockKey
  acquiredAt : Metrics.Nanos
  deriving DecidableEq, Repr

namespace LockHandle

/-- The part of the program that log events of handles name. -/
def logTarget : String := "advisory_lock::lock::handle"

/-- Whether the handle still owns a session. -/
def isActive (h : LockHandle) : Bool := h.session.isSome

/-- How log lines show a key. -/
def describeKey (k : LockKey) : String :=
  "LockKey \x7b resource_id: " ++ Text.quote k.resourceId ++ ", lock_class: " ++ k.lockClass.name ++
    " \x7d"

/-- How log lines show a handle. -/
def describe (h : LockHandle) : String :=
  let key := match h.key with
    | some k => "Some(" ++ describeKey k ++ ")"
    | none => "None"
  "LockHandle \x7b key: " ++ key ++ ", owner_token: " ++ Text.quoteOption h.ownerToken ++
    ", transaction_id: " ++ Number.showInt h.transactionId ++ ", active: " ++
    (if h.isActive then "true" else "false") ++ " \x7d"

variable {σ : Type}

/-! ## Opening -/

/-- The step of an opening that waits, with the session that it waits for. -/
inductive Opening
  | beginning (s : SessionId)
  | identifying (s : SessionId)
  deriving DecidableEq, Repr

/-- The session that is being opened. -/
def Opening.session : Opening → SessionId
  | .beginning s => s
  | .identifying s => s

/-- The event of a transaction whose number could not be read. -/
def unidentifiedEvent (span : Option Log.Span) (key : LockKey) (e : DatabaseError) : Log.Event where
  level := .warn
  target := logTarget
  message := "Could not read transaction id"
  fields := [("key", .text key.encoded), ("error", .text e.message)]
  span

/-- The handle of a session whose number was asked for. -/
def identified (span : Option Log.Span) (key : LockKey) (s : SessionId)
    (answer : Except DatabaseError Int) (w : World σ) : LockHandle × World σ :=
  let handle (id : Int) : LockHandle :=
    { session := some s, transactionId := id, ownerToken := none, key := some key, acquiredAt := w.now }
  match answer with
  | .ok id => (handle id, w)
  -- the number is only for diagnosis, so the handle is opened all the same
  | .error e => (handle 0, w.tell (unidentifiedEvent span key e))

/-- Looks for the number of the transaction. -/
def identify (b : Backend σ) (turn : Turn) (span : Option Log.Span) (key : LockKey) (s : SessionId)
    (w : World σ) : Progress Opening (Except LockError LockHandle) × World σ :=
  match w.poll b turn s .transactionId with
  | (.pending, w) => (.suspended (.identifying s), w)
  | (.ready answer, w) =>
    let (h, w) := identified span key s answer w
    (.finished (.ok h), w)

/-- Looks whether the session has been opened, then for its number. -/
def begin (b : Backend σ) (turn : Turn) (span : Option Log.Span) (key : LockKey) (s : SessionId)
    (w : World σ) : Progress Opening (Except LockError LockHandle) × World σ :=
  match w.poll b turn s .begin with
  | (.pending, w) => (.suspended (.beginning s), w)
  | (.ready (.error e), w) => (.finished (.error e), w)
  | (.ready (.ok ()), w) => identify b .first span key s w

/-- Starts to open a handle. -/
def create (b : Backend σ) (span : Option Log.Span) (key : LockKey) (w : World σ) :
    Progress Opening (Except LockError LockHandle) × World σ :=
  let (s, w) := w.number
  begin b .first span key s w

/-- Goes on with an opening. -/
def Opening.resume (b : Backend σ) (span : Option Log.Span) (key : LockKey) (o : Opening)
    (w : World σ) : Progress Opening (Except LockError LockHandle) × World σ :=
  match o with
  | .beginning s => begin b .later span key s w
  | .identifying s => identify b .later span key s w

/-- Gives up an opening. A session that has been opened is dropped. -/
def Opening.cancel (b : Backend σ) (o : Opening) (w : World σ) : World σ :=
  match o with
  | .beginning s => w.abandon b s
  | .identifying s => w.abandonAndDrop b s

/-! ## Taking the lock -/

/-- The event of a handle that is about to ask for its lock. -/
def waitingEvent (span : Option Log.Span) (key : LockKey) (transactionId : Int) : Log.Event where
  level := .debug
  target := logTarget
  message := "Waiting for advisory lock"
  fields := [("key", .text key.encoded), ("id_hash", .number key.hashes.1.toInt),
    ("class_hash", .number key.hashes.2.toInt), ("txid", .number transactionId)]
  span

/-- Tells that a handle is about to ask for its lock, before it does so. -/
def announce (turn : Turn) (span : Option Log.Span) (key : LockKey) (transactionId : Int) (w : World σ) :
    World σ :=
  match turn with
  | .first => w.tell (waitingEvent span key transactionId)
  | .later => w

/-- Asks for the lock of a handle, or looks for the answer. A handle without its key or without its session
refuses. -/
def acquire (b : Backend σ) (turn : Turn) (span : Option Log.Span) (h : LockHandle)
    (w : World σ) : Poll (Except LockError LockHandle) × World σ :=
  match h.key, h.session with
  | none, _ => (.ready (.error .keyMissing), w)
  | some _, none => (.ready (.error .transactionMissing), w)
  | some key, some s =>
    match (announce turn span key h.transactionId w).poll b turn s (.lock key.hashes) with
    | (.pending, w) => (.pending, w)
    | (.ready (.ok ()), w) => (.ready (.ok { h with acquiredAt := w.now }), w)
    | (.ready (.error e), w) => (.ready (.error (.acquire key.encoded e)), w)

/-! ## Release -/

/-- The handle after its release. -/
def cleared (h : LockHandle) : LockHandle :=
  { h with session := none, ownerToken := none, key := none }

/-- Looks for the answer to the commit of a session, and drops the session once it is there. -/
def commit (b : Backend σ) (turn : Turn) (s : SessionId) (w : World σ) :
    Poll (Except LockError Unit) × World σ :=
  match w.poll b turn s .commit with
  | (.pending, w) => (.pending, w)
  | (.ready answer, w) => (.ready (answer.mapError .release), w.drop b s)

/-- Drops the session of a handle that is given up. -/
def discard (b : Backend σ) (h : LockHandle) (w : World σ) : World σ :=
  match h.session with
  | some s => w.drop b s
  | none => w

end LockHandle

end NamedLock
