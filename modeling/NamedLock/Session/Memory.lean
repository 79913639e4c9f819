import NamedLock.Keyed
import NamedLock.Session.Request

/-!
# Memory — sessions without a database

Locks live in this process. Every pair in use has a gate: a permit, and the sessions that wait for it, first come
first served. A permit that is given back goes straight to the first session that waits, before that session looks
again. A session gives back all its permits when it is committed or dropped, and then a gate that nobody refers to
is removed from the slots.
-/

namespace NamedLock

namespace Memory

/-- The place of a gate. -/
abbrev GateId := Nat

/-- A fair lock. -/
structure Gate where
  /-- Whether the permit is there to be taken. -/
  free : Bool := true
  /-- The sessions that wait, first one first. -/
  queue : List SessionId := []
  deriving DecidableEq, Repr, Inhabited

/-- A request for a pair that could not be granted at once. -/
structure Waiting where
  pair : HashPair
  gate : GateId
  /-- Whether the permit was handed over since. -/
  granted : Bool := false
  deriving DecidableEq, Repr

/-- An open transaction. -/
structure Session where
  transactionId : Int
  /-- The pairs that the session holds, each with its gate. -/
  held : Keyed HashPair GateId := []
  waiting : Option Waiting := none
  /-- Whether the session has been committed, with success or not. -/
  finished : Bool := false
  deriving DecidableEq, Repr

/-- Hands a session the permit that it waits for. -/
def Session.grant (x : Session) : Session :=
  { x with waiting := x.waiting.map fun w => { w with granted := true } }

/-- Whether a session holds a gate or waits for it. -/
def Session.refersTo (x : Session) (g : GateId) : Bool :=
  x.held.any (·.2 = g) || x.waiting.any (·.gate = g)

/-- All sessions and their locks. -/
structure State where
  /-- Every gate there ever was. -/
  gates : List Gate := []
  /-- The gate of each pair in use. -/
  slots : Keyed HashPair GateId := []
  /-- Sessions that have not been dropped. -/
  sessions : Keyed SessionId Session := []
  begun : Nat := 0
  lastTransactionId : Int := 0
  committed : Nat := 0
  failNextBegin : Bool := false
  failLocks : Bool := false
  failCommits : Bool := false
  deriving DecidableEq, Repr, Inhabited

/-- A switch that makes requests fail. -/
inductive Switch
  | nextBegin
  | locks (on : Bool)
  | commits (on : Bool)
  deriving DecidableEq, Repr

namespace State

/-- Flips a switch. -/
def switch (st : State) : Switch → State
  | .nextBegin => { st with failNextBegin := true }
  | .locks on => { st with failLocks := on }
  | .commits on => { st with failCommits := on }

/-- The gate at a place. -/
def gate (st : State) (g : GateId) : Gate := st.gates.getD g {}

/-- Replaces the gate at a place. -/
def setGate (st : State) (g : GateId) (x : Gate) : State := { st with gates := st.gates.set g x }

/-- Changes a session that is still there. -/
def adjust (st : State) (s : SessionId) (f : Session → Session) : State :=
  { st with sessions := st.sessions.adjust s f }

/-- Whether a waiting request of a session can be answered. -/
def isWoken (st : State) (s : SessionId) : Bool :=
  match st.sessions.get? s with
  | some x => x.waiting.any (·.granted)
  | none => false

/-- The gate of a pair, made on demand. -/
def slot (st : State) (pair : HashPair) : GateId × State :=
  match st.slots.get? pair with
  | some g => (g, st)
  | none =>
    let g := st.gates.length
    (g, { st with gates := st.gates ++ [{}], slots := st.slots.set pair g })

/-- Gives a permit back: to the first session in the queue, if there is one. -/
def release (st : State) (g : GateId) : State :=
  match (st.gate g).queue with
  | [] => st.setGate g { st.gate g with free := true }
  | s :: queue => (st.setGate g { st.gate g with queue }).adjust s Session.grant

/-- Tries to take a permit without waiting for it. -/
def tryTake (st : State) (g : GateId) : Bool × State :=
  if (st.gate g).free then (true, st.setGate g { st.gate g with free := false }) else (false, st)

/-- Tries the permit of a pair, and gives it back at once when it was there: whether the pair is held. -/
def probe (st : State) (pair : HashPair) : Bool × State :=
  match st.slots.get? pair with
  | none => (false, st)
  | some g =>
    match st.tryTake g with
    | (true, st) => (false, st.release g)
    | (false, st) => (true, st)

/-- Whether a pair is held: its permit is with a session, or handed to one. -/
def isHeld (st : State) (pair : HashPair) : Bool := (st.probe pair).1

/-- Removes the slot of a pair when nobody refers to its gate. -/
def reclaim (st : State) (pair : HashPair) : State :=
  match st.slots.get? pair with
  | some g =>
    if st.sessions.any fun e => e.2.refersTo g then st
    else { st with slots := st.slots.erase pair }
  | none => st

/-- Gives back every permit of a session, then removes the slots that are out of use. -/
def releaseAll (st : State) (s : SessionId) : State :=
  match st.sessions.get? s with
  | none => st
  | some x =>
    let st := st.adjust s fun x => { x with held := [] }
    -- every permit goes back before any slot is looked at
    let st := x.held.values.foldl release st
    x.held.keys.foldl reclaim st

/-! ## Requests -/

/-- A connection that was cut. -/
def connectionError (reason : String) : DatabaseError := .io reason

/-- Opens a session, unless this was to fail. -/
def begin (st : State) (s : SessionId) : Except LockError Unit × State :=
  if st.failNextBegin then
    (.error (.session (connectionError "begin refused")), { st with failNextBegin := false })
  else
    let id := st.lastTransactionId + 1
    (.ok (),
      { st with
        begun := st.begun + 1
        lastTransactionId := id
        sessions := st.sessions.set s { transactionId := id } })

/-- The session, unless it is gone or finished. -/
def openSession? (st : State) (s : SessionId) : Option Session :=
  match st.sessions.get? s with
  | some x => if x.finished then none else some x
  | none => none

/-- The number of a transaction. -/
def transactionId (st : State) (s : SessionId) : Except DatabaseError Int :=
  match st.openSession? s with
  | some x => .ok x.transactionId
  | none => .error .transactionFinished

/-- Asks for a pair: granted at once when the session holds it already or its permit is free; otherwise
the session joins the queue. -/
def lock (st : State) (s : SessionId) (pair : HashPair) :
    Poll (Except DatabaseError Unit) × State :=
  match st.openSession? s with
  | none => (.ready (.error .transactionFinished), st)
  | some x =>
    if st.failLocks then
      (.ready (.error (connectionError "connection reset while waiting for lock")), st)
    -- a session may ask again for what it holds
    else if x.held.contains pair then (.ready (.ok ()), st)
    else
      let (g, st) := st.slot pair
      match st.tryTake g with
      | (true, st) => (.ready (.ok ()), st.adjust s fun x => { x with held := x.held.set pair g })
      | (false, st) =>
        (.pending,
          (st.setGate g { st.gate g with queue := (st.gate g).queue ++ [s] }).adjust s fun x =>
            { x with waiting := some { pair, gate := g } })

/-- Looks whether the permit that a session waits for was handed over. -/
def lockAgain (st : State) (s : SessionId) : Poll (Except DatabaseError Unit) × State :=
  match st.sessions.get? s with
  | some { waiting := some w, .. } =>
    if w.granted then
      (.ready (.ok ()),
        st.adjust s fun x => { x with held := x.held.set w.pair w.gate, waiting := none })
    else (.pending, st)
  | _ => (.pending, st)

/-- Leaves the queue; a permit that was handed over already goes on to the next session. The slot is not
looked at. -/
def abandon (st : State) (s : SessionId) : State :=
  match st.sessions.get? s with
  | some { waiting := some w, .. } =>
    let st := st.adjust s fun x => { x with waiting := none }
    if w.granted then st.release w.gate
    else st.setGate w.gate { st.gate w.gate with queue := (st.gate w.gate).queue.erase s }
  | _ => st

/-- Ends a transaction. Its locks are gone even when this fails. -/
def commit (st : State) (s : SessionId) : Except DatabaseError Unit × State :=
  match st.openSession? s with
  | none => (.error .transactionFinished, st)
  | some _ =>
    -- the session is finished and its locks are free before the answer is known
    let st := (st.adjust s fun x => { x with finished := true }).releaseAll s
    if st.failCommits then (.error (connectionError "connection lost during commit"), st)
    else (.ok (), { st with committed := st.committed + 1 })

/-- Ends a session as if rolled back. -/
def drop (st : State) (s : SessionId) : State :=
  let st := (st.abandon s).releaseAll s
  { st with sessions := st.sessions.erase s }

/-- Answers a request. -/
def start (s : SessionId) : (r : Request) → State → Poll r.Answer × State
  | .begin, st =>
    let (a, st) := st.begin s
    (.ready a, st)
  | .transactionId, st => (.ready (st.transactionId s), st)
  | .lock pair, st => st.lock s pair
  | .commit, st =>
    let (a, st) := st.commit s
    (.ready a, st)

/-- Looks again for an answer; only requests for a pair ever wait. -/
def resume (s : SessionId) : (r : Request) → State → Poll r.Answer × State
  | .lock _, st => st.lockAgain s
  | .begin, st => (.pending, st)
  | .transactionId, st => (.pending, st)
  | .commit, st => (.pending, st)

end State

end Memory

/-- Sessions whose locks live in this process. -/
def Memory.backend : Backend Memory.State where
  start := Memory.State.start
  resume := Memory.State.resume
  abandon s st := st.abandon s
  drop s st := st.drop s

end NamedLock
