import NamedLock.Keyed
import NamedLock.Postgres.Link
import NamedLock.Session.Request

/-!
# Session — sessions on a database server

A session is a transaction on a connection of its own. Its number is read inside a savepoint, so that a failure
to read it need not spoil the transaction. The transaction is given away by the first commit, with success or not;
from then on the session sends nothing.
-/

namespace NamedLock

namespace Postgres

/-- A session: its connection, and whether its transaction has been given away. -/
structure Session where
  link : Link
  finished : Bool := false
  deriving DecidableEq, Repr

/-- Sessions on a server, and the failures that connections to come will meet. -/
structure State where
  upcoming : List (List (Option String)) := []
  sessions : Keyed SessionId Session := []
  deriving DecidableEq, Repr

namespace Session

/-- Opens a transaction on a connection. -/
def begin (link : Link) : Except DatabaseError Session :=
  match link.beginNested with
  | (.ok (), link) => .ok { link }
  | (.error e, _) => .error e

/-- Reads the number of the transaction inside a savepoint. -/
def transactionId (x : Session) : Except DatabaseError Int × Session :=
  if x.finished then (.error .transactionFinished, x)
  else
    match x.link.beginNested with
    | (.error e, link) => (.error e, { x with link })
    | (.ok (), link) =>
      match link.run .transactionId with
      | (.ok id, link) =>
        match link.ending Link.commitNested with
        | (.ok (), link) => (.ok (id.getD 0), { x with link })
        | (.error e, link) => (.error e, { x with link })
      | (.error e, link) => (.error e, { x with link := (link.ending Link.rollbackNested).2 })

/-- Takes a lock in the transaction. -/
def lock (x : Session) (pair : HashPair) : Except DatabaseError Unit × Session :=
  if x.finished then (.error .transactionFinished, x)
  else
    match x.link.run (.lock pair) with
    | (.ok _, link) => (.ok (), { x with link })
    | (.error e, link) => (.error e, { x with link })

/-- Gives the transaction away to be committed. -/
def commit (x : Session) : Except DatabaseError Unit × Session :=
  if x.finished then (.error .transactionFinished, x)
  else
    let (r, link) := x.link.ending Link.commitNested
    (r, { link, finished := true })

/-- Drops a session: a transaction that was not given away is rolled back before the connection is used
again. -/
def drop (x : Session) : Session :=
  if x.finished then x else { link := x.link.queueRollback, finished := true }

end Session

namespace State

/-- Acts on a session; one that is not there counts as finished. -/
def onSession {α : Type} (st : State) (s : SessionId)
    (f : Session → Except DatabaseError α × Session) : Poll (Except DatabaseError α) × State :=
  match st.sessions.get? s with
  | none => (.ready (.error .transactionFinished), st)
  | some x =>
    let (r, x) := f x
    (.ready r, { st with sessions := st.sessions.set s x })

/-- Answers a request. -/
def start (s : SessionId) : (r : Request) → State → Poll r.Answer × State
  | .begin, st =>
    let link : Link := { failures := st.upcoming.headD [] }
    let st := { st with upcoming := st.upcoming.drop 1 }
    match Session.begin link with
    | .ok x => (.ready (.ok ()), { st with sessions := st.sessions.set s x })
    | .error e => (.ready (.error (.session e)), st)
  | .transactionId, st => st.onSession s Session.transactionId
  | .lock pair, st => st.onSession s fun x => x.lock pair
  | .commit, st => st.onSession s Session.commit

end State

/-- Sessions on a server whose statements are answered at once. -/
def backend : Backend State where
  start := State.start
  resume _ _ st := (.pending, st)
  abandon _ st := st
  drop s st := { st with sessions := st.sessions.adjust s Session.drop }

end Postgres

end NamedLock
