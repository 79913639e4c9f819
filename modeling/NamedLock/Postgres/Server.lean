import NamedLock.Database.Error
import NamedLock.Key

/-!
# Server — transactions as a database server keeps them

A connection is outside of any transaction, inside one, or inside one that was aborted by a failed statement.
An aborted transaction takes no statement but those that end it, or that go back to a savepoint. A lock that was
taken in a transaction lasts until the transaction ends, or goes back to a savepoint set before; a lock that is taken
outside of any transaction ends with its statement.
-/

namespace NamedLock

namespace Postgres

/-- A statement that a client sends. -/
inductive Statement
  | begin
  | commit
  | rollback
  | savepoint (n : Nat)
  | releaseSavepoint (n : Nat)
  | rollbackTo (n : Nat)
  | transactionId
  | lock (pair : HashPair)
  deriving DecidableEq, Repr

/-- The text of a statement. -/
def Statement.text : Statement → String
  | begin => "BEGIN"
  | commit => "COMMIT"
  | rollback => "ROLLBACK"
  | savepoint n => "SAVEPOINT _sqlx_savepoint_" ++ Number.showNat n
  | releaseSavepoint n => "RELEASE SAVEPOINT _sqlx_savepoint_" ++ Number.showNat n
  | rollbackTo n => "ROLLBACK TO SAVEPOINT _sqlx_savepoint_" ++ Number.showNat n
  | transactionId => "SELECT txid_current()"
  | lock _ => "SELECT pg_advisory_xact_lock($1, $2)"

/-- A transaction under way. -/
structure Transaction where
  /-- Transactions of a server are numbered. -/
  number : Nat
  aborted : Bool := false
  locks : List HashPair := []
  /-- Savepoints, the last one first, each with the locks that were held when it was set. -/
  savepoints : List (Nat × List HashPair) := []
  deriving DecidableEq, Repr

/-- One connection of a server. -/
structure Server where
  /-- How many transactions were started. -/
  started : Nat := 0
  transaction : Option Transaction := none
  /-- The statements that came, oldest first, each with the number of the transaction in which it ran. -/
  history : List (Statement × Option Nat) := []
  deriving DecidableEq, Repr

namespace Server

/-- A statement in an aborted transaction. -/
def abortedError : DatabaseError :=
  .refused "current transaction is aborted, commands ignored until end of transaction block"

/-- A statement that needs a transaction, outside of any. -/
def outsideError : DatabaseError := .refused "can only be used in transaction blocks"

/-- A savepoint that was never set. -/
def unknownSavepoint : DatabaseError := .refused "savepoint does not exist"

/-- What a statement yields: a number, if any. -/
abbrev Result := Except DatabaseError (Option Int)

/-- Starts a transaction that runs a single statement, or uses the number of the current one. -/
def numberOf (sv : Server) : Nat × Server :=
  match sv.transaction with
  | some t => (t.number, sv)
  | none => (sv.started + 1, { sv with started := sv.started + 1 })

/-- Changes the current transaction. -/
def inTransaction (sv : Server) (f : Transaction → Except DatabaseError Transaction) : Result × Server :=
  match sv.transaction with
  | none => (.error outsideError, sv)
  | some t =>
    match f t with
    | .ok t => (.ok none, { sv with transaction := some t })
    | .error e => (.error e, { sv with transaction := some { t with aborted := true } })

/-- The savepoints from this one on downwards. -/
def fromSavepoint (n : Nat) (t : Transaction) : List (Nat × List HashPair) :=
  t.savepoints.dropWhile (·.1 ≠ n)

/-- Carries out a statement that does not fail by itself. -/
def execute (sv : Server) : Statement → Result × Server
  | .begin =>
    match sv.transaction with
    | some t => (if t.aborted then .error abortedError else .ok none, sv)
    | none =>
      let n := sv.started + 1
      (.ok none, { sv with started := n, transaction := some { number := n } })
  | .commit => (.ok none, { sv with transaction := none })
  | .rollback => (.ok none, { sv with transaction := none })
  | .savepoint n =>
    sv.inTransaction fun t =>
      if t.aborted then .error abortedError
      else .ok { t with savepoints := (n, t.locks) :: t.savepoints }
  | .releaseSavepoint n =>
    sv.inTransaction fun t =>
      if t.aborted then .error abortedError
      else
        match fromSavepoint n t with
        | _ :: below => .ok { t with savepoints := below }
        | [] => .error unknownSavepoint
  | .rollbackTo n =>
    sv.inTransaction fun t =>
      match fromSavepoint n t with
      | (m, locks) :: below =>
        .ok { t with aborted := false, locks, savepoints := (m, locks) :: below }
      | [] => .error unknownSavepoint
  | .transactionId =>
    if sv.transaction.any (·.aborted) then (.error abortedError, sv)
    else
      let (n, sv) := sv.numberOf
      (.ok (some n), sv)
  | .lock pair =>
    match sv.transaction with
    | some t =>
      if t.aborted then (.error abortedError, sv)
      else (.ok none, { sv with transaction := some { t with locks := t.locks ++ [pair] } })
    | none => (.ok none, sv)

/-- A statement that fails: it aborts the transaction. A commit that fails ends it. -/
def fail (sv : Server) (reason : String) (s : Statement) : Result × Server :=
  let sv :=
    match s with
    | .commit => { sv with transaction := none }
    | _ => { sv with transaction := sv.transaction.map fun t => { t with aborted := true } }
  (.error (.refused reason), sv)

/-- Answers a statement; `failure` is the reason for which it fails by itself, if it does. -/
def answer (sv : Server) (failure : Option String) (s : Statement) : Result × Server :=
  let sv := { sv with history := sv.history ++ [(s, sv.transaction.map Transaction.number)] }
  match failure with
  | some reason => sv.fail reason s
  | none => sv.execute s

end Server

end Postgres

end NamedLock
