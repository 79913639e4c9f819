import NamedLock.Postgres.Server

/-!
# Link — a client's end of a connection

A client counts how deep its transactions nest: the outermost is a transaction of the server, an inner one is a
savepoint. A rollback that cannot wait is queued and sent before the next statement. Opening a transaction that fails
queues a rollback of the level at which the client stood.
-/

namespace NamedLock

namespace Postgres

/-- A client's end of a connection, and the server behind it. -/
structure Link where
  server : Server := {}
  /-- How deep transactions nest. -/
  depth : Nat := 0
  /-- Statements that are sent before the next one. -/
  queued : List Statement := []
  /-- For each statement to come, the reason for which it fails, if it does; beyond the end none fails. -/
  failures : List (Option String) := []
  deriving DecidableEq, Repr

namespace Link

/-- Sends a statement. -/
def send (k : Link) (s : Statement) : Server.Result × Link :=
  let (r, server) := k.server.answer (k.failures.headD none) s
  (r, { k with server, failures := k.failures.drop 1 })

/-- Sends statements one after the other, up to the first that fails; those behind it stay queued. -/
def sendAll (k : Link) : List Statement → Except DatabaseError Unit × Link
  | [] => (.ok (), { k with queued := [] })
  | s :: ss =>
    match k.send s with
    | (.ok _, k) => sendAll k ss
    | (.error e, k) => (.error e, { k with queued := ss })

/-- Sends what is queued. -/
def flush (k : Link) : Except DatabaseError Unit × Link := k.sendAll k.queued

/-- Sends what is queued, then a statement. -/
def run (k : Link) (s : Statement) : Server.Result × Link :=
  match k.flush with
  | (.ok (), k) => k.send s
  | (.error e, k) => (.error e, k)

/-- The statement that opens a transaction inside `depth` others. -/
def opening : Nat → Statement
  | 0 => .begin
  | depth + 1 => .savepoint (depth + 1)

/-- The statement that commits the innermost of `depth + 1` transactions. -/
def committing : Nat → Statement
  | 0 => .commit
  | depth + 1 => .releaseSavepoint (depth + 1)

/-- The statement that rolls back the innermost of `depth + 1` transactions. -/
def undoing : Nat → Statement
  | 0 => .rollback
  | depth + 1 => .rollbackTo (depth + 1)

/-- Queues the rollback of the innermost transaction, if there is one. -/
def queueRollback (k : Link) : Link :=
  match k.depth with
  | 0 => k
  | depth + 1 => { k with depth, queued := k.queued ++ [undoing depth] }

/-- Opens a transaction inside those that are open. -/
def beginNested (k : Link) : Except DatabaseError Unit × Link :=
  match k.sendAll (k.queued ++ [opening k.depth]) with
  | (.ok (), k') =>
    if k'.server.transaction.isSome then (.ok (), { k' with depth := k'.depth + 1 })
    else (.error .beginFailed, k'.queueRollback)
  -- the depth has not grown yet, so that the enclosing transaction is the one that is queued
  | (.error e, k') => (.error e, k'.queueRollback)

/-- Commits the innermost transaction. When that fails it stays open. -/
def commitNested (k : Link) : Except DatabaseError Unit × Link :=
  match k.depth with
  | 0 => (.ok (), k)
  | depth + 1 =>
    match k.run (committing depth) with
    | (.ok _, k) => (.ok (), { k with depth })
    | (.error e, k) => (.error e, k)

/-- Rolls the innermost transaction back. When that fails it stays open. -/
def rollbackNested (k : Link) : Except DatabaseError Unit × Link :=
  match k.depth with
  | 0 => (.ok (), k)
  | depth + 1 =>
    match k.run (undoing depth) with
    | (.ok _, k) => (.ok (), { k with depth })
    | (.error e, k) => (.error e, k)

/-- Ends the innermost transaction by `f`; when that fails a rollback is queued. -/
def ending (k : Link) (f : Link → Except DatabaseError Unit × Link) : Except DatabaseError Unit × Link :=
  match f k with
  | (.ok (), k) => (.ok (), k)
  | (.error e, k) => (.error e, k.queueRollback)

end Link

end Postgres

end NamedLock
