import NamedLock.Key
import NamedLock.LockError

/-!
# Request — what a session is asked to do

A session is one transaction of a database: it is begun, tells its number, takes locks that last until it ends, and
is committed. An answer may have to wait. A backend says how requests are answered, for sessions known by number.
-/

namespace NamedLock

/-- The number of a session: the `n`-th session that was asked for, whether it could be opened or not. -/
abbrev SessionId := Nat

/-- What came of looking for an answer. -/
inductive Poll (α : Type)
  | ready (a : α)
  | pending
  deriving DecidableEq, Repr

/-- Applies a function to an answer. -/
def Poll.map {α β : Type} (f : α → β) : Poll α → Poll β
  | ready a => ready (f a)
  | pending => pending

/-- A request to a session. -/
inductive Request
  | begin
  | transactionId
  /-- The lock on a pair, until the transaction ends. -/
  | lock (pair : HashPair)
  | commit
  deriving DecidableEq, Repr

/-- What a request is answered with. -/
abbrev Request.Answer : Request → Type
  | begin => Except LockError Unit
  | transactionId => Except DatabaseError Int
  | lock _ => Except DatabaseError Unit
  | commit => Except DatabaseError Unit

/-- How sessions answer, as transitions of a state `σ`. A session has at most one request waiting. -/
structure Backend (σ : Type) where
  /-- Makes a request. -/
  start : SessionId → (r : Request) → σ → Poll r.Answer × σ
  /-- Looks again for the answer to a waiting request. -/
  resume : SessionId → (r : Request) → σ → Poll r.Answer × σ
  /-- Gives up a waiting request; the session stays. -/
  abandon : SessionId → σ → σ
  /-- Ends a session that may not have been committed. -/
  drop : SessionId → σ → σ

end NamedLock
