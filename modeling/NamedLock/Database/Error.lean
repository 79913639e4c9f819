import NamedLock.Number.Decimal

/-!
# Error — what can go wrong between a session and its database

Each way in which a database call fails, its message, and the chain of messages behind it.
-/

namespace NamedLock

/-- A failed database call. -/
inductive DatabaseError
  | poolTimedOut
  | poolClosed
  | workerCrashed
  | rowNotFound
  | beginFailed
  | io (reason : String)
  /-- A connection string that cannot be used. -/
  | configuration (reason : String)
  /-- A connection string with an option that cannot be used. -/
  | badOption (inner : DatabaseError)
  | tls (reason : String)
  | decode (reason : String)
  | encode (reason : String)
  | columnNotFound (name : String)
  | columnIndexOutOfBounds (index len : Nat)
  | protocol (reason : String)
  /-- The server refused a statement. -/
  | refused (reason : String)
  deriving DecidableEq, Repr, Inhabited

namespace DatabaseError

/-- The message of an error. -/
def message : DatabaseError → String
  | poolTimedOut => "pool timed out while waiting for an open connection"
  | poolClosed => "attempted to acquire a connection on a closed pool"
  | workerCrashed => "attempted to communicate with a crashed background worker"
  | rowNotFound => "no rows returned by a query that expected to return at least one row"
  | beginFailed => "got unexpected connection status after attempting to begin transaction"
  | io reason => "error communicating with database: " ++ reason
  | configuration reason => "error with configuration: " ++ reason
  | badOption inner => "error with configuration: " ++ inner.message
  | tls reason => "error occurred while attempting to establish a TLS connection: " ++ reason
  | decode reason => "error occurred while decoding: " ++ reason
  | encode reason => "error occurred while encoding a value: " ++ reason
  | columnNotFound name => "no column found for name: " ++ name
  | columnIndexOutOfBounds index len =>
    "column index out of bounds: the len is " ++ Number.showNat len ++ ", but the index is " ++
      Number.showNat index
  | protocol reason => "encountered unexpected or invalid data: " ++ reason
  | refused reason => "error returned from database: " ++ reason

/-- The messages of what lies behind an error, nearest first. -/
def causes : DatabaseError → List String
  | io reason => [reason]
  | configuration reason => [reason]
  | badOption inner => inner.message :: inner.causes
  | tls reason => [reason]
  | decode reason => [reason]
  | encode reason => [reason]
  | refused reason => [reason]
  | _ => []

/-- A session was used after its transaction had ended. -/
def transactionFinished : DatabaseError := protocol "transaction already finished"

end DatabaseError

end NamedLock
