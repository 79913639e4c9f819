import NamedLock.Database.Error

/-!
# LockError — why a lock operation failed

Five causes, each with a message, a code and an answer to whether the caller may try again.
-/

namespace NamedLock

/-- A failed lock operation. -/
inductive LockError
  /-- No session could be opened. -/
  | session (source : DatabaseError)
  /-- The operation makes no sense in this state. -/
  | invalidState (reason : String)
  /-- The database failed while the caller waited for a lock. -/
  | acquire (key : String) (source : DatabaseError)
  /-- The transaction could not be committed; the lock is gone all the same. -/
  | release (source : DatabaseError)
  | unknownLockClass (label : String)
  deriving DecidableEq, Repr

namespace LockError

/-- A handle without its key. -/
def keyMissing : LockError := invalidState "lock key is missing"

/-- A handle without its transaction. -/
def transactionMissing : LockError := invalidState "transaction is missing"

/-- The message of an error. -/
def message : LockError → String
  | session source => "无法开启数据库会话: " ++ source.message
  | invalidState reason => "锁状态无效: " ++ reason
  | acquire key _ => "获取锁失败: key=" ++ key
  | release source => "释放锁失败: " ++ source.message
  | unknownLockClass label => "未知的锁类别: " ++ label

/-- The code of an error. -/
def code : LockError → String
  | session _ => "LOCK_SESSION_ERROR"
  | invalidState _ => "LOCK_INVALID_STATE"
  | acquire _ _ => "LOCK_ACQUIRE_ERROR"
  | release _ => "LOCK_RELEASE_ERROR"
  | unknownLockClass _ => "UNKNOWN_LOCK_CLASS"

/-- Whether the same call may succeed later: the database failed before the lock was held. -/
def isRetryable : LockError → Bool
  | session _ => true
  | acquire _ _ => true
  | _ => false

/-- The database error behind a lock error. -/
def source? : LockError → Option DatabaseError
  | session source => some source
  | acquire _ source => some source
  | release source => some source
  | _ => none

/-- The messages of what lies behind an error, nearest first. -/
def causes (e : LockError) : List String :=
  match e.source? with
  | some source => source.message :: source.causes
  | none => []

end LockError

end NamedLock
