import NamedLock.Session.Request

/-!
# ClosedPool — sessions of a pool that has been closed

No session can be opened any more.
-/

namespace NamedLock

namespace ClosedPool

/-- Refuses a request. -/
def refuse : (r : Request) → Poll r.Answer
  | .begin => .ready (.error (.session .poolClosed))
  | .transactionId => .ready (.error .poolClosed)
  | .lock _ => .ready (.error .poolClosed)
  | .commit => .ready (.error .poolClosed)

/-- A pool that refuses every session. -/
def backend : Backend Unit where
  start _ r st := (refuse r, st)
  resume _ r st := (refuse r, st)
  abandon _ st := st
  drop _ st := st

end ClosedPool

end NamedLock
