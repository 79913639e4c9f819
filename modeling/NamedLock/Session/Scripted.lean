import NamedLock.Keyed
import NamedLock.Session.Request

/-!
# Scripted — sessions whose answers are laid down beforehand

Each session follows a script: whether it opens, its number, and what comes of each request for a lock and of each
commit. Every lock is granted, whoever else holds it, and nothing waits.
-/

namespace NamedLock

namespace Scripted

/-- What a session answers. Requests beyond the end of a list succeed. -/
structure Script where
  begin : Except LockError Unit := .ok ()
  transactionId : Except DatabaseError Int := .ok 42
  locks : List (Except DatabaseError Unit) := []
  commits : List (Except DatabaseError Unit) := []

/-- Scripts for the sessions to come, and what is left of those in use. -/
structure State where
  upcoming : List Script := []
  running : Keyed SessionId Script := []

namespace State

/-- The script of a session. -/
def script (st : State) (s : SessionId) : Script := (st.running.get? s).getD {}

/-- Answers a request. -/
def start (s : SessionId) : (r : Request) → State → Poll r.Answer × State
  | .begin, st =>
    let script := st.upcoming.headD {}
    (.ready script.begin,
      { upcoming := st.upcoming.drop 1, running := st.running.set s script })
  | .transactionId, st => (.ready (st.script s).transactionId, st)
  | .lock _, st =>
    let script := st.script s
    (.ready (script.locks.headD (.ok ())),
      { st with running := st.running.set s { script with locks := script.locks.drop 1 } })
  | .commit, st =>
    let script := st.script s
    (.ready (script.commits.headD (.ok ())),
      { st with running := st.running.set s { script with commits := script.commits.drop 1 } })

end State

/-- Sessions that follow scripts. -/
def backend : Backend State where
  start := State.start
  resume _ _ st := (.pending, st)
  abandon _ st := st
  drop s st := { st with running := st.running.erase s }

end Scripted

end NamedLock
