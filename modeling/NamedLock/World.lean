import NamedLock.Log
import NamedLock.Metrics
import NamedLock.Session.Request

/-!
# World — what lock operations act on

The sessions, everything that was asked of them, and everything that was told: log events and metrics. Records
grow at the end and never lose anything.
-/

namespace NamedLock

/-- What a session was told. -/
inductive Traffic
  | asked (s : SessionId) (r : Request)
  | dropped (s : SessionId)
  deriving DecidableEq, Repr

/-- The state that lock operations share. -/
structure World (σ : Type) where
  sessions : σ
  /-- How many sessions were asked for. -/
  begins : Nat := 0
  traffic : List Traffic := []
  log : List Log.Event := []
  metrics : Metrics.Recording := []
  /-- The time on the clock. -/
  now : Metrics.Nanos := 0

/-- Whether an operation looks for its answer for the first time. -/
inductive Turn
  | first
  | later
  deriving DecidableEq, Repr

namespace World

variable {σ : Type}

/-- The number of the next session, which is taken. -/
def number (w : World σ) : SessionId × World σ :=
  let s := w.begins + 1
  (s, { w with begins := s })

/-- Looks for the answer to a request, which reaches the session the first time. -/
def poll (b : Backend σ) (turn : Turn) (s : SessionId) (r : Request) (w : World σ) :
    Poll r.Answer × World σ :=
  match turn with
  | .first =>
    let (p, st) := b.start s r w.sessions
    (p, { w with sessions := st, traffic := w.traffic ++ [.asked s r] })
  | .later =>
    let (p, st) := b.resume s r w.sessions
    (p, { w with sessions := st })

/-- Gives up the waiting request of a session. -/
def abandon (b : Backend σ) (s : SessionId) (w : World σ) : World σ :=
  { w with sessions := b.abandon s w.sessions }

/-- Drops a session. -/
def drop (b : Backend σ) (s : SessionId) (w : World σ) : World σ :=
  { w with sessions := b.drop s w.sessions, traffic := w.traffic ++ [.dropped s] }

/-- Gives up the waiting request of a session and drops the session. -/
def abandonAndDrop (b : Backend σ) (s : SessionId) (w : World σ) : World σ :=
  (w.abandon b s).drop b s

/-- Logs an event. -/
def tell (e : Log.Event) (w : World σ) : World σ := { w with log := w.log ++ [e] }

/-- Records metrics. -/
def record (r : Metrics.Recording) (w : World σ) : World σ := { w with metrics := w.metrics ++ r }

end World

end NamedLock
