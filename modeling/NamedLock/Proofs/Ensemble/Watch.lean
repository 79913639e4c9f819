import NamedLock.Proofs.Ensemble.Likeness

/-!
# Watch — a journal of what sessions answer

A backend that is watched keeps a journal beside its own state. Every answer is noted in it at the moment at which it is
given, and so is the end of every session. Nothing else changes: a run that is watched comes to what it comes to anyway.
So answers of which a run keeps no record itself can be read off the journal.
-/

namespace NamedLock

variable {σ ν : Type}

/-- What is noted of an answer, once it is there. -/
def Poll.noted {α : Type} (note : α → ν) : Poll α → List ν
  | .ready a => [note a]
  | .pending => []

/-- The backend with a journal of its answers, and of the sessions that are dropped. -/
def Backend.watched (b : Backend σ) (note : SessionId → (r : Request) → r.Answer → ν) (gone : SessionId → ν) :
    Backend (σ × List ν) where
  start s r st := ((b.start s r st.1).1, (b.start s r st.1).2, st.2 ++ (b.start s r st.1).1.noted (note s r))
  resume s r st := ((b.resume s r st.1).1, (b.resume s r st.1).2, st.2 ++ (b.resume s r st.1).1.noted (note s r))
  abandon s st := (b.abandon s st.1, st.2)
  drop s st := (b.drop s st.1, st.2 ++ [gone s])

/-- A world without its journal. -/
def World.unwatched (w : World (σ × List ν)) : World σ :=
  { sessions := w.sessions.1, begins := w.begins, traffic := w.traffic, log := w.log, metrics := w.metrics,
    now := w.now }

section Unwatched

variable (b : Backend σ) (note : SessionId → (r : Request) → r.Answer → ν) (gone : SessionId → ν)

theorem World.unwatched_poll (turn : Turn) (s : SessionId) (r : Request) (w : World (σ × List ν)) :
    Alike (fun w v => v = World.unwatched w) (w.poll (b.watched note gone) turn s r) (w.unwatched.poll b turn s r) := by
  cases turn with
  | first => exact .intro _ rfl
  | later => exact .intro _ rfl

/-- Nothing that is done with a session depends on the journal. -/
theorem Tracks.unwatched : Tracks (b.watched note gone) b fun w v => v = World.unwatched w where
  now := by
    rintro w _ rfl
    rfl
  begins := by
    rintro w _ rfl
    rfl
  traffic := by
    rintro w _ rfl
    rfl
  opens := by
    rintro w _ rfl
    exact World.unwatched_poll b note gone .first _ .begin w.number.2
  asks := by
    rintro w _ rfl s r -
    exact World.unwatched_poll b note gone .first s r w
  looks := by
    rintro w _ rfl s r
    exact World.unwatched_poll b note gone .later s r w
  abandons := by
    rintro w _ rfl s
    rfl
  drops := by
    rintro w _ rfl s
    rfl
  tells := by
    rintro w _ rfl e
    rfl
  records := by
    rintro w _ rfl m
    rfl
  passes := by
    rintro w _ rfl d
    rfl

end Unwatched

end NamedLock
