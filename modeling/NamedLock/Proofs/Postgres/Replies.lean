import NamedLock.Proofs.Postgres.Inside
import NamedLock.Proofs.Session.Dealings

/-!
# Replies — where errors of database sessions come from

Statements fail because the server refuses them; nothing between a session and the server fails by itself, but for the
opening of a transaction that the server does not open. A session that still has its transaction passes these errors
on. One that has given it away refuses by itself and sends nothing.
-/

namespace NamedLock

namespace Postgres

/-! ## Errors from the server -/

/-- An error that comes from the server, or from opening a transaction on it. -/
def Remote (e : DatabaseError) : Prop := e = .beginFailed ∨ ∃ reason, e = .refused reason

/-- If this fails, the server is to blame. -/
def FailsRemotely {α β : Type} (r : Except DatabaseError α × β) : Prop := ∀ e, r.1 = .error e → Remote e

theorem Remote.ne_finished {e : DatabaseError} (h : Remote e) : e ≠ .transactionFinished := by
  rcases h with rfl | ⟨reason, rfl⟩ <;> simp [DatabaseError.transactionFinished]

theorem FailsRemotely.refuses {α β : Type} (reason : String) (y : β) :
    FailsRemotely ((.error (.refused reason), y) : Except DatabaseError α × β) := by
  rintro e ⟨⟩
  exact .inr ⟨reason, rfl⟩

theorem FailsRemotely.ok {α β : Type} (a : α) (y : β) :
    FailsRemotely ((.ok a, y) : Except DatabaseError α × β) := by
  rintro e ⟨⟩

theorem FailsRemotely.error {α α' β β' : Type} {e : DatabaseError} {y : β} (y' : β')
    (h : FailsRemotely ((.error e, y) : Except DatabaseError α × β)) :
    FailsRemotely ((.error e, y') : Except DatabaseError α' × β') := by
  rintro _ ⟨⟩
  exact h e rfl

theorem Server.inTransaction_remote (sv : Server) {f : Transaction → Except DatabaseError Transaction}
    (hf : ∀ t e, f t = .error e → Remote e) : FailsRemotely (sv.inTransaction f) := by
  unfold inTransaction
  split
  next => exact .refuses _ _
  next t _ =>
    split
    next => exact .ok _ _
    next e he =>
      rintro _ ⟨⟩
      exact hf t e he

theorem Server.execute_remote (sv : Server) (s : Statement) : FailsRemotely (sv.execute s) := by
  have haborted : Remote abortedError := .inr ⟨_, rfl⟩
  have hunknown : Remote unknownSavepoint := .inr ⟨_, rfl⟩
  cases s with
  | begin =>
    simp only [execute]
    split
    next =>
      split
      next => exact .refuses _ _
      next => exact .ok _ _
    next => exact .ok _ _
  | commit => exact .ok _ _
  | rollback => exact .ok _ _
  | savepoint n =>
    refine inTransaction_remote sv fun t e he => ?_
    split at he
    next =>
      cases he
      exact haborted
    next => cases he
  | releaseSavepoint n =>
    refine inTransaction_remote sv fun t e he => ?_
    split at he
    next =>
      cases he
      exact haborted
    next =>
      split at he
      next => cases he
      next =>
        cases he
        exact hunknown
  | rollbackTo n =>
    refine inTransaction_remote sv fun t e he => ?_
    split at he
    next => cases he
    next =>
      cases he
      exact hunknown
  | transactionId =>
    simp only [execute]
    split
    next => exact .refuses _ _
    next => exact .ok _ _
  | lock pair =>
    simp only [execute]
    split
    next =>
      split
      next => exact .refuses _ _
      next => exact .ok _ _
    next => exact .ok _ _

namespace Link

theorem send_remote (k : Link) (s : Statement) : FailsRemotely (k.send s) := by
  unfold send Server.answer
  cases k.failures.headD none with
  | none => exact Server.execute_remote _ s
  | some reason => exact .refuses reason _

theorem sendAll_remote (k : Link) (ss : List Statement) : FailsRemotely (k.sendAll ss) := by
  induction ss generalizing k with
  | nil => exact .ok _ _
  | cons s ss ih =>
    have hsend := send_remote k s
    unfold sendAll
    split
    next => exact ih _
    next he => exact .error _ (he ▸ hsend)

theorem run_remote (k : Link) (s : Statement) : FailsRemotely (k.run s) := by
  have hflush : FailsRemotely k.flush := sendAll_remote k _
  unfold run
  split
  next => exact send_remote _ s
  next he => exact .error _ (he ▸ hflush)

theorem beginNested_remote (k : Link) : FailsRemotely k.beginNested := by
  have hall := sendAll_remote k (k.queued ++ [opening k.depth])
  unfold beginNested
  split
  next =>
    split
    next => exact .ok _ _
    next =>
      rintro _ ⟨⟩
      exact .inl rfl
  next he => exact .error _ (he ▸ hall)

theorem commitNested_remote (k : Link) : FailsRemotely k.commitNested := by
  unfold commitNested
  split
  next => exact .ok _ _
  next depth _ =>
    have hrun := run_remote k (committing depth)
    split
    next => exact .ok _ _
    next he => exact .error _ (he ▸ hrun)

theorem ending_commitNested_remote (k : Link) : FailsRemotely (k.ending commitNested) := by
  have hcommit := commitNested_remote k
  unfold ending
  split
  next => exact .ok _ _
  next he => exact .error _ (he ▸ hcommit)

end Link

namespace Session

variable {x : Session}

theorem transactionId_remote (hx : x.finished = false) : FailsRemotely x.transactionId := by
  have hbegin := x.link.beginNested_remote
  simp only [transactionId, hx, Bool.false_eq_true, if_false]
  split
  next he => exact .error _ (he ▸ hbegin)
  next link _ =>
    have hrun := link.run_remote .transactionId
    split
    next link' _ =>
      have hending := link'.ending_commitNested_remote
      split
      next => exact .ok _ _
      next he => exact .error _ (he ▸ hending)
    next he => exact .error _ (he ▸ hrun)

theorem lock_remote (hx : x.finished = false) (pair : HashPair) : FailsRemotely (x.lock pair) := by
  have hrun := x.link.run_remote (.lock pair)
  simp only [lock, hx, Bool.false_eq_true, if_false]
  split
  next => exact .ok _ _
  next he => exact .error _ (he ▸ hrun)

theorem commit_remote (hx : x.finished = false) : FailsRemotely x.commit := by
  have hending := x.link.ending_commitNested_remote
  simp only [commit, hx, Bool.false_eq_true, if_false]
  exact fun e he => hending e he

/-! ## The mark -/

theorem transactionId_of_finished (hx : x.finished = true) : x.transactionId = (.error .transactionFinished, x) :=
  if_pos hx

theorem lock_of_finished (hx : x.finished = true) (pair : HashPair) :
    x.lock pair = (.error .transactionFinished, x) :=
  if_pos hx

theorem commit_of_finished (hx : x.finished = true) : x.commit = (.error .transactionFinished, x) :=
  if_pos hx

theorem finished_transactionId (x : Session) : x.transactionId.2.finished = x.finished := by
  unfold transactionId
  split
  next => rfl
  next =>
    split
    next => rfl
    next =>
      split
      next => split <;> rfl
      next => rfl

theorem finished_lock (x : Session) (pair : HashPair) : (x.lock pair).2.finished = x.finished := by
  unfold lock
  split
  next => rfl
  next => split <;> rfl

theorem finished_commit (x : Session) : x.commit.2.finished = true := by
  unfold commit
  split
  next h => exact h
  next => rfl

end Session

namespace State

variable {α : Type} {st st' : State} {s t : SessionId} {x : Session}
  {f : Session → Except DatabaseError α × Session}

/-- Whether a session that was opened is finished. -/
def finished? (s : SessionId) (st : State) : Option Bool := (st.sessions.get? s).map (·.finished)

theorem onSession_of_get? (hx : st.sessions.get? s = some x) :
    st.onSession s f = (.ready (f x).1, { st with sessions := st.sessions.set s (f x).2 }) := by
  simp only [onSession, hx]

/-- A session that has given its transaction away refuses, and stays as it is. -/
theorem onSession_of_finished (hx : st.sessions.get? s = some x)
    (hf : f x = (.error .transactionFinished, x)) : st.onSession s f = (.ready (.error .transactionFinished), st) := by
  rw [onSession_of_get? hx, hf]
  simp only [Keyed.set_of_get?_eq_some hx]

theorem finished?_onSession (hf : ∀ x, (f x).2.finished = x.finished) :
    (st.onSession s f).2.finished? t = st.finished? t := by
  cases hx : st.sessions.get? s with
  | none => simp only [onSession, hx]
  | some x =>
    rw [onSession_of_get? hx]
    simp only [finished?, Keyed.get?_set]
    split
    next ht => simp [ht, hx, hf]
    next => rfl

/-- An error on the way to the server and back is not the one of a finished session. -/
theorem onSession_ne_finished (hx : st.sessions.get? s = some x) (hf : FailsRemotely (f x)) :
    (st.onSession s f).1 ≠ .ready (.error .transactionFinished) := by
  rw [onSession_of_get? hx]
  intro h
  exact (hf _ (Poll.ready.inj h)).ne_finished rfl

/-- What happens elsewhere leaves the mark of a session: others act on themselves. -/
theorem finished?_elsewhere {outside : State → State → Prop} (hout : ∀ st st', outside st st' → st'.finished? s = st.finished? s)
    (h : backend.Elsewhere outside s st st') : st'.finished? s = st.finished? s := by
  cases h with
  | answers ht turn r =>
    cases turn with
    | first => exact congrArg (Option.map _) (get?_start_of_ne ht r st)
    | later => rfl
  | abandons ht => rfl
  | drops ht => exact congrArg (Option.map _) (Keyed.get?_adjust_ne _ _ ht.symm)
  | intrudes h => exact hout _ _ h

/-- A session is finished with the answer to its commit, whatever this is. -/
theorem finished?_commit {m : Bool} (h : st.finished? s = some m) :
    (st.onSession s Session.commit).2.finished? s = some true := by
  obtain ⟨x, hx, -⟩ := Option.map_eq_some_iff.1 h
  rw [onSession_of_get? hx]
  simp [finished?, Session.finished_commit]

end State

/-- What comes from outside: the server does to the links what it likes, and new links meet any failures. Only the
client's own marks stay. -/
def Outside (st st' : State) : Prop := ∀ s, st'.finished? s = st.finished? s

open State in
/-- Sessions on a server are marked when their transaction is given away. -/
theorem backend_marks : backend.Marks Outside State.finished? where
  begun turn s st st' h := by
    cases turn with
    | later => cases h
    | first =>
      simp only [Backend.answer, backend, State.start] at h
      split at h
      next x hx =>
        cases h
        -- a new session has its transaction
        have hnew : x.finished = false := by
          unfold Session.begin at hx
          split at hx
          next =>
            cases hx
            rfl
          next => cases hx
        simp [finished?, hnew]
      next => cases h
  finished s st h r a ha := by
    obtain ⟨x, hx, hf⟩ := Option.map_eq_some_iff.1 h
    cases r with
    | begin => cases ha
    | transactionId =>
      cases ha
      exact onSession_of_finished hx (Session.transactionId_of_finished hf)
    | lock pair =>
      cases ha
      exact onSession_of_finished hx (Session.lock_of_finished hf pair)
    | commit =>
      cases ha
      exact onSession_of_finished hx (Session.commit_of_finished hf)
  unfinished turn s st h r a ha := by
    obtain ⟨x, hx, hf⟩ := Option.map_eq_some_iff.1 h
    cases turn with
    | later => simp [Backend.answer, backend]
    | first =>
      cases r with
      | begin => cases ha
      | transactionId =>
        cases ha
        exact onSession_ne_finished hx (Session.transactionId_remote hf)
      | lock pair =>
        cases ha
        exact onSession_ne_finished hx (Session.lock_remote hf pair)
      | commit =>
        cases ha
        exact onSession_ne_finished hx (Session.commit_remote hf)
  commit s st m h := by
    obtain ⟨x, hx, -⟩ := Option.map_eq_some_iff.1 h
    have hmarked := finished?_commit h
    rw [onSession_of_get? hx] at hmarked
    exact ⟨_, _, onSession_of_get? (f := Session.commit) hx, hmarked⟩
  rest turn s r st hb hc := by
    cases turn with
    | later => rfl
    | first =>
      cases r with
      | begin => exact absurd rfl hb
      | commit => exact absurd rfl hc
      | transactionId => exact finished?_onSession Session.finished_transactionId
      | lock pair => exact finished?_onSession fun x => x.finished_lock pair
  abandon s st := rfl
  elsewhere s st st' := finished?_elsewhere fun _ _ h => h s

end Postgres

end NamedLock
