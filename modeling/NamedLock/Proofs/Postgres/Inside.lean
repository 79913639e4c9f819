import NamedLock.Postgres.Session
import NamedLock.Proofs.Ensemble.Traffic

/-!
# Inside — where a lock of a database session is taken

A session begins a transaction, reads its number inside a savepoint, and then takes its lock. The reading may fail at
any of its statements, and is passed over when it does. `Link.Inside` says that a link still stands in the transaction
that was begun: what it has queued goes back to a savepoint of that transaction at most. `Link.Astray` says that the
transaction is lost: it is about to be rolled back, or gone, or of no use.

A link goes astray when the savepoint cannot be set, and for no other reason. Asking for locks keeps it where it is.
-/

namespace NamedLock

namespace Postgres

/-! ## Statements -/

/-- A transaction after a failed statement. -/
def Transaction.abort (t : Transaction) : Transaction := { t with aborted := true }

theorem Transaction.aborted_of_map {t? : Option Transaction} {t : Transaction} (h : t?.map abort = some t) :
    t.aborted = true := by
  obtain ⟨t', -, rfl⟩ := Option.map_eq_some_iff.1 h
  rfl

namespace Server

/-- A server that has noted a statement and not answered it yet. -/
def noted (sv : Server) (s : Statement) : Server :=
  { sv with history := sv.history ++ [(s, sv.transaction.map Transaction.number)] }

variable (sv : Server) {t : Transaction} (m : Nat)

theorem execute_savepoint (ht : sv.transaction = some t) (ha : t.aborted = false) :
    sv.execute (.savepoint m) =
      (.ok none, { sv with transaction := some { t with savepoints := (m, t.locks) :: t.savepoints } }) := by
  simp [execute, inTransaction, ht, ha]

theorem execute_releaseSavepoint (ht : sv.transaction = some t) (ha : t.aborted = false) {x : Nat × List HashPair}
    {below : List (Nat × List HashPair)} (hs : fromSavepoint m t = x :: below) :
    sv.execute (.releaseSavepoint m) = (.ok none, { sv with transaction := some { t with savepoints := below } }) := by
  simp [execute, inTransaction, ht, ha, hs]

theorem execute_rollbackTo (ht : sv.transaction = some t) {x : Nat × List HashPair}
    {below : List (Nat × List HashPair)} (hs : fromSavepoint m t = x :: below) :
    sv.execute (.rollbackTo m) =
      (.ok none,
        { sv with transaction := some { t with aborted := false, locks := x.2, savepoints := x :: below } }) := by
  simp [execute, inTransaction, ht, hs]

theorem execute_transactionId (ht : sv.transaction = some t) (ha : t.aborted = false) :
    sv.execute .transactionId = (.ok (some t.number), sv) := by
  simp [execute, numberOf, ht, ha]

theorem execute_lock (ht : sv.transaction = some t) (pair : HashPair) :
    sv.execute (.lock pair) =
      if t.aborted then (.error abortedError, sv)
      else (.ok none, { sv with transaction := some { t with locks := t.locks ++ [pair] } }) := by
  simp [execute, ht]

theorem execute_lock_outside (ht : sv.transaction = none) (pair : HashPair) :
    sv.execute (.lock pair) = (.ok none, sv) := by
  simp [execute, ht]

end Server

/-- Where a link stands: how deep, with what queued, and in which transaction of the server. -/
structure Link.At (k : Link) (depth : Nat) (queued : List Statement) (t? : Option Transaction) : Prop where
  depth : k.depth = depth
  queued : k.queued = queued
  transaction : k.server.transaction = t?

namespace Link

/-- Whether the next statement fails by itself. -/
def failsNext (k : Link) : Bool := (k.failures.headD none).isSome

variable {k : Link} {depth : Nat} {queued : List Statement} {t : Transaction} {t? : Option Transaction} {s : Statement}

/-- A statement that fails by itself aborts the transaction. -/
theorem At.send_fails (h : k.At depth queued t?) (hf : k.failsNext = true) (hs : s ≠ .commit) :
    ∃ e k', k.send s = (.error e, k') ∧ k'.At depth queued (t?.map Transaction.abort) := by
  obtain ⟨reason, hreason⟩ := Option.isSome_iff_exists.1 hf
  have hsend : k.send s = (((k.server.noted s).fail reason s).1,
      { k with server := ((k.server.noted s).fail reason s).2, failures := k.failures.drop 1 }) := by
    unfold send
    rw [hreason]
    rfl
  refine ⟨.refused reason, _, hsend, h.depth, h.queued, ?_⟩
  have hfail : ((k.server.noted s).fail reason s).2.transaction = k.server.transaction.map Transaction.abort := by
    cases s <;> first | rfl | exact absurd rfl hs
  rw [hfail, h.transaction]

/-- A statement that does not fail by itself is carried out on the server. -/
theorem At.send_executes (h : k.At depth queued t?) (hf : k.failsNext = false) {r : Server.Result} {sv : Server}
    (he : (k.server.noted s).execute s = (r, sv)) :
    ∃ k', k.send s = (r, k') ∧ k'.server = sv ∧ k'.At depth queued sv.transaction := by
  have hnone : k.failures.headD none = none := by simpa [failsNext] using hf
  refine ⟨{ k with server := sv, failures := k.failures.drop 1 }, ?_, rfl, h.depth, h.queued, rfl⟩
  have hanswer : k.server.answer none s = (r, sv) := he
  unfold send
  rw [hnone, hanswer]

/-- With nothing queued, a statement is sent at once. -/
theorem At.run_nil (h : k.At depth [] t?) (s : Statement) : k.run s = k.send s := by
  have hsame : { k with queued := [] } = k := by rw [← h.queued]
  have hflush : k.flush = (.ok (), k) := by
    rw [flush, h.queued]
    exact congrArg (Prod.mk _) hsame
  rw [run, hflush]

/-- Sending one statement leaves nothing queued. -/
theorem At.sendAll_error {k' : Link} {e : DatabaseError} (h : k'.At depth queued t?)
    (hsend : k.send s = (.error e, k')) :
    ∃ k', k.sendAll [s] = (.error e, k') ∧ k'.At depth [] t? :=
  ⟨{ k' with queued := [] }, by simp only [sendAll, hsend], h.depth, rfl, h.transaction⟩

theorem At.sendAll_ok {k' : Link} {x : Option Int} (h : k'.At depth queued t?) (hsend : k.send s = (.ok x, k')) :
    ∃ k', k.sendAll [s] = (.ok (), k') ∧ k'.At depth [] t? :=
  ⟨{ k' with queued := [] }, by simp only [sendAll, hsend], h.depth, rfl, h.transaction⟩

/-- What is queued goes first, and a statement is sent only if that went well. -/
theorem run_of_sendAll_ok {k' : Link} (hq : k.queued = queued) (hall : k.sendAll queued = (.ok (), k')) :
    k.run s = k'.send s := by
  rw [run, flush, hq, hall]

theorem run_of_sendAll_error {k' : Link} {e : DatabaseError} (hq : k.queued = queued)
    (hall : k.sendAll queued = (.error e, k')) : k.run s = (.error e, k') := by
  rw [run, flush, hq, hall]

/-! ## Opening a savepoint and closing it -/

/-- A savepoint that cannot be set costs the transaction around it. -/
theorem At.beginNested_fails (h : k.At 1 [] t?) (hf : k.failsNext = true) :
    ∃ e k', k.beginNested = (.error e, k') ∧ k'.At 0 [.rollback] (t?.map Transaction.abort) := by
  obtain ⟨e, k₁, hsend, h₁⟩ := h.send_fails (s := .savepoint 1) hf (by simp)
  obtain ⟨k₂, hall, h₂⟩ := h₁.sendAll_error hsend
  refine ⟨e, k₂.queueRollback, ?_, ?_, ?_, ?_⟩
  · have hopening : k.queued ++ [opening k.depth] = [.savepoint 1] := by rw [h.queued, h.depth]; rfl
    rw [beginNested, hopening, hall]
  · simp [queueRollback, h₂.depth]
  · simp [queueRollback, h₂.depth, h₂.queued, undoing]
  · simp [queueRollback, h₂.depth, h₂.transaction]

theorem At.beginNested_ok (h : k.At 1 [] (some t)) (hf : k.failsNext = false) (ha : t.aborted = false) :
    ∃ k', k.beginNested = (.ok (), k') ∧ k'.At 2 [] (some { t with savepoints := (1, t.locks) :: t.savepoints }) := by
  obtain ⟨k₁, hsend, -, h₁⟩ := h.send_executes hf (Server.execute_savepoint (k.server.noted _) 1 h.transaction ha)
  obtain ⟨k₂, hall, h₂⟩ := h₁.sendAll_ok hsend
  refine ⟨{ k₂ with depth := k₂.depth + 1 }, ?_, ?_, h₂.queued, h₂.transaction⟩
  · have hopening : k.queued ++ [opening k.depth] = [.savepoint 1] := by rw [h.queued, h.depth]; rfl
    rw [beginNested, hopening, hall]
    simp [h₂.transaction]
  · simp [h₂.depth]

/-- A link that stands in the transaction of this number. -/
inductive Inside (n : Nat) (k : Link) : Prop
  | rests {t : Transaction} (stands : k.At 1 [] (some t)) (number : t.number = n)
  /-- The transaction goes back to its savepoint before the next statement. -/
  | returns {t : Transaction} {x : Nat × List HashPair} {below : List (Nat × List HashPair)}
    (stands : k.At 1 [.rollbackTo 1] (some t)) (number : t.number = n) (set : Server.fromSavepoint 1 t = x :: below)

/-- A link that stands in no transaction that could take a lock. -/
inductive Astray (k : Link) : Prop
  /-- Whatever there is, is rolled back before the next statement. -/
  | doomed {t? : Option Transaction} (stands : k.At 0 [.rollback] t?)
  | lost {t? : Option Transaction} (stands : k.At 0 [] t?) (none_or_aborted : ∀ t, t? = some t → t.aborted = true)

/-- Whatever comes of closing the savepoint, the transaction around it stays. -/
theorem At.closes (h : k.At 2 [] (some t)) {x : Nat × List HashPair} {below : List (Nat × List HashPair)}
    (set : Server.fromSavepoint 1 t = x :: below) {f : Link → Except DatabaseError Unit × Link}
    (hs : s ≠ .commit) (hsends : ∀ r k', k.send s = (r, k') →
      f k = (r.map fun _ => (), match r with | .ok _ => { k' with depth := 1 } | .error _ => k'))
    (hexec : ∃ t', (k.server.noted s).execute s = (.ok none, { k.server.noted s with transaction := some t' }) ∧
      t'.number = t.number) :
    Inside t.number (k.ending f).2 := by
  cases hf : k.failsNext with
  | true =>
    obtain ⟨e, k', hsend, h'⟩ := h.send_fails hf hs
    have hending : (k.ending f).2 = k'.queueRollback := by simp [ending, hsends _ _ hsend, Except.map]
    rw [hending]
    refine @Inside.returns _ _ t.abort x below ⟨?_, ?_, ?_⟩ rfl set
    · simp [queueRollback, h'.depth]
    · simp [queueRollback, h'.depth, h'.queued, undoing]
    · simp [queueRollback, h'.depth, h'.transaction]
  | false =>
    obtain ⟨t', he, hn⟩ := hexec
    obtain ⟨k', hsend, -, h'⟩ := h.send_executes hf he
    have hending : (k.ending f).2 = { k' with depth := 1 } := by simp [ending, hsends _ _ hsend, Except.map]
    rw [hending]
    exact .rests ⟨rfl, h'.queued, h'.transaction⟩ hn

theorem At.ending_commitNested (h : k.At 2 [] (some t)) (ha : t.aborted = false) {x : Nat × List HashPair}
    {below : List (Nat × List HashPair)} (set : Server.fromSavepoint 1 t = x :: below) :
    Inside t.number (k.ending commitNested).2 := by
  refine h.closes (s := .releaseSavepoint 1) set (by simp) ?_ ?_
  · intro r k' hsend
    simp only [commitNested, h.depth, committing, h.run_nil, hsend]
    cases r <;> rfl
  · exact ⟨_, Server.execute_releaseSavepoint (k.server.noted _) 1 h.transaction ha set, rfl⟩

theorem At.ending_rollbackNested (h : k.At 2 [] (some t)) {x : Nat × List HashPair}
    {below : List (Nat × List HashPair)} (set : Server.fromSavepoint 1 t = x :: below) :
    Inside t.number (k.ending rollbackNested).2 := by
  refine h.closes (s := .rollbackTo 1) set (by simp) ?_ ?_
  · intro r k' hsend
    simp only [rollbackNested, h.depth, undoing, h.run_nil, hsend]
    cases r <;> rfl
  · exact ⟨_, Server.execute_rollbackTo (k.server.noted _) 1 h.transaction set, rfl⟩

/-! ## Asking for a lock -/

/-- A link whose last statement took a lock in the transaction of this number, which is still good. -/
structure Holds (n : Nat) (pair : HashPair) (k : Link) : Prop where
  last : k.server.history.getLast? = some (.lock pair, some n)
  lock : ∃ t, k.server.transaction = some t ∧ t.number = n ∧ t.aborted = false ∧ pair ∈ t.locks

/-- A link whose last statement took a lock outside of any transaction. -/
structure Misses (pair : HashPair) (k : Link) : Prop where
  last : k.server.history.getLast? = some (.lock pair, none)
  outside : k.server.transaction = none

/-- What a statement yields: the link stays as `P` says, and is as `Q` says when the statement succeeds. -/
inductive Yields (P Q : Link → Prop) : Server.Result × Link → Prop
  | fails {e : DatabaseError} {k : Link} (stays : P k) : Yields P Q (.error e, k)
  | succeeds {x : Option Int} {k : Link} (stays : P k) (done : Q k) : Yields P Q (.ok x, k)

variable {n : Nat}

theorem At.lock (h : k.At 1 [] (some t)) (hn : t.number = n) (pair : HashPair) :
    Yields (Inside n) (Holds n pair) (k.send (.lock pair)) := by
  cases hf : k.failsNext with
  | true =>
    obtain ⟨e, k', hsend, h'⟩ := h.send_fails (s := .lock pair) hf (by simp)
    rw [hsend]
    exact .fails (.rests h' hn)
  | false =>
    have hexec := Server.execute_lock (k.server.noted (.lock pair)) h.transaction pair
    cases ha : t.aborted with
    | true =>
      rw [ha, if_pos rfl] at hexec
      obtain ⟨k', hsend, -, h'⟩ := h.send_executes hf hexec
      rw [hsend]
      exact .fails (.rests ⟨h'.depth, h'.queued, h'.transaction.trans h.transaction⟩ hn)
    | false =>
      rw [ha, if_neg (by simp)] at hexec
      obtain ⟨k', hsend, hserver, h'⟩ := h.send_executes hf hexec
      rw [hsend]
      refine .succeeds (.rests h' hn) ⟨?_, _, h'.transaction, hn, rfl, by simp⟩
      simp [hserver, Server.noted, h.transaction, hn]

/-- Asking for a lock inside the transaction leaves the link there, and takes the lock there if anywhere. -/
theorem Inside.lock (h : k.Inside n) (pair : HashPair) : Yields (Inside n) (Holds n pair) (k.run (.lock pair)) := by
  cases h with
  | rests stands number =>
    rw [stands.run_nil]
    exact stands.lock number pair
  | @returns t x below stands number set =>
    cases hf : k.failsNext with
    | true =>
      obtain ⟨e, k₁, hsend, h₁⟩ := stands.send_fails (s := .rollbackTo 1) hf (by simp)
      obtain ⟨k₂, hall, h₂⟩ := h₁.sendAll_error hsend
      rw [run_of_sendAll_error stands.queued hall]
      exact .fails (.rests h₂ number)
    | false =>
      have hexec := Server.execute_rollbackTo (k.server.noted (.rollbackTo 1)) 1 stands.transaction set
      obtain ⟨k₁, hsend, -, h₁⟩ := stands.send_executes hf hexec
      obtain ⟨k₂, hall, h₂⟩ := h₁.sendAll_ok hsend
      rw [run_of_sendAll_ok stands.queued hall]
      exact h₂.lock number pair

theorem At.lock_outside (h : k.At 0 [] t?) (ht : ∀ t, t? = some t → t.aborted = true) (pair : HashPair) :
    Yields Astray (Misses pair) (k.send (.lock pair)) := by
  cases hf : k.failsNext with
  | true =>
    obtain ⟨e, k', hsend, h'⟩ := h.send_fails (s := .lock pair) hf (by simp)
    rw [hsend]
    exact .fails (.lost h' fun _ => Transaction.aborted_of_map)
  | false =>
    cases t? with
    | some t =>
      have hexec := Server.execute_lock (k.server.noted (.lock pair)) h.transaction pair
      rw [ht t rfl, if_pos rfl] at hexec
      obtain ⟨k', hsend, -, h'⟩ := h.send_executes hf hexec
      rw [hsend]
      refine .fails (.lost ⟨h'.depth, h'.queued, h'.transaction.trans h.transaction⟩ ht)
    | none =>
      have hexec := Server.execute_lock_outside (k.server.noted (.lock pair)) h.transaction pair
      obtain ⟨k', hsend, hserver, h'⟩ := h.send_executes hf hexec
      rw [hsend]
      refine .succeeds (.lost h' ?_) ⟨?_, ?_⟩
      · simp [Server.noted, h.transaction]
      · simp [hserver, Server.noted, h.transaction]
      · simp [hserver, Server.noted, h.transaction]

/-- A link that went astray takes no lock in any transaction. -/
theorem Astray.lock (h : k.Astray) (pair : HashPair) : Yields Astray (Misses pair) (k.run (.lock pair)) := by
  cases h with
  | lost stands none_or_aborted =>
    rw [stands.run_nil]
    exact stands.lock_outside none_or_aborted pair
  | @doomed t? stands =>
    cases hf : k.failsNext with
    | true =>
      obtain ⟨e, k₁, hsend, h₁⟩ := stands.send_fails (s := .rollback) hf (by simp)
      obtain ⟨k₂, hall, h₂⟩ := h₁.sendAll_error hsend
      rw [run_of_sendAll_error stands.queued hall]
      exact .fails (.lost h₂ fun _ => Transaction.aborted_of_map)
    | false =>
      obtain ⟨k₁, hsend, -, h₁⟩ := stands.send_executes (s := .rollback) hf rfl
      obtain ⟨k₂, hall, h₂⟩ := h₁.sendAll_ok hsend
      rw [run_of_sendAll_ok stands.queued hall]
      exact h₂.lock_outside (by simp) pair

end Link

/-! ## Sessions -/

namespace Session

variable {x : Session} {t : Transaction} {pair : HashPair}

/-- A session that was begun stands in the first transaction of its connection. -/
theorem begin_stands {failures : List (Option String)} (h : Session.begin { failures } = .ok x) :
    x.finished = false ∧ x.link.At 1 [] (some { number := 1 }) := by
  have hat : Link.At { failures } 0 [] none := ⟨rfl, rfl, rfl⟩
  unfold Session.begin at h
  cases hf : Link.failsNext { failures } with
  | true =>
    obtain ⟨e, k₁, hsend, h₁⟩ := hat.send_fails (s := .begin) hf (by simp)
    obtain ⟨k₂, hall, h₂⟩ := h₁.sendAll_error hsend
    have hbegin : Link.beginNested { failures } = (.error e, k₂.queueRollback) := by
      have hopening : Link.sendAll { failures } ([] ++ [Link.opening 0]) = (.error e, k₂) := hall
      rw [Link.beginNested, hopening]
    rw [hbegin] at h
    cases h
  | false =>
    obtain ⟨k₁, hsend, -, h₁⟩ := hat.send_executes (s := .begin) hf rfl
    obtain ⟨k₂, hall, h₂⟩ := h₁.sendAll_ok hsend
    have hbegin : Link.beginNested { failures } = (.ok (), { k₂ with depth := k₂.depth + 1 }) := by
      have hopening : Link.sendAll { failures } ([] ++ [Link.opening 0]) = (.ok (), k₂) := hall
      rw [Link.beginNested, hopening]
      simp [h₂.transaction, Server.noted]
    rw [hbegin] at h
    cases h
    exact ⟨rfl, congrArg (· + 1) h₂.depth, h₂.queued, h₂.transaction⟩

/-- Reading the number keeps a session in its transaction, unless the savepoint cannot be set. -/
theorem transactionId_stands (hx : x.finished = false) (h : x.link.At 1 [] (some t)) (ha : t.aborted = false) :
    x.transactionId.2.finished = false ∧ (x.link.failsNext = false → x.transactionId.2.link.Inside t.number) ∧
      (x.link.failsNext = true → x.transactionId.2.link.Astray) := by
  unfold transactionId
  rw [if_neg (by simp [hx])]
  cases hf : x.link.failsNext with
  | true =>
    obtain ⟨e, k₁, hbegin, h₁⟩ := h.beginNested_fails hf
    rw [hbegin]
    exact ⟨hx, by simp, fun _ => .doomed h₁⟩
  | false =>
    obtain ⟨k₁, hbegin, h₁⟩ := h.beginNested_ok hf ha
    rw [hbegin]
    dsimp only
    rw [h₁.run_nil]
    have hset : Server.fromSavepoint 1 { t with savepoints := (1, t.locks) :: t.savepoints } =
        (1, t.locks) :: t.savepoints := by simp [Server.fromSavepoint]
    cases hf₁ : k₁.failsNext with
    | true =>
      obtain ⟨e, k₂, hsend, h₂⟩ := h₁.send_fails (s := .transactionId) hf₁ (by simp)
      rw [hsend]
      exact ⟨hx, fun _ => h₂.ending_rollbackNested hset, by simp⟩
    | false =>
      have hexec := Server.execute_transactionId (k₁.server.noted .transactionId) h₁.transaction ha
      obtain ⟨k₂, hsend, -, h₂⟩ := h₁.send_executes hf₁ hexec
      have h₂ : k₂.At 2 [] _ := ⟨h₂.depth, h₂.queued, h₂.transaction.trans h₁.transaction⟩
      have hinside := h₂.ending_commitNested ha hset
      rw [hsend]
      dsimp only
      cases hend : k₂.ending Link.commitNested with
      | mk r k₃ =>
        rw [hend] at hinside
        cases r <;> exact ⟨hx, fun _ => hinside, by simp⟩

/-- What a session yields when it is asked for a lock. -/
theorem lock_yields {P Q : Link → Prop} (hx : x.finished = false) (h : Link.Yields P Q (x.link.run (.lock pair))) :
    (x.lock pair).2.finished = false ∧ P (x.lock pair).2.link ∧
      ((x.lock pair).1 = .ok () → Q (x.lock pair).2.link) := by
  unfold lock
  rw [if_neg (by simp [hx])]
  cases hrun : x.link.run (.lock pair) with
  | mk r k =>
    rw [hrun] at h
    cases h with
    | fails stays => exact ⟨hx, stays, by simp⟩
    | succeeds stays done => exact ⟨hx, stays, fun _ => done⟩

end Session

namespace State

/-- A session that has not been given away, with a link of a kind. -/
def Open (st : State) (s : SessionId) (P : Link → Prop) : Prop :=
  ∃ x, st.sessions.get? s = some x ∧ x.finished = false ∧ P x.link

/-- What may happen to sessions while one of them is owned by a handle: it may be asked for locks, and other sessions
for anything. -/
inductive Meanwhile (s : SessionId) : State → State → Prop
  | refl (st : State) : Meanwhile s st st
  | start {st st' : State} (h : Meanwhile s st st') (t : SessionId) (r : Request)
    (mine : t = s → ∃ pair, r = .lock pair) : Meanwhile s st (backend.start t r st').2
  | resume {st st' : State} (h : Meanwhile s st st') (t : SessionId) (r : Request) :
    Meanwhile s st (backend.resume t r st').2
  | abandon {st st' : State} (h : Meanwhile s st st') (t : SessionId) : Meanwhile s st (backend.abandon t st')
  | drop {st st' : State} (h : Meanwhile s st st') (t : SessionId) (other : t ≠ s) : Meanwhile s st (backend.drop t st')

variable {st st' : State} {s t : SessionId} {P Q : Link → Prop} {pair : HashPair}

theorem Open.mono (h : st.Open s P) (hPQ : ∀ k, P k → Q k) : st.Open s Q := by
  obtain ⟨x, hx, hopen, hP⟩ := h
  exact ⟨x, hx, hopen, hPQ _ hP⟩

/-- A request to one session leaves all others as they are. -/
theorem get?_start_of_ne (hts : t ≠ s) (r : Request) (st : State) :
    (st.start t r).2.sessions.get? s = st.sessions.get? s := by
  have honSession : ∀ {α : Type} (f : Session → Except DatabaseError α × Session),
      (st.onSession t f).2.sessions.get? s = st.sessions.get? s := by
    intro α f
    unfold onSession
    cases st.sessions.get? t with
    | none => rfl
    | some x => exact Keyed.get?_set_ne _ _ hts.symm
  cases r with
  | begin =>
    unfold start
    dsimp only
    cases Session.begin { failures := st.upcoming.headD [] } with
    | ok x => exact Keyed.get?_set_ne _ _ hts.symm
    | error e => rfl
  | transactionId => exact honSession _
  | lock pair => exact honSession _
  | commit => exact honSession _

/-- A session is asked for a lock. -/
theorem Open.lock (h : st.Open s P) (hyields : ∀ k, P k → Link.Yields P Q (k.run (.lock pair))) :
    (st.start s (.lock pair)).2.Open s P ∧
      ((st.start s (.lock pair)).1 = .ready (.ok ()) → (st.start s (.lock pair)).2.Open s fun k => P k ∧ Q k) := by
  obtain ⟨x, hx, hopen, hP⟩ := h
  obtain ⟨hopen', hP', hQ'⟩ := x.lock_yields hopen (hyields _ hP)
  have hstart : st.start s (.lock pair) =
      (.ready (x.lock pair).1, { st with sessions := st.sessions.set s (x.lock pair).2 }) := by
    simp [start, onSession, hx]
  rw [hstart]
  refine ⟨⟨_, Keyed.get?_set_self .., hopen', hP'⟩, ?_⟩
  intro hok
  exact ⟨_, Keyed.get?_set_self .., hopen', hP', hQ' (Poll.ready.inj hok)⟩

/-- What asking for locks keeps of a session, its owner can rely on whatever happens. -/
theorem Meanwhile.keeps (h : Meanwhile s st st') (hs : st.Open s P)
    (hyields : ∀ pair, ∃ Q, ∀ k, P k → Link.Yields P Q (k.run (.lock pair))) : st'.Open s P := by
  induction h with
  | refl => exact hs
  | @start st' h t r mine ih =>
    by_cases hts : t = s
    · obtain ⟨pair, rfl⟩ := mine hts
      obtain ⟨Q, hQ⟩ := hyields pair
      subst hts
      exact (ih.lock hQ).1
    · obtain ⟨x, hx, hopen, hP⟩ := ih
      exact ⟨x, (get?_start_of_ne hts r st').trans hx, hopen, hP⟩
  | resume _ _ _ ih => exact ih
  | abandon _ _ ih => exact ih
  | drop _ t other ih =>
    obtain ⟨x, hx, hopen, hP⟩ := ih
    exact ⟨x, (Keyed.get?_adjust_ne _ _ other.symm).trans hx, hopen, hP⟩

end State

/-! ## Handles -/

section Handles

variable {w w' : World State} {span : Option Log.Span} {key : LockKey} {h h' : LockHandle} {s : SessionId}
  {P Q : Link → Prop}

/-- A handle that was opened has begun a session and read its number. -/
theorem session_of_create (h : LockHandle.create backend span key w = (.finished (.ok h'), w')) :
    h'.session = some (w.begins + 1) ∧ h'.key = some key ∧
      ∃ x, Session.begin { failures := w.sessions.upcoming.headD [] } = .ok x ∧
        w'.sessions.sessions.get? (w.begins + 1) = some x.transactionId.2 := by
  have hopens := LockHandle.create_opens backend span key w
  rw [h] at hopens
  cases hopens with
  | opens hs hk =>
    refine ⟨hs, hk, ?_⟩
    have hcreate : LockHandle.create backend span key w =
        LockHandle.begin backend .first span key (w.begins + 1) w.number.2 := rfl
    rw [hcreate, LockHandle.begin] at h
    cases hbegin : Session.begin { failures := w.sessions.upcoming.headD [] } with
    | error e =>
      simp only [World.poll, World.number, backend, State.start, hbegin] at h
      cases h
    | ok x =>
      refine ⟨x, rfl, ?_⟩
      simp only [World.poll, World.number, backend, State.start, hbegin, LockHandle.identify, State.onSession,
        Keyed.get?_set_self] at h
      cases hnumber : x.transactionId.1 with
      | ok id =>
        rw [hnumber] at h
        cases h
        exact Keyed.get?_set_self ..
      | error e =>
        rw [hnumber] at h
        cases h
        exact Keyed.get?_set_self ..

/-- A handle that takes its lock has asked its session for it. -/
theorem open_of_acquire (hs : h.session = some s) (hk : h.key = some key) (hopen : w.sessions.Open s P)
    (hyields : ∀ k, P k → Link.Yields P Q (k.run (.lock key.hashes)))
    (hacquire : h.acquire backend .first span w = (.ready (.ok h'), w')) :
    w'.sessions.Open s fun k => P k ∧ Q k := by
  have hlock := hopen.lock hyields
  unfold LockHandle.acquire at hacquire
  rw [hs, hk] at hacquire
  have hpoll : (LockHandle.announce .first span key h.transactionId w).poll backend .first s (.lock key.hashes) =
      ((w.sessions.start s (.lock key.hashes)).1,
        { LockHandle.announce .first span key h.transactionId w with
          sessions := (w.sessions.start s (.lock key.hashes)).2
          traffic := w.traffic ++ [.asked s (.lock key.hashes)] }) := rfl
  dsimp only at hacquire
  rw [hpoll] at hacquire
  cases hanswer : (w.sessions.start s (.lock key.hashes)).1 with
  | pending => simp [hanswer] at hacquire
  | ready answer =>
    cases answer with
    | error e => simp [hanswer] at hacquire
    | ok u =>
      rw [hanswer] at hacquire
      cases hacquire
      exact hlock.2 hanswer

/-- A handle that was opened and has taken its lock, with whatever happened to the sessions in between. When the
statement after the beginning of the transaction could be carried out, which sets the savepoint, the lock was taken in
that transaction, which stays open until the handle is released or dropped. When that statement failed, the lock was
taken outside of any transaction, and is gone. No other failure matters. -/
theorem lock_inside_unless_savepoint_fails {w w₁ w₂ : World State} {span span' : Option Log.Span} {key : LockKey}
    {h h' : LockHandle} {st : State} (created : LockHandle.create backend span key w = (.finished (.ok h), w₁))
    (meanwhile : State.Meanwhile (w.begins + 1) w₁.sessions st)
    (acquired : h.acquire backend .first span' { w₁ with sessions := st } = (.ready (.ok h'), w₂)) :
    ∃ x t, Session.begin { failures := w.sessions.upcoming.headD [] } = .ok x ∧ x.link.At 1 [] (some t) ∧
      (x.link.failsNext = false → w₂.sessions.Open (w.begins + 1) (Link.Holds t.number key.hashes) ∧
        ∀ st', State.Meanwhile (w.begins + 1) w₂.sessions st' → st'.Open (w.begins + 1) fun k =>
          ∃ t', k.server.transaction = some t' ∧ t'.number = t.number) ∧
      (x.link.failsNext = true → w₂.sessions.Open (w.begins + 1) (Link.Misses key.hashes)) := by
  obtain ⟨hs, hk, x, hbegin, hx⟩ := session_of_create created
  obtain ⟨hopen, hat⟩ := Session.begin_stands hbegin
  obtain ⟨hopen', hinside, hastray⟩ := Session.transactionId_stands hopen hat rfl
  refine ⟨x, { number := 1 }, hbegin, hat, ?_, ?_⟩
  · intro hf
    have hyields : ∀ pair, ∃ Q, ∀ k, Link.Inside 1 k → Link.Yields (Link.Inside 1) Q (k.run (.lock pair)) :=
      fun pair => ⟨_, fun k hk => hk.lock pair⟩
    -- the link is inside before, at and after the taking of the lock
    have hbefore : st.Open (w.begins + 1) (Link.Inside 1) := meanwhile.keeps ⟨_, hx, hopen', hinside hf⟩ hyields
    have hafter := open_of_acquire hs hk hbefore (fun k hk => hk.lock key.hashes) acquired
    refine ⟨hafter.mono fun k hk => hk.2, ?_⟩
    intro st' hlater
    have hstill := hlater.keeps (hafter.mono fun k hk => hk.1) hyields
    refine hstill.mono fun k hk => ?_
    cases hk with
    | rests stands number => exact ⟨_, stands.transaction, number⟩
    | returns stands number => exact ⟨_, stands.transaction, number⟩
  · intro hf
    have hbefore : st.Open (w.begins + 1) Link.Astray :=
      meanwhile.keeps ⟨_, hx, hopen', hastray hf⟩ fun pair => ⟨_, fun k hk => hk.lock pair⟩
    have hafter := open_of_acquire hs hk hbefore (fun k hk => hk.lock key.hashes) acquired
    exact hafter.mono fun k hk => hk.2

end Handles

/-- A world whose first connection meets these failures, statement by statement. -/
def failingAt (failures : List (Option String)) : World State := { sessions := { upcoming := [failures] } }

/-- A key to ask for. -/
def herd : LockKey := { resourceId := "herd", lockClass := .dinosaurs }

/-- The statement that reads the number is canceled. -/
def unreadNumber : World State := failingAt [none, none, some "canceling statement"]

/-- The number cannot be read, and the lock is taken in the transaction all the same. -/
theorem lock_inside_despite_unread_number :
    ∃ h w₁ h' w₂, LockHandle.create backend none herd unreadNumber = (.finished (.ok h), w₁) ∧
      h.acquire backend .first none w₁ = (.ready (.ok h'), w₂) ∧ w₂.sessions.Open 1 (Link.Holds 1 herd.hashes) := by
  obtain ⟨h, w₁, h', w₂, created, acquired⟩ : ∃ h w₁ h' w₂,
      LockHandle.create backend none herd unreadNumber = (.finished (.ok h), w₁) ∧
        h.acquire backend .first none w₁ = (.ready (.ok h'), w₂) := ⟨_, _, _, _, rfl, rfl⟩
  obtain ⟨x, t, hbegin, hat, hinside, -⟩ := lock_inside_unless_savepoint_fails created (.refl _) acquired
  have hfirst : Session.begin { failures := unreadNumber.sessions.upcoming.headD [] } =
      .ok { link := {
        server := { started := 1, transaction := some { number := 1 }, history := [(.begin, none)] }
        depth := 1
        failures := [none, some "canceling statement"] } } := rfl
  rw [hfirst] at hbegin
  cases hbegin
  cases hat.transaction
  exact ⟨h, w₁, h', w₂, created, acquired, (hinside rfl).1⟩

/-- The savepoint cannot be set. The lock is reported as taken, and was taken outside of any transaction. -/
theorem lock_outside_after_failed_savepoint :
    ∃ h w₁ h' w₂ x,
      LockHandle.create backend none herd (failingAt [none, some "out of memory"]) = (.finished (.ok h), w₁) ∧
      h.acquire backend .first none w₁ = (.ready (.ok h'), w₂) ∧ w₂.sessions.sessions.get? 1 = some x ∧
      x.link.server.transaction = none ∧
      x.link.server.history =
        [(.begin, none), (.savepoint 1, some 1), (.rollback, some 1), (.lock herd.hashes, none)] :=
  ⟨_, _, _, _, _, rfl, rfl, rfl, rfl, rfl⟩

end Postgres

end NamedLock
