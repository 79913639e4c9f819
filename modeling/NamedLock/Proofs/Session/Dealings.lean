import NamedLock.Proofs.Ensemble.Failure

/-!
# Dealings — how a session is used

A session is used by its owner, one request at a time, while other sessions and the world outside go on. `Dealings`
says how it can be used, from its beginning on, and whether a commit has been answered yet. The closing rule of a
backend: once a commit has been answered, with success or not, every request is refused at once and changes nothing;
before that no request is refused for this reason.

A backend obeys the rule when it marks every session as finished with the answer to its first commit, and looks at the
mark before anything else (`Marks`). One backend keeps a flag beside the locks, the other one gives its transaction
away.
-/

namespace NamedLock

/-! ## Dealings with a session -/

/-- The answer to a request once the transaction has ended. A beginning is not asked of a transaction. -/
def Request.finished? : (r : Request) → Option r.Answer
  | .begin => none
  | .transactionId => some (.error .transactionFinished)
  | .lock _ => some (.error .transactionFinished)
  | .commit => some (.error .transactionFinished)

/-- What waits before it is looked at: nothing the first time. -/
def Turn.waiting {α : Type} (turn : Turn) (a : α) : Option α :=
  match turn with
  | .first => none
  | .later => some a

namespace Backend

variable {σ : Type}

/-- What happens apart from a session: requests of other sessions, their end, and what comes from outside. -/
inductive Elsewhere (b : Backend σ) (outside : σ → σ → Prop) (s : SessionId) : σ → σ → Prop
  | answers {t : SessionId} (ht : t ≠ s) (turn : Turn) (r : Request) (st : σ) :
    Elsewhere b outside s st (b.answer turn t r st).2
  | abandons {t : SessionId} (ht : t ≠ s) (st : σ) : Elsewhere b outside s st (b.abandon t st)
  | drops {t : SessionId} (ht : t ≠ s) (st : σ) : Elsewhere b outside s st (b.drop t st)
  | intrudes {st st' : σ} (h : outside st st') : Elsewhere b outside s st st'

/-- What a state can come to, with anything that happens apart from a session or to it, but for a new beginning. -/
inductive GoesOn (b : Backend σ) (outside : σ → σ → Prop) (s : SessionId) (st : σ) : σ → Prop
  | refl : GoesOn b outside s st st
  | elsewhere {st₁ st₂ : σ} (before : GoesOn b outside s st st₁) (h : b.Elsewhere outside s st₁ st₂) :
    GoesOn b outside s st st₂
  | answers {st₁ : σ} (before : GoesOn b outside s st st₁) (turn : Turn) {r : Request} (hr : r ≠ .begin) :
    GoesOn b outside s st (b.answer turn s r st₁).2
  | abandons {st₁ : σ} (before : GoesOn b outside s st st₁) : GoesOn b outside s st (b.abandon s st₁)
  | drops {st₁ : σ} (before : GoesOn b outside s st st₁) : GoesOn b outside s st (b.drop s st₁)

/-- How a session is used from its beginning on: the request that waits, whether a commit has been answered, and the
state that was reached. -/
inductive Dealings (b : Backend σ) (outside : σ → σ → Prop) (s : SessionId) : Option Request → Bool → σ → Prop
  | begun {turn : Turn} {st st' : σ} (answer : b.answer turn s .begin st = (.ready (.ok ()), st')) :
    Dealings b outside s none false st'
  | waits {turn : Turn} {r : Request} {closed : Bool} {st st' : σ} (before : Dealings b outside s (turn.waiting r) closed st)
    (hr : r ≠ .begin) (answer : b.answer turn s r st = (.pending, st')) : Dealings b outside s (some r) closed st'
  | answered {turn : Turn} {r : Request} {closed : Bool} {st st' : σ} {a : r.Answer}
    (before : Dealings b outside s (turn.waiting r) closed st) (hr : r ≠ .begin)
    (answer : b.answer turn s r st = (.ready a, st')) : Dealings b outside s none (closed || decide (r = .commit)) st'
  /-- The owner does not wait for the answer any longer. -/
  | givenUp {r : Request} {closed : Bool} {st : σ} (before : Dealings b outside s (some r) closed st) :
    Dealings b outside s none closed (b.abandon s st)
  | meanwhile {p : Option Request} {closed : Bool} {st st' : σ} (before : Dealings b outside s p closed st)
    (h : b.Elsewhere outside s st st') : Dealings b outside s p closed st'

/-- What becomes of requests before and after the first commit that is answered. -/
structure ClosingRule (b : Backend σ) (outside : σ → σ → Prop) : Prop where
  /-- A commit does not wait. -/
  commits : ∀ {s closed st}, b.Dealings outside s none closed st → ∃ a st', b.start s .commit st = (.ready a, st')
  /-- After a commit nothing waits, and every request is refused without effect. -/
  closed : ∀ {s p st}, b.Dealings outside s p true st →
    p = none ∧ ∀ r a, r.finished? = some a → b.start s r st = (.ready a, st)
  /-- Without one no request is refused as if there had been one. -/
  unclosed : ∀ {s turn r st}, b.Dealings outside s (turn.waiting r) false st →
    ∀ a, r.finished? = some a → (b.answer turn s r st).1 ≠ .ready a

/-! ## Backends that mark sessions -/

/-- A mark on sessions that are there: whether they are finished. It is set by the commit and by nothing else, and
looked at by every request. -/
structure Marks (b : Backend σ) (outside : σ → σ → Prop) (mark : SessionId → σ → Option Bool) : Prop where
  begun : ∀ turn s st st', b.answer turn s .begin st = (.ready (.ok ()), st') → mark s st' = some false
  finished : ∀ s st, mark s st = some true → ∀ r a, r.finished? = some a → b.start s r st = (.ready a, st)
  unfinished : ∀ turn s st, mark s st = some false → ∀ r a, r.finished? = some a → (b.answer turn s r st).1 ≠ .ready a
  commit : ∀ s st m, mark s st = some m → ∃ a st', b.start s .commit st = (.ready a, st') ∧ mark s st' = some true
  rest : ∀ turn s r st, r ≠ .begin → r ≠ .commit → mark s (b.answer turn s r st).2 = mark s st
  abandon : ∀ s st, mark s (b.abandon s st) = mark s st
  elsewhere : ∀ s st st', b.Elsewhere outside s st st' → mark s st' = mark s st

namespace Marks

variable {b : Backend σ} {outside : σ → σ → Prop} {mark : SessionId → σ → Option Bool} {s : SessionId}
  {p : Option Request} {closed : Bool} {st : σ}

/-- A commit that did not wait before is answered, and the session is marked. -/
theorem commit_answered (h : b.Marks outside mark) {m : Bool} (hmark : mark s st = some m) {turn : Turn}
    (hwait : turn.waiting Request.commit ≠ some .commit) {q : Poll (Except DatabaseError Unit)} {st' : σ}
    (answer : b.answer turn s .commit st = (q, st')) : q ≠ .pending ∧ mark s st' = some true := by
  cases turn with
  | first =>
    obtain ⟨a, st₁, hstart, hmarked⟩ := h.commit s st m hmark
    have hboth : b.start s .commit st = (q, st') := answer
    rw [hstart] at hboth
    cases hboth
    exact ⟨by simp, hmarked⟩
  | later => exact absurd rfl hwait

/-- Nothing waits on a session that is marked: it refuses at once. -/
theorem not_pending (h : b.Marks outside mark) (hmark : mark s st = some true) {turn : Turn} {r : Request}
    (hidle : turn.waiting r = none) (hr : r ≠ .begin) (st' : σ) : b.answer turn s r st ≠ (.pending, st') := by
  obtain ⟨a, ha⟩ : ∃ a, r.finished? = some a := by
    cases r with
    | begin => exact absurd rfl hr
    | _ => exact ⟨_, rfl⟩
  intro answer
  cases turn with
  | first =>
    have hboth : b.start s r st = (.pending, st') := answer
    rw [h.finished s st hmark r a ha] at hboth
    cases hboth
  | later => cases hidle

/-- The mark tells whether a commit has been answered; no commit waits, and nothing does after a commit. -/
theorem mark_eq (h : b.Marks outside mark) (d : b.Dealings outside s p closed st) :
    mark s st = some closed ∧ p ≠ some .commit ∧ (closed = true → p = none) := by
  induction d with
  | begun answer => exact ⟨h.begun _ _ _ _ answer, by simp, by simp⟩
  | @waits turn r closed st st' _ hr answer ih =>
    obtain ⟨hmark, hwait, hidle⟩ := ih
    have hcommit : r ≠ .commit := by
      rintro rfl
      exact (h.commit_answered hmark hwait answer).1 rfl
    have hrest := h.rest turn s r st hr hcommit
    rw [answer] at hrest
    refine ⟨hrest.trans hmark, by simpa using hcommit, fun hclosed => ?_⟩
    subst hclosed
    exact absurd answer (h.not_pending hmark (hidle rfl) hr st')
  | @answered turn r closed st st' a _ hr answer ih =>
    obtain ⟨hmark, hwait, -⟩ := ih
    refine ⟨?_, by simp, fun _ => rfl⟩
    by_cases hcommit : r = .commit
    · subst hcommit
      simpa using (h.commit_answered hmark hwait answer).2
    · -- only a commit sets the mark
      have hrest := h.rest turn s r st hr hcommit
      rw [answer] at hrest
      simpa [hcommit] using hrest.trans hmark
  | givenUp _ ih => exact ⟨(h.abandon _ _).trans ih.1, by simp, fun _ => rfl⟩
  | meanwhile _ helse ih => exact ⟨(h.elsewhere _ _ _ helse).trans ih.1, ih.2⟩

/-- A backend that marks its sessions obeys the closing rule. -/
theorem closingRule (h : b.Marks outside mark) : b.ClosingRule outside where
  commits d := by
    obtain ⟨a, st', hstart, -⟩ := h.commit _ _ _ (h.mark_eq d).1
    exact ⟨a, st', hstart⟩
  closed d := by
    obtain ⟨hmark, -, hidle⟩ := h.mark_eq d
    exact ⟨hidle rfl, h.finished _ _ hmark⟩
  unclosed d := h.unfinished _ _ _ (h.mark_eq d).1 _

end Marks

end Backend

end NamedLock
