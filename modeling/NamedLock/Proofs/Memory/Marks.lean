import NamedLock.Proofs.Memory.Roster
import NamedLock.Proofs.Session.Dealings

/-!
# Marks — finished sessions in memory

A session in memory keeps a flag that its commit sets. Nobody else touches it: what other sessions do, and what comes
from outside, leaves a session as its owner sees it.
-/

namespace NamedLock

namespace Memory

/-- What comes from outside: a switch is flipped, or someone asks whether a pair is held. -/
inductive Outside : State → State → Prop
  | switches (st : State) (sw : Switch) : Outside st (st.switch sw)
  | probes (st : State) (pair : HashPair) : Outside st (st.probe pair).2

/-- What requests for pairs leave of a session as it is: its number, and whether it is finished. -/
def Session.card (x : Session) : Int × Bool := (x.transactionId, x.finished)

namespace State

variable {st st' : State} {s t : SessionId}

/-- The card of a session that is there. -/
def card? (s : SessionId) (st : State) : Option (Int × Bool) := (st.sessions.get? s).map Session.card

theorem card?_eq (s : SessionId) (st : State) : st.card? s = (st.outline s).map Session.card := by
  simp only [card?, outline, Option.map_map]
  rfl

/-- Whether a session that is there is finished. -/
def finished? (s : SessionId) (st : State) : Option Bool := (st.sessions.get? s).map (·.finished)

theorem finished?_eq (s : SessionId) (st : State) : st.finished? s = (st.outline s).map (·.finished) := by
  simp only [finished?, outline, Option.map_map]
  rfl

theorem finished?_eq_card (s : SessionId) (st : State) : st.finished? s = (st.card? s).map Prod.snd := by
  simp only [finished?, card?, Option.map_map]
  rfl

/-- A session that is finished, or gone, gets no further than the look at its mark. -/
theorem openSession?_eq_none (h : st.finished? s ≠ some false) : st.openSession? s = none := by
  unfold finished? at h
  unfold openSession?
  cases hx : st.sessions.get? s with
  | none => rfl
  | some x => cases hf : x.finished <;> simp [hx, hf] at h ⊢

theorem openSession?_eq_some (h : st.finished? s = some false) : ∃ x, st.openSession? s = some x := by
  obtain ⟨x, hx, hf⟩ := Option.map_eq_some_iff.1 h
  exact ⟨x, openSession?_eq_some_iff.2 ⟨hx, hf⟩⟩

theorem card?_adjust (st : State) {f : Session → Session} (hf : ∀ x, (f x).card = x.card) :
    (st.adjust s f).card? t = st.card? t := by
  simp only [card?, get?_adjust]
  split
  next => simp [Option.map_map, Function.comp_def, hf]
  next => rfl

/-! ## Requests for a pair -/

/-- Asking for a pair changes nothing, or one gate and the session that asks, which keeps its card. -/
theorem lock_changes (st : State) (s : SessionId) (pair : HashPair) :
    (st.lock s pair).2 = st ∨ ∃ g y f, (∀ x : Session, (f x).card = x.card) ∧
      (st.lock s pair).2 = ((st.slot pair).2.setGate g y).adjust s f := by
  unfold lock
  split
  next => exact .inl rfl
  next x _ =>
    split
    next => exact .inl rfl
    next =>
      split
      next => exact .inl rfl
      next =>
        generalize st.slot pair = r
        obtain ⟨g, st₁⟩ := r
        dsimp only
        right
        -- the session takes the permit, or stands in the queue for it
        by_cases hfree : (st₁.gate g).free = true
        · rw [show st₁.tryTake g = (true, _) from if_pos hfree]
          refine ⟨_, _, _, ?_, rfl⟩
          exact fun _ => rfl
        · rw [show st₁.tryTake g = (false, st₁) from if_neg hfree]
          refine ⟨_, _, _, ?_, rfl⟩
          exact fun _ => rfl

/-- Looking again changes nothing, or the session that looks. -/
theorem lockAgain_changes (st : State) (s : SessionId) :
    (st.lockAgain s).2 = st ∨ ∃ f, (∀ x : Session, (f x).card = x.card) ∧ (st.lockAgain s).2 = st.adjust s f := by
  unfold lockAgain
  split
  next =>
    split
    next =>
      refine .inr ⟨_, ?_, rfl⟩
      exact fun _ => rfl
    next => exact .inl rfl
  next => exact .inl rfl

/-- An unfinished session is not told that it is finished when it asks for a pair. -/
theorem lock_ne_finished (h : st.finished? s = some false) (pair : HashPair) :
    (st.lock s pair).1 ≠ .ready (.error .transactionFinished) := by
  obtain ⟨x, hx⟩ := openSession?_eq_some h
  unfold lock
  rw [hx]
  dsimp only
  split
  next => simp [connectionError, DatabaseError.transactionFinished]
  next =>
    split
    next => simp
    next => split <;> simp

theorem lockAgain_ne_error (st : State) (s : SessionId) (e : DatabaseError) :
    (st.lockAgain s).1 ≠ .ready (.error e) := by
  unfold lockAgain
  split
  next => split <;> simp
  next => simp

/-! ## What other sessions do -/

section OfNe

variable (ht : t ≠ s) (st : State)

include ht

theorem outline_adjust_of_ne (f : Session → Session) : (st.adjust t f).outline s = st.outline s := by
  rw [outline_adjust, if_neg ht.symm]

theorem outline_begin_of_ne : (st.begin t).2.outline s = st.outline s := by
  unfold begin
  split
  next => rfl
  next => simp [outline, Keyed.get?_set, ht.symm]

theorem outline_lock_of_ne (pair : HashPair) : (st.lock t pair).2.outline s = st.outline s := by
  rcases lock_changes st t pair with hsame | ⟨g, y, f, -, hnew⟩
  · rw [hsame]
  · rw [hnew, outline_adjust_of_ne ht, outline_setGate, outline_slot]

theorem outline_lockAgain_of_ne : (st.lockAgain t).2.outline s = st.outline s := by
  rcases lockAgain_changes st t with hsame | ⟨f, -, hnew⟩
  · rw [hsame]
  · rw [hnew, outline_adjust_of_ne ht]

theorem outline_commit_of_ne : (st.commit t).2.outline s = st.outline s := by
  unfold commit
  split
  next => rfl
  next =>
    have hdone : ((st.adjust t fun x => { x with finished := true }).releaseAll t).outline s = st.outline s := by
      rw [outline_releaseAll, if_neg ht.symm, outline_adjust_of_ne ht]
    dsimp only
    split
    next => exact hdone
    next => exact hdone

theorem outline_drop_of_ne : (st.drop t).outline s = st.outline s := by
  have hdone : ((st.abandon t).releaseAll t).outline s = st.outline s := by
    rw [outline_releaseAll, if_neg ht.symm, outline_abandon, if_neg ht.symm]
  rw [← hdone]
  simp [drop, outline, Keyed.get?_erase, ht.symm]

theorem outline_answer_of_ne (turn : Turn) (r : Request) :
    (backend.answer turn t r st).2.outline s = st.outline s := by
  cases turn with
  | first =>
    cases r with
    | begin => exact outline_begin_of_ne ht st
    | transactionId => rfl
    | lock pair => exact outline_lock_of_ne ht st pair
    | commit => exact outline_commit_of_ne ht st
  | later =>
    cases r with
    | lock _ => exact outline_lockAgain_of_ne ht st
    | _ => rfl

end OfNe

theorem outline_probe (st : State) (pair : HashPair) : (st.probe pair).2.outline s = st.outline s := by
  unfold probe tryTake
  split
  next => rfl
  next g _ =>
    split
    next hfree =>
      split at hfree
      next =>
        cases hfree
        rw [outline_release, outline_setGate]
      next => cases hfree
    next hfree =>
      split at hfree
      next => cases hfree
      next =>
        cases hfree
        rfl

/-- For its owner a session is not changed by what happens elsewhere. -/
theorem outline_elsewhere (h : backend.Elsewhere Outside s st st') : st'.outline s = st.outline s := by
  cases h with
  | answers ht turn r => exact outline_answer_of_ne ht st turn r
  | abandons ht =>
    refine (outline_abandon st _ s).trans ?_
    rw [if_neg ht.symm]
  | drops ht => exact outline_drop_of_ne ht st
  | intrudes h =>
    cases h with
    | switches sw => cases sw <;> rfl
    | probes pair => exact outline_probe st pair

/-! ## The mark -/

/-- Only a beginning and a commit change the card of a session. -/
theorem card?_answer (turn : Turn) (s : SessionId) (r : Request) (st : State) (hb : r ≠ .begin) (hc : r ≠ .commit) :
    (backend.answer turn s r st).2.card? t = st.card? t := by
  cases r with
  | begin => exact absurd rfl hb
  | commit => exact absurd rfl hc
  | transactionId => cases turn <;> rfl
  | lock pair =>
    cases turn with
    | first =>
      change (st.lock s pair).2.card? t = st.card? t
      rcases lock_changes st s pair with hsame | ⟨g, y, f, hf, hnew⟩
      · rw [hsame]
      · rw [hnew, card?_adjust _ hf, card?_eq, card?_eq, outline_setGate, outline_slot]
    | later =>
      change (st.lockAgain s).2.card? t = st.card? t
      rcases lockAgain_changes st s with hsame | ⟨f, hf, hnew⟩
      · rw [hsame]
      · rw [hnew, card?_adjust _ hf]

theorem card?_abandon (st : State) (s : SessionId) : (st.abandon s).card? t = st.card? t := by
  rw [card?_eq, card?_eq, outline_abandon]
  split
  next =>
    rw [Option.map_map]
    rfl
  next => rfl

/-- A session that is opened gets the next number. -/
theorem card?_begin (h : st.failNextBegin = false) :
    (st.begin s).2.card? t = if t = s then some (st.lastTransactionId + 1, false) else st.card? t := by
  have hbegin : (st.begin s).2.sessions = st.sessions.set s { transactionId := st.lastTransactionId + 1 } := by
    simp [begin, h]
  rw [card?, hbegin, Keyed.get?_set]
  split
  next => rfl
  next => rfl

/-- The commit of an open session finishes it, whatever it is answered. -/
theorem card?_commit {x : Session} (h : st.openSession? s = some x) :
    (st.commit s).2.card? t = if t = s then some (x.transactionId, true) else st.card? t := by
  split
  next hts =>
    subst hts
    obtain ⟨hget, -⟩ := openSession?_eq_some_iff.1 h
    have hdone : ((st.adjust t fun x => { x with finished := true }).releaseAll t).card? t =
        some (x.transactionId, true) := by
      rw [card?_eq, outline_releaseAll, if_pos rfl, outline_adjust, if_pos rfl, hget]
      rfl
    unfold commit
    rw [h]
    dsimp only
    split
    next => exact hdone
    next => exact hdone
  next hts => rw [card?_eq, outline_commit_of_ne (Ne.symm hts), ← card?_eq]

theorem card?_drop : (st.drop s).card? t = if t = s then none else st.card? t := by
  split
  next hts => simp [card?, drop, hts]
  next hts => rw [card?_eq, outline_drop_of_ne (Ne.symm hts), ← card?_eq]

theorem finished?_answer (turn : Turn) (s : SessionId) (r : Request) (st : State) (hb : r ≠ .begin) (hc : r ≠ .commit) :
    (backend.answer turn s r st).2.finished? s = st.finished? s := by
  rw [finished?_eq_card, finished?_eq_card, card?_answer turn s r st hb hc]

/-- A session is finished with the answer to its commit, whatever this is. -/
theorem finished?_commit {m : Bool} (h : st.finished? s = some m) : (st.commit s).2.finished? s = some true := by
  cases m with
  | true =>
    have hclosed : st.openSession? s = none := openSession?_eq_none (by simp [h])
    simp only [commit, hclosed, h]
  | false =>
    obtain ⟨x, hx⟩ := openSession?_eq_some h
    rw [finished?_eq_card, card?_commit hx, if_pos rfl]
    rfl

end State

open State in
/-- Sessions in memory are marked by their flag. -/
theorem backend_marks : backend.Marks Outside State.finished? where
  begun turn s st st' h := by
    cases turn with
    | later => cases h
    | first =>
      have hbegin : (st.begin s) = (.ok (), st') := by
        cases hr : st.begin s with
        | mk a st₁ =>
          have hstart : backend.answer .first s .begin st = (.ready a, st₁) := by
            simp only [Backend.answer, backend, State.start, hr]
          rw [hstart] at h
          cases h
          rfl
      unfold State.begin at hbegin
      split at hbegin
      next => cases hbegin
      next =>
        cases hbegin
        simp [finished?]
  finished s st h r a ha := by
    have hclosed : st.openSession? s = none := openSession?_eq_none (by simp [h])
    cases r <;> cases ha <;> simp [backend, State.start, State.transactionId, State.lock, State.commit, hclosed]
  unfinished turn s st h r a ha := by
    obtain ⟨x, hx⟩ := openSession?_eq_some h
    cases turn with
    | later =>
      cases r with
      | lock pair =>
        cases ha
        exact lockAgain_ne_error st s _
      | _ => simp [Backend.answer, backend, State.resume]
    | first =>
      cases r with
      | begin => cases ha
      | transactionId =>
        cases ha
        simp [Backend.answer, backend, State.start, State.transactionId, hx]
      | lock pair =>
        cases ha
        exact lock_ne_finished h pair
      | commit =>
        cases ha
        simp only [Backend.answer, backend, State.start, State.commit, hx]
        split <;> simp [connectionError, DatabaseError.transactionFinished]
  commit s st m h := ⟨_, _, rfl, finished?_commit h⟩
  rest turn s r st := finished?_answer turn s r st
  abandon s st := by
    change (st.abandon s).finished? s = st.finished? s
    rw [finished?_eq_card, finished?_eq_card, card?_abandon]
  elsewhere s st st' h := by rw [finished?_eq, finished?_eq, outline_elsewhere h]

end Memory

end NamedLock
