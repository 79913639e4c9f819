import NamedLock.Proofs.Ensemble.Filing
import NamedLock.Proofs.Memory.Roster

/-!
# Custody — a world whose sessions are all accounted for

`Kept` extends what `Keeps` says of the sessions to the world around them: numbers of sessions to come are not taken,
and no handle was pushed out of a table. What is asked of a session through the world changes the line of its owner,
as it does below; handles and registries pass lines on.
-/

namespace NamedLock

namespace Memory

open Function (update)

variable {ι : Type}

/-- The roster is right for the sessions of a world. -/
structure Kept (w : World State) (R : Roster ι) : Prop where
  keeps : w.sessions.Keeps R
  bounded : ∀ p s d, R p = some (s, d) → s ≤ w.begins
  undisturbed : ∀ e ∈ w.log, e.message ≠ Registry.displacedMessage

namespace Kept

variable {w : World State} {R : Roster ι} {p q : ι} {s : SessionId} {d d' : Standing} {pair : HashPair}

/-- Nothing that a roster is about changes. -/
theorem congr (h : Kept w R) {w' : World State} (sessions : w'.sessions = w.sessions) (begins : w'.begins = w.begins)
    (log : w'.log = w.log) : Kept w' R where
  keeps := sessions ▸ h.keeps
  bounded := begins ▸ h.bounded
  undisturbed := log ▸ h.undisturbed

theorem tell (h : Kept w R) {e : Log.Event} (he : e.message ≠ Registry.displacedMessage) : Kept (w.tell e) R where
  keeps := h.keeps
  bounded := h.bounded
  undisturbed e' he' := by
    rcases List.mem_append.1 he' with he' | he'
    · exact h.undisturbed e' he'
    · rw [List.mem_singleton.1 he']
      exact he

theorem record (h : Kept w R) (m : Metrics.Recording) : Kept (w.record m) R := h.congr rfl rfl rfl

/-- The number of the next session is not taken. -/
theorem next (h : Kept w R) : w.sessions.outline (w.begins + 1) = none := by
  by_contra hn
  obtain ⟨p, d, hp⟩ := h.keeps.listed _ hn
  exact Nat.not_succ_le_self _ (h.bounded _ _ _ hp)

variable [DecidableEq ι]

/-- A line changes, or is new, or goes, and so do the sessions. -/
theorem change (h : Kept w R) {w' : World State} {line : Option (SessionId × Standing)}
    (keeps : w'.sessions.Keeps (update R p line)) (bounded : ∀ s d, line = some (s, d) → s ≤ w'.begins)
    (begins : w.begins ≤ w'.begins) (log : w'.log = w.log) : Kept w' (update R p line) where
  keeps := keeps
  bounded q s d hq := by
    rw [Function.update_apply] at hq
    split at hq
    next => exact bounded s d hq
    next => exact Nat.le_trans (h.bounded q s d hq) begins
  undisturbed := log ▸ h.undisturbed

/-- A line of a session that was listed changes. -/
theorem revise (h : Kept w R) (hp : R p = some (s, d)) {w' : World State}
    (keeps : w'.sessions.Keeps (update R p (some (s, d')))) (begins : w'.begins = w.begins) (log : w'.log = w.log) :
    Kept w' (update R p (some (s, d'))) := by
  refine h.change keeps ?_ (Nat.le_of_eq begins.symm) log
  rintro _ _ ⟨⟩
  exact begins ▸ h.bounded p s d hp

/-- An owner forgets part of what it knows. -/
theorem forget (h : Kept w R) (hp : R p = some (s, d)) (hd : ∀ x, d.Of x → d'.Of x) :
    Kept w (update R p (some (s, d'))) := by
  obtain ⟨x, hx, hof⟩ := h.keeps.stands p s d hp
  exact h.revise hp (h.keeps.change hp h.keeps.balanced (fun _ _ => rfl) ⟨x, hx, hd x hof⟩) rfl rfl

/-- An owner forgets all that it knows of a session that does not wait. -/
theorem loosen (h : Kept w (update R p (some (s, d)))) (hd : d.awaits = none) :
    Kept w (update R p (some (s, { unfinished := false }))) := by
  have hloose : ∀ x, d.Of x → Standing.Of { unfinished := false } x :=
    fun x hx => ⟨hd ▸ hx.awaits, by simp, by simp, by simp⟩
  have hforget := h.forget (Function.update_self ..) hloose
  rwa [Function.update_idem] at hforget

/-- A session goes over to another owner. -/
theorem move (h : Kept w R) (hp : R p = some (s, d)) (hq : R q = none) :
    Kept w (update (update R p none) q (some (s, d))) where
  keeps := h.keeps.move hp hq
  bounded r t e hr := by
    rw [Function.update_apply, Function.update_apply] at hr
    split at hr
    next =>
      cases hr
      exact h.bounded p s d hp
    next =>
      split at hr
      next => cases hr
      next => exact h.bounded r t e hr
  undisturbed := h.undisturbed

/-- A session that no other line has comes to a place of its own. -/
theorem land {o : ι} (h : Kept w (update R o (some (s, d)))) (ho : R o = none) (hq : R q = none) :
    Kept w (update R q (some (s, d))) := by
  -- the session is moved from its old place, unless it stays there
  by_cases hqo : q = o
  · exact hqo ▸ h
  · have hfree : update R o (some (s, d)) q = none := by rw [Function.update_of_ne hqo, hq]
    have hmove := h.move (Function.update_self ..) hfree
    have hback : update R o none = R := by
      rw [Function.update_eq_self_iff]
      exact ho.symm
    rwa [Function.update_idem, hback] at hmove

/-! ## Requests through the world -/

/-- A session is asked to begin: this fails, or the session is entered. -/
theorem begin (h : Kept w R) (hp : R p = none) :
    (∃ e w', w.number.2.poll backend .first (w.begins + 1) .begin = (.ready (.error (.session e)), w') ∧ Kept w' R) ∨
      ∃ w', w.number.2.poll backend .first (w.begins + 1) .begin = (.ready (.ok ()), w') ∧
        Kept w' (update R p (some (w.begins + 1, {}))) := by
  have hbegin := h.keeps.begin hp h.next
  rcases hst : w.sessions.begin (w.begins + 1) with ⟨answer, st⟩
  rw [hst] at hbegin
  have hpoll : w.number.2.poll backend .first (w.begins + 1) .begin =
      (.ready answer, { w.number.2 with sessions := st, traffic := w.traffic ++ [.asked (w.begins + 1) .begin] }) := by
    simp [World.poll, World.number, backend, State.start, hst]
  rw [hpoll]
  rcases hbegin with ⟨e, rfl, hkeeps⟩ | ⟨rfl, hkeeps⟩
  · exact .inl ⟨e, _, rfl, hkeeps, fun p s d hp => Nat.le_succ_of_le (h.bounded p s d hp), h.undisturbed⟩
  · refine .inr ⟨_, rfl, h.change hkeeps ?_ (Nat.le_succ _) rfl⟩
    rintro _ _ ⟨⟩
    exact Nat.le_refl _

omit [DecidableEq ι] in
/-- A session is asked for its number, and answers at once. -/
theorem identify (h : Kept w R) (s : SessionId) :
    ∃ answer w', w.poll backend .first s .transactionId = (.ready answer, w') ∧ Kept w' R :=
  ⟨_, _, rfl, h.congr rfl rfl rfl⟩

/-- A session that does not wait is asked for a pair. -/
theorem lock (h : Kept w R) (hp : R p = some (s, d)) (hd : d.awaits = none)
    (hfresh : d.unfinished = true → d.holds = none) (pair : HashPair) :
    (∃ e w', w.poll backend .first s (.lock pair) = (.ready (.error e), w') ∧ Kept w' R) ∨
      (∃ w', w.poll backend .first s (.lock pair) = (.ready (.ok ()), w') ∧
        Kept w' (update R p (some (s, { d with holds := some pair })))) ∨
      ∃ w', w.poll backend .first s (.lock pair) = (.pending, w') ∧
        Kept w' (update R p (some (s, { d with awaits := some pair }))) := by
  have hlock := h.keeps.lock hp hd hfresh pair
  rcases hst : w.sessions.lock s pair with ⟨answer, st⟩
  rw [hst] at hlock
  have hpoll : w.poll backend .first s (.lock pair) =
      (answer, { w with sessions := st, traffic := w.traffic ++ [.asked s (.lock pair)] }) := by
    simp [World.poll, backend, State.start, hst]
  rw [hpoll]
  rcases hlock with ⟨e, rfl, hkeeps⟩ | ⟨rfl, hkeeps⟩ | ⟨rfl, hkeeps⟩
  · exact .inl ⟨e, _, rfl, hkeeps, h.bounded, h.undisturbed⟩
  · exact .inr (.inl ⟨_, rfl, h.revise hp hkeeps rfl rfl⟩)
  · exact .inr (.inr ⟨_, rfl, h.revise hp hkeeps rfl rfl⟩)

/-- A session looks again for the pair that it waits for. -/
theorem lockAgain (h : Kept w R) (hp : R p = some (s, d)) (hd : d.awaits = some pair)
    (hfresh : d.unfinished = true → d.holds = none) :
    (∃ w', w.poll backend .later s (.lock pair) = (.ready (.ok ()), w') ∧
        Kept w' (update R p (some (s, { d with awaits := none, holds := some pair })))) ∨
      ∃ w', w.poll backend .later s (.lock pair) = (.pending, w') ∧ Kept w' R := by
  have hlock := h.keeps.lockAgain hp hd hfresh
  rcases hst : w.sessions.lockAgain s with ⟨answer, st⟩
  rw [hst] at hlock
  have hpoll : w.poll backend .later s (.lock pair) = (answer, { w with sessions := st }) := by
    simp [World.poll, backend, State.resume, hst]
  rw [hpoll]
  rcases hlock with ⟨rfl, hkeeps⟩ | ⟨rfl, hkeeps⟩
  · exact .inr ⟨_, rfl, hkeeps, h.bounded, h.undisturbed⟩
  · exact .inl ⟨_, rfl, h.revise hp hkeeps rfl rfl⟩

/-- A session that does not wait is committed, at once. -/
theorem commit (h : Kept w R) (hp : R p = some (s, d)) (hd : d.awaits = none) :
    ∃ answer w', w.poll backend .first s .commit = (.ready answer, w') ∧
      Kept w' (update R p (some (s, { unfinished := false }))) := by
  have hcommit := h.keeps.commit hp hd
  rcases hst : w.sessions.commit s with ⟨answer, st⟩
  rw [hst] at hcommit
  refine ⟨answer, { w with sessions := st, traffic := w.traffic ++ [.asked s .commit] }, ?_, ?_⟩
  · simp [World.poll, backend, State.start, hst]
  · exact h.revise hp hcommit rfl rfl

theorem abandon (h : Kept w R) (hp : R p = some (s, d)) :
    Kept (w.abandon backend s) (update R p (some (s, { d with awaits := none }))) :=
  h.revise hp (h.keeps.abandon hp) rfl rfl

theorem drop (h : Kept w R) (hp : R p = some (s, d)) : Kept (w.drop backend s) (update R p none) := by
  refine h.change (h.keeps.drop hp) ?_ (Nat.le_refl _) rfl
  rintro _ _ ⟨⟩

theorem abandonAndDrop (h : Kept w R) (hp : R p = some (s, d)) :
    Kept (w.abandonAndDrop backend s) (update R p none) := by
  have hdrop := (h.abandon hp).drop (p := p) (Function.update_self ..)
  rwa [Function.update_idem] at hdrop

/-- A session that no other line has comes to the place of another one, which is dropped. -/
theorem replace {o : ι} {t : SessionId} (h : Kept w (update R o (some (s, d)))) (ho : R o = none) (hqo : q ≠ o)
    (hq : R q = some (t, d')) : Kept (w.drop backend t) (update R q (some (s, d))) := by
  have hold : update R o (some (s, d)) q = some (t, d') := by rw [Function.update_of_ne hqo, hq]
  have hdrop := h.drop hold
  rw [Function.update_comm hqo.symm] at hdrop
  have hland := hdrop.land (q := q) (by rw [Function.update_of_ne hqo.symm, ho]) (Function.update_self ..)
  rwa [Function.update_idem] at hland

/-! ## Handles -/

/-- A session that does not wait is committed and dropped, at once. -/
theorem release (h : Kept w R) (hp : R p = some (s, d)) (hd : d.awaits = none) :
    ∃ answer w', LockHandle.commit backend .first s w = (.ready answer, w') ∧ Kept w' (update R p none) := by
  obtain ⟨answer, w', hpoll, hw'⟩ := h.commit hp hd
  have hdrop := hw'.drop (Function.update_self ..)
  rw [Function.update_idem] at hdrop
  exact ⟨answer.mapError .release, _, by simp [LockHandle.commit, hpoll], hdrop⟩

/-- A handle is opened on a new session, at once, or this fails. -/
theorem create (h : Kept w R) (hp : R p = none) (span : Option Log.Span) (key : LockKey) :
    (∃ e w', LockHandle.create backend span key w = (.finished (.error e), w') ∧ Kept w' R) ∨
      ∃ hd w', LockHandle.create backend span key w = (.finished (.ok hd), w') ∧ hd.session = some (w.begins + 1) ∧
        hd.key = some key ∧ Kept w' (update R p (some (w.begins + 1, {}))) := by
  have hcreate : LockHandle.create backend span key w =
      LockHandle.begin backend .first span key (w.begins + 1) w.number.2 := rfl
  rw [hcreate, LockHandle.begin]
  rcases h.begin hp with ⟨e, w₁, hpoll, hw₁⟩ | ⟨w₁, hpoll, hw₁⟩
  · rw [hpoll]
    exact .inl ⟨_, _, rfl, hw₁⟩
  · rw [hpoll]
    -- the handle is open even if its transaction has no number
    obtain ⟨answer, w₂, hpoll₂, hw₂⟩ := hw₁.identify (w.begins + 1)
    dsimp only
    rw [LockHandle.identify, hpoll₂]
    cases answer with
    | ok id => exact .inr ⟨_, _, rfl, rfl, rfl, hw₂⟩
    | error e =>
      have htold := hw₂.tell (e := LockHandle.unidentifiedEvent span key e) (by
        simp [LockHandle.unidentifiedEvent, Registry.displacedMessage])
      exact .inr ⟨_, _, rfl, rfl, rfl, htold⟩

omit [DecidableEq ι] in
theorem announce (h : Kept w R) (turn : Turn) (span : Option Log.Span) (key : LockKey) (id : Int) :
    Kept (LockHandle.announce turn span key id w) R := by
  cases turn with
  | first => exact h.tell (by simp [LockHandle.waitingEvent, Registry.displacedMessage])
  | later => exact h

/-- The handle at a place is asked for its lock. -/
theorem acquire {h : LockHandle} {key : LockKey} (hw : Kept w R) (hs : h.session = some s) (hk : h.key = some key)
    (hp : R p = some (s, d)) (hd : d.awaits = none) (hfresh : d.unfinished = true → d.holds = none)
    (span : Option Log.Span) :
    (∃ e w', h.acquire backend .first span w = (.ready (.error e), w') ∧ Kept w' R) ∨
      (∃ h' w', h.acquire backend .first span w = (.ready (.ok h'), w') ∧ h'.session = some s ∧ h'.key = some key ∧
        Kept w' (update R p (some (s, { d with holds := some key.hashes })))) ∨
      ∃ w', h.acquire backend .first span w = (.pending, w') ∧
        Kept w' (update R p (some (s, { d with awaits := some key.hashes }))) := by
  unfold LockHandle.acquire
  rw [hs, hk]
  dsimp only
  rcases (hw.announce .first span key h.transactionId).lock hp hd hfresh key.hashes with
    ⟨e, w', hpoll, hw'⟩ | ⟨w', hpoll, hw'⟩ | ⟨w', hpoll, hw'⟩
  · rw [hpoll]
    exact .inl ⟨_, _, rfl, hw'⟩
  · rw [hpoll]
    exact .inr (.inl ⟨_, _, rfl, rfl, rfl, hw'⟩)
  · rw [hpoll]
    exact .inr (.inr ⟨_, rfl, hw'⟩)

/-- The handle at a place is asked again for the lock that it waits for. -/
theorem acquireAgain {h : LockHandle} {key : LockKey} (hw : Kept w R) (hs : h.session = some s) (hk : h.key = some key)
    (hp : R p = some (s, d)) (hd : d.awaits = some key.hashes) (hfresh : d.unfinished = true → d.holds = none)
    (span : Option Log.Span) :
    (∃ h' w', h.acquire backend .later span w = (.ready (.ok h'), w') ∧ h'.session = some s ∧ h'.key = some key ∧
        Kept w' (update R p (some (s, { d with awaits := none, holds := some key.hashes })))) ∨
      ∃ w', h.acquire backend .later span w = (.pending, w') ∧ Kept w' R := by
  unfold LockHandle.acquire
  rw [hs, hk]
  dsimp only
  rcases (hw.announce .later span key h.transactionId).lockAgain hp hd hfresh with ⟨w', hpoll, hw'⟩ | ⟨w', hpoll, hw'⟩
  · rw [hpoll]
    exact .inl ⟨_, _, rfl, rfl, rfl, hw'⟩
  · rw [hpoll]
    exact .inr ⟨_, rfl, hw'⟩

end Kept

end Memory

end NamedLock
