import NamedLock.Proofs.Memory.Service
import NamedLock.Proofs.Memory.Keeping

/-!
# Conduct — how sessions come to a desk and go

One operation does little to each desk: a session that waits looks again, or a session comes to the desk and stays, or
neither; after that at most one session goes. The operations of the world, of handles and of registries are followed
here; what an event does is made of them.
-/

namespace NamedLock

open Function (update)
open Memory (Kept Roster Standing State backend)

namespace Memory

/-! ## Changes of a desk -/

namespace Desk

/-- A session comes to the desk, or none does. -/
inductive Comes (asked : SessionId → Prop) (d : Desk) : Desk → Prop
  | rests : Comes asked d d
  | comes {s : SessionId} (hs : asked s) (holder : d.holder ≠ some s) (line : s ∉ d.line) : Comes asked d (d.ask s)

/-- A session leaves the line, or gives the pair up, or none does. -/
inductive Goes (left : SessionId → Prop) (d : Desk) : Desk → Prop
  | rests : Goes left d d
  | leaves {s : SessionId} (hs : left s) (line : s ∈ d.line) : Goes left d (d.leave s)
  | frees {s : SessionId} (holder : d.holder = some s) : Goes left d (d.free s)

/-- Whether a session holds the pair or waits for it. -/
def Has (d : Desk) (s : SessionId) : Prop := d.holder = some s ∨ s ∈ d.line

/-- What one event does to a desk. -/
inductive Change (asked left : SessionId → Prop) (d : Desk) : Desk → Prop
  /-- A session that waits looks again. -/
  | serves (s : SessionId) : Change asked left d (d.serve s)
  /-- A session goes at most. -/
  | goes {d' : Desk} (goes : d.Goes left d') : Change asked left d d'
  /-- A session comes and stays; after it, another one may go. -/
  | comes {s : SessionId} {d' : Desk} (hs : asked s) (holder : d.holder ≠ some s) (line : s ∉ d.line)
    (goes : (d.ask s).Goes left d') (stays : d'.Has s) : Change asked left d d'

variable {asked asked' left left' : SessionId → Prop} {d d' : Desk} {s : SessionId}

theorem Comes.mono (h : d.Comes asked d') (hasked : ∀ s, asked s → asked' s) : d.Comes asked' d' := by
  cases h with
  | rests => exact .rests
  | comes hs holder line => exact .comes (hasked _ hs) holder line

theorem Goes.mono (h : d.Goes left d') (hleft : ∀ s, left s → left' s) : d.Goes left' d' := by
  cases h with
  | rests => exact .rests
  | leaves hs line => exact .leaves (hleft _ hs) line
  | frees holder => exact .frees holder

theorem Change.mono (h : d.Change asked left d') (hasked : ∀ s, asked s → asked' s) (hleft : ∀ s, left s → left' s) :
    d.Change asked' left' d' := by
  cases h with
  | serves s => exact .serves s
  | goes goes => exact .goes (goes.mono hleft)
  | comes hs holder line goes stays => exact .comes (hasked _ hs) holder line (goes.mono hleft) stays

theorem has_ask (d : Desk) (s : SessionId) : (d.ask s).Has s := by
  unfold ask Has
  split
  next => exact .inr (by simp)
  next => exact .inl rfl

theorem Has.inUse (h : d.Has s) : d.InUse := by
  rcases h with hholder | hline
  · exact .inl (by simp [hholder])
  · exact .inr (List.ne_nil_of_mem hline)

/-- A session comes, unless none does, and after that one goes; whoever comes is there afterwards. -/
theorem Comes.change {d₁ : Desk} (h : d.Comes asked d₁) (goes : d₁.Goes left d') (stays : ∀ s, asked s → d'.Has s) :
    d.Change asked left d' := by
  cases h with
  | rests => exact .goes goes
  | comes hs holder line => exact .comes hs holder line goes (stays _ hs)

/-- A session comes, unless none does, and that is all. -/
theorem Comes.only (h : d.Comes asked d') : d.Change asked left d' := by
  cases h with
  | rests => exact .goes .rests
  | comes hs holder line => exact .comes hs holder line .rests (has_ask d _)

theorem goes_free (d : Desk) (s : SessionId) : d.Goes left (d.free s) := by
  by_cases hs : d.holder = some s
  · exact .frees hs
  · rw [free_of_ne hs]
    exact .rests

/-- A session that leaves the line and then gives the pair up does only one of them. -/
theorem goes_leave_free (hleft : s ∈ d.line → left s) (hholder : s ∈ d.line → d.holder ≠ some s) :
    d.Goes left ((d.leave s).free s) := by
  by_cases hs : s ∈ d.line
  · have hstays : (d.leave s).holder ≠ some s := hholder hs
    rw [free_of_ne hstays]
    exact .leaves (hleft hs) hs
  · rw [leave_of_not_mem hs]
    exact goes_free d s

end Desk

/-! ## Requests through the world -/

/-- The desk of a pair in a world. -/
abbrev deskOf (w : World State) (p : HashPair) : Desk := w.sessions.desk p

/-- Opening a handle comes to asking for a new session. -/
theorem sessions_create (span : Option Log.Span) (key : LockKey) (w : World State) :
    (LockHandle.create backend span key w).2.sessions = (w.sessions.begin (w.begins + 1)).2 := by
  have hcreate : LockHandle.create backend span key w =
      LockHandle.begin backend .first span key (w.begins + 1) w.number.2 := rfl
  rw [hcreate, LockHandle.begin]
  rcases hst : w.sessions.begin (w.begins + 1) with ⟨answer, st⟩
  have hpoll : w.number.2.poll backend .first (w.begins + 1) .begin = (.ready answer,
      { w.number.2 with sessions := st, traffic := w.traffic ++ [.asked (w.begins + 1) .begin] }) := by
    simp [World.poll, World.number, backend, State.start, hst]
  rw [hpoll]
  cases answer with
  | error e => rfl
  | ok u =>
    dsimp only
    unfold LockHandle.identify
    dsimp only [World.poll, backend, State.start]
    cases st.transactionId (w.begins + 1) with
    | ok id => rfl
    | error e => rfl

namespace Kept

variable {ι : Type} {w : World State} {R : Roster ι} {q : ι} {s : SessionId} {d : Standing} {left : SessionId → Prop}

/-- A session whose owner does not wait stands in no line. -/
theorem not_mem_line (h : Kept w R) (hq : R q = some (s, d)) (hd : d.awaits = none) (p : HashPair) :
    s ∉ (deskOf w p).line := by
  obtain ⟨x, hx, hof⟩ := h.keeps.get? hq
  intro hs
  obtain ⟨x', hx', hw⟩ := h.keeps.balanced.mem_line.1 hs
  rw [hx] at hx'
  cases hx'
  rw [hof.awaits, hd] at hw
  cases hw

/-- An unfinished session holds no pair but the one that its owner has got. -/
theorem holder_ne (h : Kept w R) (hq : R q = some (s, d)) (hu : d.unfinished = true) {p : HashPair}
    (hd : d.holds ≠ some p) : (deskOf w p).holder ≠ some s := by
  obtain ⟨x, hx, hof⟩ := h.keeps.get? hq
  intro hs
  have hheld : w.sessions.Holds s p := h.keeps.balanced.holder_desk.1 hs
  exact hd (hof.alone hu p ((State.holds_of_get? hx).1 hheld))

/-- A session that does not wait gives the pair up when it is dropped. -/
theorem desk_drop (h : Kept w R) (hq : R q = some (s, d)) (hd : d.awaits = none) (p : HashPair) :
    deskOf (w.drop backend s) p = (deskOf w p).free s := by
  have hdrop : deskOf (w.drop backend s) p = ((deskOf w p).leave s).free s := h.keeps.balanced.desk_drop s p
  rw [hdrop, Desk.leave_of_not_mem (h.not_mem_line hq hd p)]

theorem drop_goes (h : Kept w R) (hq : R q = some (s, d)) (hd : d.awaits = none) (p : HashPair) :
    (deskOf w p).Goes left (deskOf (w.drop backend s) p) := by
  rw [h.desk_drop hq hd p]
  exact Desk.goes_free _ s

theorem abandon_goes (h : Kept w R) (s : SessionId) (p : HashPair) :
    (deskOf w p).Goes (· = s) (deskOf (w.abandon backend s) p) := by
  have habandon : deskOf (w.abandon backend s) p = (deskOf w p).leave s := h.keeps.balanced.desk_abandon s p
  rw [habandon]
  by_cases hs : s ∈ (deskOf w p).line
  · exact .leaves rfl hs
  · rw [Desk.leave_of_not_mem hs]
    exact .rests

theorem desk_abandonAndDrop (h : Kept w R) (s : SessionId) (p : HashPair) :
    deskOf (w.abandonAndDrop backend s) p = ((deskOf w p).leave s).free s :=
  h.keeps.balanced.desk_abandon_drop s p

theorem abandonAndDrop_goes (h : Kept w R) (s : SessionId) (p : HashPair) :
    (deskOf w p).Goes (· = s) (deskOf (w.abandonAndDrop backend s) p) := by
  have hb := h.keeps.balanced
  rw [h.desk_abandonAndDrop]
  refine Desk.goes_leave_free (fun _ => rfl) ?_
  intro hs hholder
  exact hb.not_waitsFor_of_holds (hb.holder_desk.1 hholder) (hb.mem_line.1 hs)

/-- A session that is committed gives the pair up, unless it was finished before. -/
theorem desk_commit (h : Kept w R) (hq : R q = some (s, d)) (hd : d.awaits = none) (p : HashPair) :
    deskOf (w.poll backend .first s .commit).2 p = deskOf w p ∨
      deskOf (w.poll backend .first s .commit).2 p = (deskOf w p).free s := by
  obtain ⟨x, hx, hof⟩ := h.keeps.get? hq
  have hw : x.waiting = none := by simpa [hd] using hof.awaits
  have hcommit : deskOf (w.poll backend .first s .commit).2 p =
      if x.finished then deskOf w p else (deskOf w p).free s := h.keeps.balanced.desk_commit hx hw p
  rw [hcommit]
  split
  next => exact .inl rfl
  next => exact .inr rfl

theorem commit_goes (h : Kept w R) (hq : R q = some (s, d)) (hd : d.awaits = none) (p : HashPair) :
    (deskOf w p).Goes left (deskOf (w.poll backend .first s .commit).2 p) := by
  rcases h.desk_commit hq hd p with hdesk | hdesk
  · rw [hdesk]
    exact .rests
  · rw [hdesk]
    exact Desk.goes_free _ s

/-- A session that is asked for a pair comes to its desk, unless it has the pair or the request fails. -/
theorem lock_comes (h : Kept w R) (hq : R q = some (s, d)) (hd : d.awaits = none) (pair p : HashPair) :
    ((∃ e, (w.poll backend .first s (.lock pair)).1 = .ready (.error e)) →
        deskOf (w.poll backend .first s (.lock pair)).2 p = deskOf w p) ∧
      (deskOf w p).Comes (fun t => t = s ∧ p = pair) (deskOf (w.poll backend .first s (.lock pair)).2 p) := by
  obtain ⟨x, hx, hof⟩ := h.keeps.get? hq
  have hw : x.waiting = none := by simpa [hd] using hof.awaits
  have hlocked : deskOf (w.poll backend .first s (.lock pair)).2 p = (w.sessions.lock s pair).2.desk p := rfl
  have hanswer : (w.poll backend .first s (.lock pair)).1 = (w.sessions.lock s pair).1 := rfl
  rw [hlocked, hanswer]
  rcases h.keeps.balanced.desk_lock hx hw pair with ⟨e, hlock⟩ | ⟨-, hlock⟩ | ⟨hnew, hok, hdesk⟩
  · rw [hlock]
    exact ⟨fun _ => rfl, .rests⟩
  · rw [hlock]
    exact ⟨fun _ => rfl, .rests⟩
  · constructor
    · rintro ⟨e, he⟩
      rw [hok] at he
      split at he
      next => cases he
      next => cases he
    · rw [hdesk]
      split
      next hp =>
        subst hp
        refine .comes ⟨rfl, rfl⟩ ?_ (h.not_mem_line hq hd p)
        intro hs
        exact hnew (h.keeps.balanced.holder_desk.1 hs)
      next => exact .rests

/-- A session that waits for a pair is at its desk. -/
theorem has_of_awaits (h : Kept w R) (hq : R q = some (s, d)) {p : HashPair} (hd : d.awaits = some p) :
    (deskOf w p).Has s := by
  obtain ⟨x, hx, hof⟩ := h.keeps.get? hq
  exact .inr (h.keeps.balanced.mem_line.2 ⟨x, hx, hof.awaits.trans hd⟩)

theorem lockAgain_serves (h : Kept w R) (s : SessionId) (pair p : HashPair) :
    deskOf (w.poll backend .later s (.lock pair)).2 p = (deskOf w p).serve s :=
  h.keeps.balanced.desk_lockAgain s p

/-! ## Handles -/

/-- A session that is committed and then dropped gives the pair up once. -/
theorem desk_release [DecidableEq ι] (h : Kept w R) (hq : R q = some (s, d)) (hd : d.awaits = none) (p : HashPair) :
    deskOf (LockHandle.commit backend .first s w).2 p = (deskOf w p).free s := by
  have hdesk := h.desk_commit hq hd p
  obtain ⟨answer, w', hpoll, hw'⟩ := h.commit hq hd
  rw [hpoll] at hdesk
  have hrelease : deskOf (LockHandle.commit backend .first s w).2 p = (deskOf w' p).free s := by
    rw [LockHandle.commit, hpoll]
    exact hw'.desk_drop (Function.update_self ..) rfl p
  rw [hrelease]
  rcases hdesk with hdesk | hdesk
  · rw [hdesk]
  · rw [hdesk, Desk.free_of_ne (Desk.holder_free _ s)]

theorem release_goes [DecidableEq ι] (h : Kept w R) (hq : R q = some (s, d)) (hd : d.awaits = none) (p : HashPair) :
    (deskOf w p).Goes left (deskOf (LockHandle.commit backend .first s w).2 p) := by
  rw [h.desk_release hq hd p]
  exact Desk.goes_free _ s

/-- Opening a handle has nothing to do with any desk. -/
theorem desk_create (h : Kept w R) (span : Option Log.Span) (key : LockKey) (p : HashPair) :
    deskOf (LockHandle.create backend span key w).2 p = deskOf w p := by
  have hget : w.sessions.sessions.get? (w.begins + 1) = none := by simpa [State.outline] using h.next
  calc
    deskOf (LockHandle.create backend span key w).2 p = (w.sessions.begin (w.begins + 1)).2.desk p :=
      congrArg (State.desk · p) (sessions_create span key w)
    _ = deskOf w p := h.keeps.balanced.desk_begin hget p

/-- A handle that is asked for its lock comes to the desk of its key, unless it has the pair or the request fails. -/
theorem acquire_comes {h : LockHandle} {key : LockKey} (hw : Kept w R) (hs : h.session = some s)
    (hk : h.key = some key) (hq : R q = some (s, d)) (hd : d.awaits = none) (span : Option Log.Span) (p : HashPair) :
    ((∃ e, (h.acquire backend .first span w).1 = .ready (.error e)) →
        deskOf (h.acquire backend .first span w).2 p = deskOf w p) ∧
      (deskOf w p).Comes (fun t => t = s ∧ p = key.hashes) (deskOf (h.acquire backend .first span w).2 p) := by
  have hlock := (hw.announce .first span key h.transactionId).lock_comes hq hd key.hashes p
  unfold LockHandle.acquire
  rw [hs, hk]
  dsimp only
  cases hp : (LockHandle.announce .first span key h.transactionId w).poll backend .first s (.lock key.hashes) with
  | mk answer w' =>
    rw [hp] at hlock
    obtain ⟨hfails, hcomes⟩ := hlock
    cases answer with
    | pending => exact ⟨by rintro ⟨e, ⟨⟩⟩, hcomes⟩
    | ready answer =>
      cases answer with
      | ok u => exact ⟨by rintro ⟨e, ⟨⟩⟩, hcomes⟩
      | error e => exact ⟨fun _ => hfails ⟨e, rfl⟩, hcomes⟩

/-- A handle that waits for its lock looks again. -/
theorem acquireAgain_serves {h : LockHandle} {key : LockKey} (hw : Kept w R) (hs : h.session = some s)
    (hk : h.key = some key) (span : Option Log.Span) (p : HashPair) :
    deskOf (h.acquire backend .later span w).2 p = (deskOf w p).serve s := by
  have hserves := hw.lockAgain_serves s key.hashes p
  unfold LockHandle.acquire LockHandle.announce
  rw [hs, hk]
  dsimp only
  cases hp : w.poll backend .later s (.lock key.hashes) with
  | mk answer w' =>
    rw [hp] at hserves
    cases answer with
    | pending => exact hserves
    | ready answer => cases answer <;> exact hserves

end Kept

end Memory

namespace Registry

open Memory (deskOf)

variable {R : Roster Place} {i : Nat} {key : LockKey} {reg : Registry} {s : SessionId} {w : World State}
  {h : LockHandle}

/-- A lock is only ever filed under a key that has no entry. -/
theorem Settles.alone {token t : String} {r : Acquired × Registry × World State}
    (hr : Settles R i token key reg s r) (ht : r.1 = .finished (.ok t)) : reg.entries.get? key.encoded = none := by
  cases hr with
  | waits => cases ht
  | fails => cases ht
  | files hs hk ht alone kept => exact alone

/-- The desks do not change when a lock is filed under a key that has no entry. -/
theorem sessions_enter (alone : reg.entries.get? key.encoded = none) (token : String) (h : LockHandle)
    (w : World State) :
    (enter backend token key h reg w).2.sessions = w.sessions := by
  simp [enter, alone, World.tell]

/-- What asking for the lock of a new handle does to a desk: its session comes, unless this fails. -/
theorem lock_moves (token : String) (hand : R .hand = none) (posted : Posted R i key reg) (hs : h.session = some s)
    (hk : h.key = some key) (hw : Kept w (update R .hand (some (s, {})))) (p : HashPair) :
    (deskOf w p).Comes (fun t => t = s ∧ p = key.hashes) (deskOf (lock backend .first token key h reg w).2.2 p) := by
  have hsettles : Settles R i token key reg s (lock backend .first token key h reg w) :=
    lock_settles hand posted hs hk hw
  have hasked : Kept w (update R .hand (some (s, inHand .first key.hashes))) := hw
  obtain ⟨hfails, hcomes⟩ := hw.acquire_comes hs hk (Function.update_self ..) rfl (some (acquireSpan key)) p
  unfold lock at hsettles ⊢
  rcases acquire_inHand hs hk hasked (some (acquireSpan key)) with
    ⟨e, w', hacquire, hw'⟩ | ⟨h', w', hacquire, -, -, hw'⟩ | ⟨w', hacquire, hw'⟩
  · rw [hacquire] at hfails ⊢
    have hfail := kept_fail key hw' "Error obtaining the advisory lock" e (by decide)
    dsimp only
    -- the session that is dropped holds nothing
    rw [LockHandle.discard, hs, hfail.desk_drop (Function.update_self ..) rfl,
      Memory.Desk.free_of_ne (hfail.holder_ne (Function.update_self ..) rfl (by simp [inHand]))]
    rw [← hfails ⟨e, rfl⟩]
    exact .rests
  · rw [hacquire] at hsettles hcomes ⊢
    have hsame := sessions_enter (hsettles.alone rfl) token h' w'
    have hkept : deskOf (enter backend token key h' reg w').2 p = deskOf w' p := congrArg (State.desk · p) hsame
    exact hkept ▸ hcomes
  · rw [hacquire] at hcomes ⊢
    exact hcomes

/-- What an acquisition does to a desk at first: its session comes, unless this fails. -/
theorem acquire_moves (token : String) (hand : R .hand = none) (posted : Posted R i key reg) (hw : Kept w R)
    (p : HashPair) :
    (deskOf w p).Comes (fun t => t = w.begins + 1 ∧ p = key.hashes)
      (deskOf (acquire backend token key reg w).2.2 p) := by
  have hopened := hw.desk_create (some (acquireSpan key)) key p
  unfold acquire
  rcases hw.create hand (some (acquireSpan key)) key with ⟨e, w', hcreate, -⟩ | ⟨h, w', hcreate, hs, hk, hw'⟩
  · rw [hcreate] at hopened ⊢
    exact hopened ▸ .rests
  · rw [hcreate] at hopened ⊢
    rw [← hopened]
    exact lock_moves token hand posted hs hk hw' p

/-- What looking again for the lock of a handle does to a desk. -/
theorem lock_serves (token : String) (hand : R .hand = none) (posted : Posted R i key reg) (hs : h.session = some s)
    (hk : h.key = some key) (hw : Kept w (update R .hand (some (s, { awaits := some key.hashes })))) (p : HashPair) :
    deskOf (lock backend .later token key h reg w).2.2 p = (deskOf w p).serve s := by
  have hsettles : Settles R i token key reg s (lock backend .later token key h reg w) :=
    lock_settles hand posted hs hk hw
  have hserves := hw.acquireAgain_serves hs hk (some (acquireSpan key)) p
  unfold lock at hsettles ⊢
  rcases hw.acquireAgain hs hk (Function.update_self ..) rfl (fun _ => rfl) (some (acquireSpan key)) with
    ⟨h', w', hacquire, -, -, -⟩ | ⟨w', hacquire, -⟩
  · rw [hacquire] at hsettles hserves ⊢
    have hsame := sessions_enter (hsettles.alone rfl) token h' w'
    have hkept : deskOf (enter backend token key h' reg w').2 p = deskOf w' p := congrArg (State.desk · p) hsame
    exact hkept.trans hserves
  · rw [hacquire] at hserves ⊢
    exact hserves

/-- A new handle asks its session for the pair of its key, first of all. -/
theorem lock_asks {σ : Type} (b : Backend σ) (token : String) (reg : Registry) (hs : h.session = some s)
    (hk : h.key = some key) (w : World σ) :
    w.Asks (.asked s (.lock key.hashes)) (lock b .first token key h reg w).2.2 := by
  have hasked : w.Asks (.asked s (.lock key.hashes)) (h.acquire b .first (some (acquireSpan key)) w).2 :=
    LockHandle.acquire_asks b _ hs hk w
  unfold lock
  cases hp : h.acquire b .first (some (acquireSpan key)) w with
  | mk answer w' =>
    rw [hp] at hasked
    cases answer with
    | pending => exact hasked
    | ready answer =>
      cases answer with
      | error e => exact hasked.trans ((fail_leads key w' _ e).trans (LockHandle.discard_leads b _ h))
      | ok h' => exact hasked.trans (enter_leads b token key reg w' h')

end Registry

end NamedLock
