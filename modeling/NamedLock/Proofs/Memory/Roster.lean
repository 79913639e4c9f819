import Mathlib.Logic.Function.Basic
import NamedLock.Proofs.Memory.Permits

/-!
# Roster — what the owners of sessions can rely on

Whoever owns a session knows what it asked of it: that it waits for a pair, that it holds one, that it is not
finished. A roster lists the owners by their places, each with its session and what it knows. `Keeps` says that
the roster is right, that no session is listed twice and that none is missing.

Requests of an owner change its own line of the roster and no other: what an owner knows of its session is not
touched by what others do, with one exception that it cannot see, namely whether the permit it waits for has
been handed over.
-/

namespace NamedLock

namespace Memory

/-! ## Outlines -/

/-- A session as its owner sees it, who is not told that the permit was handed over. -/
def Session.outline (x : Session) : Session :=
  { x with waiting := x.waiting.map fun w => { w with granted := false } }

namespace Session

@[simp] theorem held_outline (x : Session) : x.outline.held = x.held := rfl

@[simp] theorem finished_outline (x : Session) : x.outline.finished = x.finished := rfl

@[simp] theorem pair_waiting_outline (x : Session) :
    x.outline.waiting.map (·.pair) = x.waiting.map (·.pair) := by
  simp only [outline, Option.map_map]
  rfl

@[simp] theorem outline_grant (x : Session) : x.grant.outline = x.outline := by
  simp only [outline, grant, Option.map_map]
  rfl

end Session

namespace State

/-- The outline of a session that has not been dropped. -/
def outline (st : State) (s : SessionId) : Option Session := (st.sessions.get? s).map Session.outline

/-- Whether a pair is among those that a session holds. -/
def Holds (st : State) (s : SessionId) (pair : HashPair) : Prop :=
  ∃ x, st.sessions.get? s = some x ∧ x.held.contains pair = true

section Outline

variable (st : State) (s t : SessionId)

@[simp] theorem outline_setGate (g : GateId) (y : Gate) : (st.setGate g y).outline t = st.outline t := rfl

@[simp] theorem outline_slot (pair : HashPair) : (st.slot pair).2.outline t = st.outline t := by
  simp [outline]

theorem outline_adjust (f : Session → Session) :
    (st.adjust s f).outline t =
      if t = s then ((st.sessions.get? t).map f).map Session.outline else st.outline t := by
  simp only [outline, get?_adjust]
  split <;> rfl

@[simp] theorem outline_release (g : GateId) : (st.release g).outline t = st.outline t := by
  unfold release
  split
  next => rfl
  next s queue _ =>
    rw [outline_adjust, outline_setGate, sessions_setGate]
    split
    next =>
      rw [Option.map_map]
      exact congrArg (Option.map · _) (funext Session.outline_grant)
    next => rfl

@[simp] theorem outline_foldl_release (gs : List GateId) :
    (gs.foldl release st).outline t = st.outline t := by
  induction gs generalizing st with
  | nil => rfl
  | cons g gs ih => rw [List.foldl_cons, ih, outline_release]

@[simp] theorem outline_reclaim (pair : HashPair) : (st.reclaim pair).outline t = st.outline t := by
  unfold reclaim
  split
  next => split <;> rfl
  next => rfl

@[simp] theorem outline_foldl_reclaim (pairs : List HashPair) :
    (pairs.foldl reclaim st).outline t = st.outline t := by
  induction pairs generalizing st with
  | nil => rfl
  | cons pair pairs ih => rw [List.foldl_cons, ih, outline_reclaim]

theorem outline_releaseAll :
    (st.releaseAll s).outline t =
      if t = s then (st.outline t).map fun x => { x with held := [] } else st.outline t := by
  unfold releaseAll
  split
  next hs =>
    split
    next ht => simp [outline, ht, hs]
    next => rfl
  next x hs =>
    rw [outline_foldl_reclaim, outline_foldl_release, outline_adjust]
    split
    next =>
      simp only [outline, Option.map_map]
      rfl
    next => rfl

theorem outline_abandon :
    (st.abandon s).outline t =
      if t = s then (st.outline t).map fun x => { x with waiting := none } else st.outline t := by
  unfold abandon
  split
  next w x hs =>
    split
    next =>
      rw [outline_release, outline_adjust]
      split
      next =>
        simp only [outline, Option.map_map]
        rfl
      next => rfl
    next =>
      rw [outline_setGate, outline_adjust]
      split
      next =>
        simp only [outline, Option.map_map]
        rfl
      next => rfl
  next hno =>
    split
    next ht =>
      cases hs : st.sessions.get? s with
      | none => simp [outline, ht, hs]
      | some x =>
        have hw : x.waiting = none := by
          cases hw : x.waiting with
          | none => rfl
          | some w => exact absurd (by rw [hs, ← hw]) (hno x.transactionId x.held w x.finished)
        simp [outline, Session.outline, ht, hs, hw]
    next => rfl

end Outline

end State

/-! ## Rosters -/

/-- What the owner of a session knows about it. -/
structure Standing where
  /-- The pair that the session waits for; without one it does not wait. -/
  awaits : Option HashPair := none
  /-- A pair that the session holds. -/
  holds : Option HashPair := none
  /-- Whether the session is known to be unfinished. -/
  unfinished : Bool := true
  deriving DecidableEq, Repr

/-- A session with the standing that its owner takes for granted. -/
structure Standing.Of (d : Standing) (x : Session) : Prop where
  awaits : x.waiting.map (·.pair) = d.awaits
  holds : ∀ pair, d.holds = some pair → x.held.contains pair = true
  unfinished : d.unfinished = true → x.finished = false
  /-- Nobody but its owner asks anything of an unfinished session, so that it holds no other pair. -/
  alone : d.unfinished = true → ∀ pair, x.held.contains pair = true → d.holds = some pair

namespace Standing.Of

variable {d : Standing} {x : Session} {pair : HashPair}

/-- A session of which its owner has got no pair holds none. -/
theorem not_holds (h : d.Of x) (hu : d.unfinished = true) (hd : d.holds = none) (pair : HashPair) :
    ¬x.held.contains pair = true := by
  intro hpair
  have hsome := h.alone hu pair hpair
  rw [hd] at hsome
  cases hsome

/-- The first pair that a session gets is the only one that it holds. -/
theorem alone_set (h : d.Of x) (hu : d.unfinished = true) (hd : d.holds = none) {g : GateId} (other : HashPair)
    (hother : (x.held.set pair g).contains other = true) : some pair = some other := by
  by_cases hpair : other = pair
  · rw [hpair]
  · rw [Keyed.contains, Keyed.get?_set, if_neg hpair] at hother
    exact absurd hother (h.not_holds hu hd other)

end Standing.Of

/-- Who owns which session, by place. -/
abbrev Roster (ι : Type) := ι → Option (SessionId × Standing)

namespace State

open Function (update)

variable {ι : Type} [DecidableEq ι] {st st' : State} {R : Roster ι} {p q : ι} {s : SessionId} {d d' : Standing}
  {pair : HashPair}

/-- The permits are balanced and the roster is right: no session is listed twice, each has the standing that it
is listed with, and none is missing. -/
structure Keeps (st : State) (R : Roster ι) : Prop where
  balanced : st.Balanced []
  apart : ∀ p q s d d', R p = some (s, d) → R q = some (s, d') → p = q
  stands : ∀ p s d, R p = some (s, d) → ∃ x, st.outline s = some x ∧ d.Of x
  listed : ∀ s, st.outline s ≠ none → ∃ p d, R p = some (s, d)

omit [DecidableEq ι] in
/-- Nothing is listed where there are no sessions. -/
theorem Keeps.start : State.Keeps ({} : State) (fun _ : ι => none) where
  balanced := .start
  apart p q s d d' hp := by cases hp
  stands p s d hp := by cases hp
  listed s hs := absurd rfl hs

omit [DecidableEq ι] in
/-- Nothing changes that a roster is about. -/
theorem Keeps.congr (h : st.Keeps R) (hsessions : st'.sessions = st.sessions) (hslots : st'.slots = st.slots)
    (hgates : st'.gates = st.gates) : st'.Keeps R := by
  have houtline : ∀ s, st'.outline s = st.outline s := fun s => by simp [outline, hsessions]
  exact
    { balanced := h.balanced.congr hsessions hslots hgates
      apart := h.apart
      stands := by simpa [houtline] using h.stands
      listed := by simpa [houtline] using h.listed }

omit [DecidableEq ι] in
/-- A listed session has not been dropped. -/
theorem Keeps.get? (h : st.Keeps R) (hp : R p = some (s, d)) :
    ∃ x, st.sessions.get? s = some x ∧ d.Of x := by
  obtain ⟨x', ho, hd⟩ := h.stands p s d hp
  obtain ⟨x, hx, rfl⟩ := Option.map_eq_some_iff.1 ho
  exact ⟨x, hx,
    { awaits := by simpa using hd.awaits
      holds := by simpa using hd.holds
      unfinished := by simpa using hd.unfinished
      alone := by simpa using hd.alone }⟩

/-- The line of one session changes, or is new, or goes; no other session changes for its owner. -/
theorem Keeps.revise (h : st.Keeps R) (line : Option Standing) (here : ∀ t e, R p = some (t, e) → t = s)
    (nowhere : ∀ q e, q ≠ p → R q ≠ some (s, e)) (balanced : st'.Balanced [])
    (others : ∀ t, t ≠ s → st'.outline t = st.outline t)
    (stands : ∀ d, line = some d → ∃ x, st'.outline s = some x ∧ d.Of x)
    (gone : line = none → st'.outline s = none) :
    st'.Keeps (update R p (line.map fun d => (s, d))) := by
  -- a line is the one of this session, or it was there before and is of another one
  have hlines : ∀ q t e, update R p (line.map fun d => (s, d)) q = some (t, e) →
      (q = p ∧ t = s ∧ line = some e) ∨ t ≠ s ∧ R q = some (t, e) := by
    intro q t e hq
    rw [Function.update_apply] at hq
    split at hq
    next hqp =>
      obtain ⟨d, hd, he⟩ := Option.map_eq_some_iff.1 hq
      cases he
      exact .inl ⟨hqp, rfl, hd⟩
    next hqp => exact .inr ⟨fun ht => nowhere q e hqp (ht ▸ hq), hq⟩
  refine { balanced := balanced, apart := ?_, stands := ?_, listed := ?_ }
  · intro q q' t e e' hq hq'
    rcases hlines q t e hq with ⟨rfl, rfl, -⟩ | ⟨hts, hline⟩
    · rcases hlines q' _ e' hq' with ⟨rfl, -, -⟩ | ⟨hts', -⟩
      · rfl
      · exact absurd rfl hts'
    · rcases hlines q' t e' hq' with ⟨-, hts', -⟩ | ⟨-, hline'⟩
      · exact absurd hts' hts
      · exact h.apart _ _ _ _ _ hline hline'
  · intro q t e hq
    rcases hlines q t e hq with ⟨-, rfl, hd⟩ | ⟨hts, hline⟩
    · exact stands e hd
    · rw [others t hts]
      exact h.stands q t e hline
  · intro t ht
    by_cases hts : t = s
    · cases hl : line with
      | none => exact absurd (hts ▸ gone hl) ht
      | some d => exact ⟨p, d, by simp [hts]⟩
    · rw [others t hts] at ht
      obtain ⟨q, e, hq⟩ := h.listed t ht
      have hqp : q ≠ p := fun hqp => hts (here t e (hqp ▸ hq))
      exact ⟨q, e, by simpa [hqp] using hq⟩

/-- The owner of one session learns something new about it. -/
theorem Keeps.change (h : st.Keeps R) (hp : R p = some (s, d)) (balanced : st'.Balanced [])
    (others : ∀ t, t ≠ s → st'.outline t = st.outline t)
    (self : ∃ x, st'.outline s = some x ∧ d'.Of x) : st'.Keeps (update R p (some (s, d'))) := by
  refine h.revise (some d') ?_ ?_ balanced others ?_ ?_
  · intro t e ht
    rw [hp] at ht
    cases ht
    rfl
  · exact fun q e hqp hq => hqp (h.apart _ _ _ _ _ hq hp)
  · rintro _ ⟨⟩
    exact self
  · rintro ⟨⟩

/-- A session that is listed nowhere is entered. -/
theorem Keeps.enter (h : st.Keeps R) (hp : R p = none) (hs : st.outline s = none)
    (balanced : st'.Balanced []) (others : ∀ t, t ≠ s → st'.outline t = st.outline t)
    (self : ∃ x, st'.outline s = some x ∧ d.Of x) : st'.Keeps (update R p (some (s, d))) := by
  refine h.revise (some d) ?_ ?_ balanced others ?_ ?_
  · intro t e ht
    rw [hp] at ht
    cases ht
  · intro q e _ hq
    obtain ⟨x, hx, -⟩ := h.stands q s e hq
    rw [hs] at hx
    cases hx
  · rintro _ ⟨⟩
    exact self
  · rintro ⟨⟩

/-- A session that is gone is struck off. -/
theorem Keeps.strike (h : st.Keeps R) (hp : R p = some (s, d)) (balanced : st'.Balanced [])
    (others : ∀ t, t ≠ s → st'.outline t = st.outline t) (self : st'.outline s = none) :
    st'.Keeps (update R p none) := by
  refine h.revise none ?_ ?_ balanced others ?_ fun _ => self
  · intro t e ht
    rw [hp] at ht
    cases ht
    rfl
  · exact fun q e hqp hq => hqp (h.apart _ _ _ _ _ hq hp)
  · rintro _ ⟨⟩

/-- A session goes over to another owner. -/
theorem Keeps.move (h : st.Keeps R) (hp : R p = some (s, d)) (hq : R q = none) :
    st.Keeps (update (update R p none) q (some (s, d))) := by
  -- the line of the session is at its new place, all other lines are where they were
  have hlines : ∀ r t e, update (update R p none) q (some (s, d)) r = some (t, e) →
      (r = q ∧ t = s ∧ e = d) ∨ r ≠ p ∧ R r = some (t, e) := by
    intro r t e hr
    rw [Function.update_apply, Function.update_apply] at hr
    split at hr
    next hrq =>
      cases hr
      exact .inl ⟨hrq, rfl, rfl⟩
    next =>
      split at hr
      next => cases hr
      next hrp => exact .inr ⟨hrp, hr⟩
  refine { balanced := h.balanced, apart := ?_, stands := ?_, listed := ?_ }
  · intro r r' t e e' hr hr'
    rcases hlines r t e hr with ⟨rfl, rfl, rfl⟩ | ⟨hrp, hline⟩
    · rcases hlines r' _ e' hr' with ⟨rfl, -, -⟩ | ⟨hrp', hline'⟩
      · rfl
      · exact absurd (h.apart _ _ _ _ _ hline' hp) hrp'
    · rcases hlines r' t e' hr' with ⟨rfl, rfl, rfl⟩ | ⟨-, hline'⟩
      · exact absurd (h.apart _ _ _ _ _ hline hp) hrp
      · exact h.apart _ _ _ _ _ hline hline'
  · intro r t e hr
    rcases hlines r t e hr with ⟨-, rfl, rfl⟩ | ⟨-, hline⟩
    · exact h.stands p _ _ hp
    · exact h.stands r t e hline
  · intro t ht
    obtain ⟨r, e, hr⟩ := h.listed t ht
    by_cases hrp : r = p
    · subst hrp
      rw [hp] at hr
      cases hr
      exact ⟨q, d, by simp⟩
    · have hrq : r ≠ q := by
        rintro rfl
        rw [hq] at hr
        cases hr
      exact ⟨r, e, by simpa [hrq, hrp] using hr⟩

end State

namespace State

open Function (update)

/-! ## Requests -/

section Requests

variable {ι : Type} {st : State} {R : Roster ι} {p q : ι} {s : SessionId} {d : Standing} {pair : HashPair}

/-- Whoever holds a pair has the permit of its slot. -/
theorem Balanced.owner_of_holds {owed : List GateId} (h : st.Balanced owed) (hs : st.Holds s pair) :
    ∃ g, st.slots.get? pair = some g ∧ st.Owner g s := by
  obtain ⟨x, hx, hp⟩ := hs
  obtain ⟨g, hg⟩ := Option.isSome_iff_exists.1 hp
  exact ⟨g, (h.fine s x hx).held _ _ hg, x, hx, .inl ⟨pair, hg⟩⟩

/-- No pair is held by two sessions. -/
theorem Balanced.exclusive {owed : List GateId} (h : st.Balanced owed) {s' : SessionId}
    (hs : st.Holds s pair) (hs' : st.Holds s' pair) : s = s' := by
  obtain ⟨g, hg, ho⟩ := h.owner_of_holds hs
  obtain ⟨g', hg', ho'⟩ := h.owner_of_holds hs'
  -- both came to the pair by its slot, so they met at one gate
  have hgg : g = g' := Option.some.inj (hg.symm.trans hg')
  exact (h.fair g).unique s s' ho (hgg ▸ ho')

/-- No pair is held by two listed sessions. -/
theorem Keeps.exclusive (h : st.Keeps R) {s' : SessionId} {d' : Standing} (hp : R p = some (s, d))
    (hq : R q = some (s', d')) (hd : d.holds = some pair) (hd' : d'.holds = some pair) : p = q := by
  obtain ⟨x, hx, hof⟩ := h.get? hp
  obtain ⟨x', hx', hof'⟩ := h.get? hq
  have hss := h.balanced.exclusive ⟨x, hx, hof.holds _ hd⟩ ⟨x', hx', hof'.holds _ hd'⟩
  subst hss
  exact h.apart _ _ _ _ _ hp hq

variable [DecidableEq ι]

/-- A session is opened, or this was to fail. -/
theorem Keeps.begin (h : st.Keeps R) (hp : R p = none) (hs : st.outline s = none) :
    (∃ e, (st.begin s).1 = .error (.session e) ∧ (st.begin s).2.Keeps R) ∨
      (st.begin s).1 = .ok () ∧ (st.begin s).2.Keeps (update R p (some (s, {}))) := by
  unfold State.begin
  split
  next =>
    exact .inl ⟨_, rfl,
      { h with balanced := h.balanced.congr rfl rfl rfl }⟩
  next =>
    have hget : st.sessions.get? s = none := by simpa [outline] using hs
    have hbal := h.balanced.open hget (st.lastTransactionId + 1)
    refine .inr ⟨rfl, h.enter hp hs (hbal.congr rfl rfl rfl) (fun t ht => ?_) ?_⟩
    · simp [outline, Keyed.get?_set, ht]
    · exact ⟨_, by simp [outline]; rfl, ⟨rfl, by simp, fun _ => rfl, fun _ pair hpair => by cases hpair⟩⟩

omit [DecidableEq ι] in
theorem openSession?_eq_some_iff {x : Session} :
    st.openSession? s = some x ↔ st.sessions.get? s = some x ∧ x.finished = false := by
  unfold openSession?
  split
  next y hy =>
    rw [hy]
    by_cases hf : y.finished = true
    · rw [if_pos hf]
      refine ⟨by rintro ⟨⟩, ?_⟩
      rintro ⟨⟨⟩, hn⟩
      rw [hf] at hn
      cases hn
    · rw [if_neg hf]
      refine ⟨?_, fun h => h.1⟩
      rintro ⟨⟩
      exact ⟨rfl, by simpa using hf⟩
  next hy => simp [hy]

/-- What comes of asking for a pair that the session does not hold. -/
theorem Balanced.ask (h : st.Balanced []) {x : Session} (hx : st.sessions.get? s = some x)
    (hopen : x.finished = false) (hw : x.waiting = none) (hp : x.held.get? pair = none)
    (hfail : st.failLocks = false) :
    (st.lock s pair).2.Balanced [] ∧ (∀ t, t ≠ s → (st.lock s pair).2.outline t = st.outline t) ∧
      ∃ g, (st.lock s pair).1 = .ready (.ok ()) ∧
          (st.lock s pair).2.outline s = some { x with held := x.held.set pair g } ∨
        (st.lock s pair).1 = .pending ∧
          (st.lock s pair).2.outline s = some { x with waiting := some { pair, gate := g } } := by
  have hask : st.openSession? s = some x := openSession?_eq_some_iff.2 ⟨hx, hopen⟩
  have hnot : x.held.contains pair = false := by simp [Keyed.contains, hp]
  -- from here on only the gate of the pair matters, and not whether its slot is new
  have hbal := h.slot pair
  have hget := get?_slot st pair
  have hxs : (st.slot pair).2.sessions.get? s = some x := by rw [sessions_slot, hx]
  have hout := fun t => outline_slot st t pair
  simp only [State.lock, hask, hfail, hnot, Bool.false_eq_true, if_false]
  generalize st.slot pair = r at hbal hget hxs hout ⊢
  obtain ⟨g, st₁⟩ := r
  dsimp only at hbal hget hxs hout ⊢
  by_cases hfree : (st₁.gate g).free = true
  · rw [show st₁.tryTake g = (true, _) from if_pos hfree]
    refine ⟨hbal.take hxs hopen hw hp hget hfree, fun t ht => ?_, g, .inl ⟨rfl, ?_⟩⟩
    · rw [outline_adjust, if_neg ht, outline_setGate, hout]
    · rw [outline_adjust, if_pos rfl, sessions_setGate, hxs]
      simp [Session.outline, hw]
  · have htaken : (st₁.gate g).free = false := by simpa using hfree
    rw [show st₁.tryTake g = (false, st₁) from if_neg hfree]
    refine ⟨hbal.enqueue hxs hopen hw hp hget htaken, fun t ht => ?_, g, .inr ⟨rfl, ?_⟩⟩
    · rw [outline_adjust, if_neg ht, outline_setGate, hout]
    · rw [outline_adjust, if_pos rfl, sessions_setGate, hxs]
      simp [Session.outline]

/-- A session that does not wait asks for a pair: it is refused, or the pair is granted, or it waits. An owner that
knows what its session holds asks only while this is nothing. -/
theorem Keeps.lock (h : st.Keeps R) (hp : R p = some (s, d)) (hd : d.awaits = none)
    (hfresh : d.unfinished = true → d.holds = none) (pair : HashPair) :
    (∃ e, (st.lock s pair).1 = .ready (.error e) ∧ (st.lock s pair).2.Keeps R) ∨
      (st.lock s pair).1 = .ready (.ok ()) ∧
        (st.lock s pair).2.Keeps (update R p (some (s, { d with holds := some pair }))) ∨
      (st.lock s pair).1 = .pending ∧
        (st.lock s pair).2.Keeps (update R p (some (s, { d with awaits := some pair }))) := by
  obtain ⟨x, hx, hof⟩ := h.get? hp
  have hw : x.waiting = none := by simpa [hd] using hof.awaits
  -- refused when the session is finished or the switch is on; granted when the session has the pair already
  cases hopen : x.finished with
  | true =>
    have hnone : st.openSession? s = none := by simp [openSession?, hx, hopen]
    have hlock : st.lock s pair = (.ready (.error .transactionFinished), st) := by
      simp only [State.lock, hnone]
    rw [hlock]
    exact .inl ⟨_, rfl, h⟩
  | false =>
    have hask : st.openSession? s = some x := openSession?_eq_some_iff.2 ⟨hx, hopen⟩
    cases hfail : st.failLocks with
    | true =>
      have hlock : st.lock s pair =
          (.ready (.error (connectionError "connection reset while waiting for lock")), st) := by
        simp only [State.lock, hask, hfail, if_true]
      rw [hlock]
      exact .inl ⟨_, rfl, h⟩
    | false =>
      cases hnone : x.held.get? pair with
      | some g =>
        have hheld : x.held.contains pair = true := by simp [Keyed.contains, hnone]
        have hlock : st.lock s pair = (.ready (.ok ()), st) := by
          simp [State.lock, hask, hfail, hheld]
        rw [hlock]
        refine .inr (.inl ⟨rfl, h.change hp h.balanced (fun _ _ => rfl) ⟨x.outline, by simp [outline, hx], ?_⟩⟩)
        refine ⟨by simpa using hof.awaits, ?_, by simpa using hof.unfinished, fun hu => absurd hheld ?_⟩
        · rintro _ ⟨⟩
          exact hheld
        · exact hof.not_holds hu (hfresh hu) pair
      | none =>
        obtain ⟨hbal, hothers, g, ⟨hok, hself⟩ | ⟨hpend, hself⟩⟩ :=
          h.balanced.ask hx hopen hw hnone hfail
        · refine .inr (.inl ⟨hok, h.change hp hbal hothers ⟨_, hself, hof.awaits, ?_, hof.unfinished, ?_⟩⟩)
          · rintro _ ⟨⟩
            simp [Keyed.contains]
          · exact fun hu => hof.alone_set hu (hfresh hu)
        · exact .inr (.inr ⟨hpend, h.change hp hbal hothers ⟨_, hself, rfl, hof.holds, hof.unfinished, hof.alone⟩⟩)

/-- A session that waits looks again: it still waits, or the pair is granted. -/
theorem Keeps.lockAgain (h : st.Keeps R) (hp : R p = some (s, d)) (hd : d.awaits = some pair)
    (hfresh : d.unfinished = true → d.holds = none) :
    ((st.lockAgain s).1 = .pending ∧ (st.lockAgain s).2.Keeps R) ∨
      (st.lockAgain s).1 = .ready (.ok ()) ∧
        (st.lockAgain s).2.Keeps (update R p (some (s, { d with awaits := none, holds := some pair }))) := by
  obtain ⟨x, hx, hof⟩ := h.get? hp
  -- the owner knows that the session waits, but not whether it was woken
  obtain ⟨w, hw, hpair⟩ := Option.map_eq_some_iff.1 (hof.awaits.trans hd)
  obtain ⟨id, held, waiting, finished⟩ := x
  dsimp only at hw
  subst hw
  unfold State.lockAgain
  rw [hx]
  dsimp only
  cases hgr : w.granted with
  | false => exact .inl ⟨rfl, h⟩
  | true =>
    have hbal := h.balanced.admit hx rfl hgr
    rw [if_pos rfl]
    have hself := outline_adjust st s s fun x =>
      { x with held := x.held.set w.pair w.gate, waiting := none }
    rw [if_pos rfl, hx] at hself
    refine .inr ⟨rfl, h.change hp hbal (fun t ht => by rw [outline_adjust, if_neg ht]) ⟨_, hself, ?_⟩⟩
    refine ⟨rfl, ?_, hof.unfinished, fun hu => hpair ▸ hof.alone_set hu (hfresh hu)⟩
    rintro _ ⟨⟩
    simp [Keyed.contains, ← hpair]

omit [DecidableEq ι] in
theorem Balanced.abandon (h : st.Balanced []) (s : SessionId) : (st.abandon s).Balanced [] := by
  unfold State.abandon
  split
  next id held w finished hx =>
    cases hgr : w.granted with
    | false => exact h.leave hx rfl hgr
    | true => exact (h.revoke hx rfl hgr).release
  next => exact h

omit [DecidableEq ι] in
theorem Balanced.commit (h : st.Balanced []) {x : Session} (hx : st.sessions.get? s = some x)
    (hw : x.waiting = none) :
    ((st.adjust s fun x => { x with finished := true }).releaseAll s).Balanced [] := by
  refine Balanced.releaseAll (x := { x with finished := true }) ?_ ?_
  · rw [get?_adjust, if_pos rfl, hx]
    rfl
  · have hfused : ((st.adjust s fun x => { x with finished := true }).adjust s fun x => { x with held := [] }) =
        st.adjust s fun x => { x with finished := true, held := [] } := by
      simp only [adjust, Keyed.adjust_adjust]
      rfl
    rw [hfused]
    exact h.strip hx hw rfl hw

omit [DecidableEq ι] in
theorem waiting_of_abandon {x : Session} (hx : (st.abandon s).sessions.get? s = some x) :
    x.waiting = none := by
  have hleft := outline_abandon st s s
  rw [if_pos rfl, outline, hx, Option.map_some] at hleft
  obtain ⟨y, -, hy⟩ := Option.map_eq_some_iff.1 hleft.symm
  simpa [Session.outline] using (congrArg Session.waiting hy).symm

omit [DecidableEq ι] in
theorem Balanced.drop (h : st.Balanced []) (s : SessionId) : (st.drop s).Balanced [] := by
  have hbal := h.abandon s
  have hcleared := outline_releaseAll (st.abandon s) s s
  rw [if_pos rfl] at hcleared
  -- a session that is gone already is dropped without effect
  cases hx : (st.abandon s).sessions.get? s with
  | none =>
    have hsame : (st.abandon s).releaseAll s = st.abandon s := by simp [State.releaseAll, hx]
    have herase := Keyed.erase_of_get?_eq_none hx
    exact hbal.congr (by simp [State.drop, hsame, herase]) (by simp [State.drop, hsame])
      (by simp [State.drop, hsame])
  | some x =>
    have hwaiting := waiting_of_abandon hx
    have hstrip : ((st.abandon s).adjust s fun x => { x with held := [] }).Balanced x.held.values :=
      hbal.strip hx hwaiting rfl hwaiting
    have hbal' := Balanced.releaseAll hx hstrip
    obtain ⟨z, hz, hzo⟩ : ∃ z, ((st.abandon s).releaseAll s).sessions.get? s = some z ∧
        z.outline = { x with held := [] } := by
      simpa [outline, hx, Session.outline, hwaiting] using hcleared
    refine hbal'.close hz (congrArg Session.held hzo) ?_
    simpa [Session.outline, hwaiting] using congrArg Session.waiting hzo

/-- A session gives up the pair that it waits for. -/
theorem Keeps.abandon (h : st.Keeps R) (hp : R p = some (s, d)) :
    (st.abandon s).Keeps (update R p (some (s, { d with awaits := none }))) := by
  obtain ⟨x, hx, hof⟩ := h.stands p s d hp
  refine h.change hp (h.balanced.abandon s) (fun t ht => by rw [outline_abandon, if_neg ht])
    ⟨{ x with waiting := none }, by rw [outline_abandon, if_pos rfl, hx]; rfl, ?_⟩
  exact ⟨rfl, hof.holds, hof.unfinished, hof.alone⟩

/-- A session that does not wait is committed; whatever comes of it, the session holds nothing. -/
theorem Keeps.commit (h : st.Keeps R) (hp : R p = some (s, d)) (hd : d.awaits = none) :
    (st.commit s).2.Keeps (update R p (some (s, { unfinished := false }))) := by
  obtain ⟨x, hx, hof⟩ := h.get? hp
  have hw : x.waiting = none := by simpa [hd] using hof.awaits
  unfold State.commit
  split
  next =>
    exact h.change hp h.balanced (fun _ _ => rfl)
      ⟨x.outline, by simp [outline, hx], ⟨by simp [hw], by simp, by simp, by simp⟩⟩
  next y hy =>
    obtain ⟨hy, -⟩ := openSession?_eq_some_iff.1 hy
    rw [hx] at hy
    cases hy
    have hdone := h.balanced.commit hx hw
    have hself : ((st.adjust s fun x => { x with finished := true }).releaseAll s).outline s =
        some { x with held := [], waiting := none, finished := true } := by
      rw [outline_releaseAll, if_pos rfl, outline_adjust, if_pos rfl, hx]
      simp [Session.outline, hw]
    have hothers : ∀ t, t ≠ s →
        ((st.adjust s fun x => { x with finished := true }).releaseAll s).outline t = st.outline t := by
      intro t ht
      rw [outline_releaseAll, if_neg ht, outline_adjust, if_neg ht]
    dsimp only
    split
    next => exact h.change hp hdone hothers ⟨_, hself, rfl, by simp, by simp, by simp⟩
    next => exact h.change hp (hdone.congr rfl rfl rfl) hothers ⟨_, hself, rfl, by simp, by simp, by simp⟩

/-- A session is dropped. -/
theorem Keeps.drop (h : st.Keeps R) (hp : R p = some (s, d)) : (st.drop s).Keeps (update R p none) := by
  have hothers : ∀ t, t ≠ s → (st.drop s).outline t = st.outline t := by
    intro t ht
    have hcleared : ((st.abandon s).releaseAll s).outline t = st.outline t := by
      rw [outline_releaseAll, if_neg ht, outline_abandon, if_neg ht]
    rw [← hcleared]
    simp [State.drop, outline, Keyed.get?_erase, ht]
  exact h.strike hp (h.balanced.drop s) hothers (by simp [State.drop, outline])

end Requests

end State

end Memory

end NamedLock
