import NamedLock.Proofs.Memory.Order

/-!
# Withdrawal — giving up an acquisition that waits

An acquisition that waits owns a session, which waits for the pair of the key and holds nothing. When the acquisition
is given up the session leaves the line of that one pair and is gone. If it had been handed the permit, the permit
goes to the next one in line.
-/

namespace NamedLock

open Memory (State backend deskOf)

namespace Memory

/-! ## What no session has a part in -/

namespace State

/-- The counts of transactions and the switches. -/
def counts (st : State) : State := { st with gates := [], slots := [], sessions := [] }

theorem counts_eq_iff {st st' : State} : st'.counts = st.counts ↔
    st'.begun = st.begun ∧ st'.lastTransactionId = st.lastTransactionId ∧ st'.committed = st.committed ∧
      st'.failNextBegin = st.failNextBegin ∧ st'.failLocks = st.failLocks ∧ st'.failCommits = st.failCommits := by
  simp [counts]

section Counts

variable (st : State) (s : SessionId)

@[simp] theorem counts_setGate (g : GateId) (y : Gate) : (st.setGate g y).counts = st.counts := rfl

@[simp] theorem counts_adjust (f : Session → Session) : (st.adjust s f).counts = st.counts := rfl

@[simp] theorem counts_release (g : GateId) : (st.release g).counts = st.counts := by
  unfold release
  split <;> rfl

@[simp] theorem counts_foldl_release (gs : List GateId) : (gs.foldl release st).counts = st.counts := by
  induction gs generalizing st with
  | nil => rfl
  | cons g gs ih => rw [List.foldl_cons, ih, counts_release]

@[simp] theorem counts_reclaim (pair : HashPair) : (st.reclaim pair).counts = st.counts := by
  unfold reclaim
  split
  next => split <;> rfl
  next => rfl

@[simp] theorem counts_foldl_reclaim (pairs : List HashPair) : (pairs.foldl reclaim st).counts = st.counts := by
  induction pairs generalizing st with
  | nil => rfl
  | cons pair pairs ih => rw [List.foldl_cons, ih, counts_reclaim]

@[simp] theorem counts_releaseAll : (st.releaseAll s).counts = st.counts := by
  unfold releaseAll
  split
  next => rfl
  next => simp only [counts_foldl_reclaim, counts_foldl_release, counts_adjust]

@[simp] theorem counts_abandon : (st.abandon s).counts = st.counts := by
  unfold abandon
  split
  next => split <;> simp
  next => rfl

/-- No session takes part in the counts when it goes. -/
@[simp] theorem counts_drop : (st.drop s).counts = st.counts := by
  calc
    (st.drop s).counts = ((st.abandon s).releaseAll s).counts := rfl
    _ = st.counts := by rw [counts_releaseAll, counts_abandon]

end Counts

/-! ## A session that leaves -/

/-- What a session that waited for a pair leaves behind: all is as before but for its own place. While it queued, the
others stay where they are; when it had been handed the permit, the next one is handed it. -/
structure Withdrawn (st st' : State) (s : SessionId) (pair : HashPair) : Prop where
  counts : st'.counts = st.counts
  others : ∀ p, p ≠ pair → st.AgreeOn st' p
  queued : st.isWoken s = false → s ∈ st.queue pair ∧ st'.holder? pair = st.holder? pair ∧
    st'.handed? pair = st.handed? pair ∧ st'.queue pair = (st.queue pair).filter (· ≠ s)
  handed : st.isWoken s = true → st'.holder? pair = none ∧ st'.handed? pair = (st.queue pair).head? ∧
    st'.queue pair = (st.queue pair).tail
  gone : st'.sessions.get? s = none

variable {st st' : State} {s : SessionId} {pair : HashPair}

/-- A session that was not woken queues for what it waits for. -/
theorem Balanced.mem_queue_of_waitsFor (h : st.Balanced []) (hs : st.WaitsFor s pair) (hwoken : st.isWoken s = false) :
    s ∈ st.queue pair := by
  rcases waitsFor_iff.1 hs with hhanded | hqueued
  · have htrue := (handed_iff.1 hhanded).2
    rw [hwoken] at htrue
    cases htrue
  · exact h.mem_queue.2 hqueued

/-- A session that queues leaves the line, and the first one in line stays the first one. -/
theorem Balanced.queue_leave (h : st.Balanced []) (h' : st'.Balanced []) (hs : st.WaitsFor s pair)
    (hwoken : st.isWoken s = false) (hdesk : st'.desk pair = (st.desk pair).leave s) :
    st'.handed? pair = st.handed? pair ∧ st'.queue pair = (st.queue pair).filter (· ≠ s) := by
  have hmem := h.mem_queue_of_waitsFor hs hwoken
  have hholder : (st'.desk pair).holder = (st.desk pair).holder := by
    rw [hdesk]
    rfl
  have hline : (st'.desk pair).line = (st.desk pair).line.erase s := by
    rw [hdesk]
    rfl
  have hnodup : (st.desk pair).line.Nodup := h.nodup_line
  have hhanded : s ∉ (st.handed? pair).toList := by
    intro hfirst
    have hno := (List.nodup_append.1 hnodup).2.2 s hfirst s hmem
    exact hno rfl
  -- the line of the desk is the one that was handed the permit, then the queue
  have herase : (st.desk pair).line.erase s = (st.handed? pair).toList ++ (st.queue pair).erase s :=
    List.erase_append_right _ hhanded
  have hfilter : (st.queue pair).erase s = (st.queue pair).filter (· ≠ s) := by
    rw [List.Nodup.erase_eq_filter (List.nodup_append.1 hnodup).2.1]
    exact List.filter_congr fun t _ => by simp [bne, beq_eq_decide]
  rw [h'.handed?_eq, h'.queue_eq, hholder, hline, herase, ← hfilter]
  split
  next hnone =>
    cases hfirst : st.handed? pair with
    | some t => exact ⟨rfl, rfl⟩
    | none =>
      -- with nobody holding the pair, whoever queues stands behind one that was handed it
      have hline₀ : (st.desk pair).line = st.queue pair := by simp [desk, hfirst]
      have hqueue := h.queue_eq pair
      rw [if_pos hnone, hline₀] at hqueue
      have hempty : st.queue pair = [] := by
        cases hq : st.queue pair with
        | nil => rfl
        | cons t rest =>
          rw [hq] at hqueue
          exact absurd hqueue (List.cons_ne_self t rest)
      rw [hempty] at hmem
      cases hmem
  next hsome =>
    have hnone := h.handed?_eq pair
    rw [if_neg hsome] at hnone
    rw [hnone]
    exact ⟨rfl, rfl⟩

/-- A session that was handed the permit leaves the line, and the next one is the first one. -/
theorem Balanced.handed_leave (h : st.Balanced []) (h' : st'.Balanced []) (hs : st.WaitsFor s pair)
    (hwoken : st.isWoken s = true) (hdesk : st'.desk pair = (st.desk pair).leave s) :
    st'.holder? pair = none ∧ st'.handed? pair = (st.queue pair).head? ∧ st'.queue pair = (st.queue pair).tail := by
  have hfirst : st.Handed s pair := handed_iff.2 ⟨hs, hwoken⟩
  obtain ⟨hholder, hhead⟩ := h.handed_iff_first.1 hfirst
  have hline : (st'.desk pair).line = st.queue pair := by
    rw [hdesk]
    simp [Desk.leave, desk, h.handed?_eq_some_iff.2 hfirst]
  have hholder' : (st'.desk pair).holder = none := by
    rw [hdesk]
    exact hholder
  rw [h'.handed?_eq, h'.queue_eq, if_pos hholder', if_pos hholder', hline]
  exact ⟨hholder', rfl, rfl⟩

/-- A session that waits and holds nothing gives up its own place only. -/
theorem Balanced.withdrawn (h : st.Balanced []) (hs : st.WaitsFor s pair) (hnone : ∀ p, ¬st.Holds s p) :
    st.Withdrawn ((st.abandon s).drop s) s pair := by
  have h' : ((st.abandon s).drop s).Balanced [] := (h.abandon s).drop s
  have hdesk : ∀ p, ((st.abandon s).drop s).desk p = (st.desk p).leave s := by
    intro p
    have hholder : ((st.desk p).leave s).holder ≠ some s := fun hheld => hnone p (h.holder_desk.1 hheld)
    rw [h.desk_abandon_drop, Desk.free_of_ne hholder]
  refine { counts := by simp, others := ?_, queued := ?_, handed := ?_, gone := by simp [State.drop] }
  · intro p hp
    refine h.agreeOn h' ?_
    rw [hdesk, Desk.leave_of_not_mem]
    -- it waits for one pair only
    intro hmem
    exact hp (waitsFor_unique (h.mem_line.1 hmem) hs)
  · intro hwoken
    obtain ⟨hhanded, hqueue⟩ := h.queue_leave h' hs hwoken (hdesk pair)
    exact ⟨h.mem_queue_of_waitsFor hs hwoken, congrArg Desk.holder (hdesk pair), hhanded, hqueue⟩
  · intro hwoken
    exact h.handed_leave h' hs hwoken (hdesk pair)

end State

end Memory

/-! ## The session of an acquisition -/

namespace Ensemble

variable {ens : Ensemble State} {name : String} {i : Nat} {a : Registry.Acquisition}

/-- An acquisition that waits owns a session, which waits for the pair of its key and holds nothing. -/
theorem Linked.session_of_acquire (h : ens.Linked) (hc : ens.calls.get? name = some (.acquire i a)) :
    ∃ s, ens.Asks name s a.key.hashes ∧ (∀ p, ¬ens.world.sessions.Holds s p) ∧
      giveUp backend ens (.acquire i a) = ens.world.abandonAndDrop backend s := by
  obtain ⟨-, s, x, ha, hstage, hs⟩ := h.orderly.acquisition hc
  have hline : ens.posting (.call name) = some (s, { awaits := some a.key.hashes }) :=
    (posting_placeOf h.orderly.apart hc).trans (ens.lineOf_acquire i ha)
  obtain ⟨y, hy, hof⟩ := h.kept.keeps.get? hline
  refine ⟨s, ⟨_, hc, ens.request?_acquire i hstage hs⟩, ?_, giveUp_acquire backend ens i hstage hs⟩
  intro p hp
  exact hof.not_holds rfl rfl p ((State.holds_of_get? hy).1 hp)

/-- Whoever is first in line once nobody holds a pair can go on; without anyone the pair is free. -/
theorem Linked.next_or_free {pair : HashPair} (h : ens.Linked) (hholder : ens.world.sessions.holder? pair = none) :
    (∀ t, ens.world.sessions.handed? pair = some t →
        ∃ next, ens.Asks next t pair ∧ ens.world.sessions.isWoken t = true) ∧
      (ens.world.sessions.handed? pair = none → Memory.Situation.free.Fits ens pair) := by
  have hb := h.kept.keeps.balanced
  constructor
  · intro t ht
    obtain ⟨hwaits, hwoken⟩ := State.handed_iff.1 (hb.handed?_eq_some_iff.1 ht)
    obtain ⟨next, hnext⟩ := h.asks_of_waitsFor hwaits
    exact ⟨next, hnext, hwoken⟩
  · intro hnone
    rw [Memory.free_fits_iff_not_inUse h, Memory.Desk.not_inUse]
    refine ⟨hholder, ?_⟩
    have hhanded := hb.handed?_eq pair
    rw [if_pos (show (deskOf ens.world pair).holder = none from hholder), hnone] at hhanded
    exact List.head?_eq_none_iff.1 hhanded.symm

end Ensemble

namespace Memory

open Ensemble (Linked step)

/-- Giving up an acquisition that waits gives up its own place, and nothing else. No table, no metric and no count
changes, and no other pair. If it still queued, the holder stays and the others queue in the order they had. If it
had been handed the permit, the next call in the queue is handed it, and without one the pair is free. Its session is
gone: it holds nothing and waits for nothing. -/
theorem cancel_gives_up_own_place (n : Nat) (hs : List Happening) (name : String) (i : Nat) (a : Registry.Acquisition)
    (hc : (run n hs).ensemble.calls.get? name = some (.acquire i a)) :
    let ens := (run n hs).ensemble
    let ens' := (step backend ens (.cancel name)).2
    let st := ens.world.sessions
    let st' := ens'.world.sessions
    let pair := a.key.hashes
    (ens'.registries = ens.registries ∧ ens'.world.metrics = ens.world.metrics ∧ ens'.calls = ens.calls.erase name ∧
        ens'.sessions = ens.sessions ∧ ens'.handles = ens.handles) ∧
      (st'.committed = st.committed ∧ st'.begun = st.begun ∧ st'.failNextBegin = st.failNextBegin ∧
        st'.failLocks = st.failLocks ∧ st'.failCommits = st.failCommits) ∧
      (∀ p, p ≠ pair → st'.holder? p = st.holder? p ∧ st'.handed? p = st.handed? p ∧ st'.queue p = st.queue p) ∧
      ∃ s, ens.Asks name s pair ∧
        (st.isWoken s = false → s ∈ st.queue pair ∧ st'.holder? pair = st.holder? pair ∧
          st'.handed? pair = st.handed? pair ∧ st'.queue pair = (st.queue pair).filter (· ≠ s)) ∧
        (st.isWoken s = true → st'.holder? pair = none ∧ st'.handed? pair = (st.queue pair).head? ∧
          st'.queue pair = (st.queue pair).tail ∧
          (∀ t, (st.queue pair).head? = some t → ∃ next, ens'.Asks next t pair ∧ st'.isWoken t = true) ∧
          (st.queue pair = [] → Situation.free.Fits ens' pair)) ∧
        st'.sessions.get? s = none ∧ (∀ p, ¬st'.Holds s p) ∧ ∀ p, ¬ens'.Waits s p := by
  intro ens ens' st st' pair
  have h : ens.Linked := run_linked n hs
  have h' : ens'.Linked := Ensemble.step_cancel h
  obtain ⟨s, hasks, hnone, hgive⟩ := h.session_of_acquire hc
  have hens' : ens' = { ens with world := ens.world.abandonAndDrop backend s, calls := ens.calls.erase name } := by
    rw [← hgive]
    simp only [ens', step, show ens.calls.get? name = some (.acquire i a) from hc]
  have hst' : st' = (st.abandon s).drop s := by
    simp only [st', hens']
    rfl
  have hleft : st.Withdrawn st' s pair := hst' ▸ h.kept.keeps.balanced.withdrawn (h.waitsFor_of_asks hasks) hnone
  -- a session that is gone neither holds nor waits
  have hgone : ∀ {P : Session → Prop}, ¬∃ x, st'.sessions.get? s = some x ∧ P x := by
    rintro P ⟨x, hx, -⟩
    rw [hleft.gone] at hx
    cases hx
  refine ⟨?_, ?_, ?_, s, hasks, hleft.queued, ?_, hleft.gone, fun p => hgone, fun p hw => hgone (h'.waits_iff.1 hw)⟩
  · rw [hens']
    exact ⟨rfl, rfl, rfl, rfl, rfl⟩
  · obtain ⟨hbegun, -, hcommitted, hswitches⟩ := State.counts_eq_iff.1 hleft.counts
    exact ⟨hcommitted, hbegun, hswitches⟩
  · intro p hp
    have hagree := hleft.others p hp
    exact ⟨hagree.holder, hagree.handed, hagree.queue⟩
  · intro hwoken
    obtain ⟨hholder, hhanded, hqueue⟩ := hleft.handed hwoken
    obtain ⟨hnext, hfree⟩ := h'.next_or_free hholder
    refine ⟨hholder, hhanded, hqueue, fun t ht => hnext t (hhanded.trans ht), fun hempty => hfree ?_⟩
    calc
      st'.handed? pair = (st.queue pair).head? := hhanded
      _ = none := by rw [hempty, List.head?_nil]

/-- The second caller in a succession, before it looks again. -/
def successor : Registry.Acquisition where
  token := "second"
  key := { resourceId := "herd", lockClass := .dinosaurs }
  stage := .locking
    { session := some 2, transactionId := 2, ownerToken := none, acquiredAt := 0
      key := some { resourceId := "herd", lockClass := .dinosaurs } }

/-- When the second caller in a succession is cancelled, the call of the third one can go on. -/
theorem cancel_in_succession_hands_on :
    let ens := (run 1 succession).ensemble
    let ens' := (step backend ens (.cancel "b")).2
    ens.calls.get? "b" = some (.acquire 0 successor) ∧
      ∃ next, (Situation.handed next).Fits ens' successor.key.hashes := by
  intro ens ens'
  have hc : ens.calls.get? "b" = some (.acquire 0 successor) := by decide +kernel
  obtain ⟨-, -, -, s, ⟨c, hcall, hrequest⟩, -, hhanded, -⟩ := cancel_gives_up_own_place 1 succession "b" 0 successor hc
  have hs : s = 2 := by
    rw [show (run 1 succession).ensemble.calls.get? "b" = some (.acquire 0 successor) from hc] at hcall
    cases hcall
    cases hrequest
    rfl
  have hwoken : ens.world.sessions.isWoken s = true := by
    rw [hs]
    decide +kernel
  have hqueue : (ens.world.sessions.queue successor.key.hashes).head? = some 3 := by decide +kernel
  obtain ⟨-, -, -, hnext, -⟩ := hhanded hwoken
  obtain ⟨next, hasks, hgo⟩ := hnext 3 hqueue
  exact ⟨hc, next, 3, hasks, hgo⟩

end Memory

end NamedLock
