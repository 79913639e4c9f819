import NamedLock.Proofs.Memory.Desk

/-!
# Service — what requests do to the desks

Each small step of a request is followed on the desks. Giving a permit back changes none of them, so that a session
that gives up what it holds, waiting or not, changes the desks of its own pairs only. A desk whose pair is not in use
loses its slot when a holder gives the pair up, and only then.
-/

namespace NamedLock

namespace Memory

namespace State

variable {owed owed' : List GateId} {st st' : State} {s t : SessionId} {x : Session} {pair p : HashPair} {g : GateId}

/-! ## Giving permits back -/

/-- Giving a permit back changes no desk: whoever is handed the permit was the first one in line before. -/
theorem Balanced.desk_release (h : st.Balanced (g :: owed)) (p : HashPair) : (st.release g).desk p = st.desk p := by
  have h' := h.release
  unfold State.release at h' ⊢
  split at h'
  next hq =>
    refine h.desk_congr h' rfl (fun _ => Iff.rfl) (fun _ => Iff.rfl) ?_
    rw [h.queue_setGate]
    split
    next hslot => rw [queue_of_slot hslot]
    next => rfl
  next s queue hq =>
    -- the first one in the queue is handed the permit, so it goes from the head of the queue to the head of the line
    obtain ⟨x, hx, w, hw, rfl, hgr⟩ := ((h.fair g).mem_queue s).1 (hq ▸ List.mem_cons_self)
    have hslot := ((h.fine s x hx).waiting w hw).1
    have hgrant := Session.waiting_grant hw
    have hx' : (st.setGate w.gate { st.gate w.gate with queue }).sessions.get? s = some x := hx
    have hholds : ∀ t, ((st.setGate w.gate { st.gate w.gate with queue }).adjust s Session.grant).Holds t p ↔
        st.Holds t p := fun t => holds_adjust_same hx' rfl
    by_cases hp : p = w.pair
    · subst hp
      have hnone : ∀ t, ¬st.Handed t w.pair := fun t ht =>
        (h.fair w.gate).apart List.mem_cons_self t ((h.owner_iff hslot).2 (.inr ht))
      have hhanded : st.handed? w.pair = none := by
        rw [Option.eq_none_iff_forall_ne_some]
        exact fun t ht => hnone t (h.handed?_eq_some_iff.1 ht)
      refine h'.desk_eq (some s) rfl (fun t => (hholds t).trans h.holder_desk.symm) (fun t => ?_) ?_
      · rw [handed_adjust hx']
        split
        next ht => simpa [ht] using ⟨_, hgrant, rfl, rfl⟩
        next ht => exact iff_of_false (hnone t) (by simpa using Ne.symm ht)
      · rw [queue_adjust, h.queue_setGate, if_pos hslot]
        simp [desk, hhanded, queue_of_slot hslot, hq]
    · refine h.desk_congr h' rfl hholds (fun t => handed_adjust_same hx' ?_) ?_
      · simp [Session.Handed, hgrant, hw, Ne.symm hp]
      · have hother : st.slots.get? p ≠ some w.gate := fun hs => hp (h.slot_inj _ _ _ hs hslot)
        rw [queue_adjust, h.queue_setGate, if_neg hother]

theorem Balanced.desk_foldl_release {gs : List GateId} (h : st.Balanced (gs ++ owed)) (p : HashPair) :
    (gs.foldl State.release st).desk p = st.desk p := by
  induction gs generalizing st with
  | nil => rfl
  | cons g gs ih =>
    have hnext : (st.release g).Balanced (gs ++ owed) := h.release
    calc
      (gs.foldl State.release (st.release g)).desk p = (st.release g).desk p := ih hnext
      _ = st.desk p := h.desk_release p

/-- A session refers to a slot when it holds the pair or waits for it. -/
theorem Balanced.refersTo_iff (h : st.Balanced owed) (hslot : st.slots.get? pair = some g)
    (hx : st.sessions.get? s = some x) : x.refersTo g = true ↔ st.Holds s pair ∨ st.WaitsFor s pair := by
  have hfine := h.fine s x hx
  have hpair : ∀ p, st.slots.get? p = some g → p = pair := fun p hp => h.slot_inj _ _ _ hp hslot
  unfold Session.refersTo
  rw [Bool.or_eq_true]
  refine or_congr ?_ ?_
  · rw [holds_of_get? hx, List.any_eq_true]
    constructor
    · rintro ⟨⟨p, g'⟩, hp, hg⟩
      have hg' : g' = g := by simpa using hg
      have hget : x.held.get? p = some g := (Keyed.get?_eq_some_iff hfine.nodup).2 (hg' ▸ hp)
      rw [hpair p (hfine.held p g hget)] at hget
      simp [Keyed.contains, hget]
    · intro hp
      obtain ⟨g', hg'⟩ := Option.isSome_iff_exists.1 hp
      have hg : g' = g := Option.some.inj ((hfine.held _ _ hg').symm.trans hslot)
      exact ⟨(pair, g'), Keyed.mem_of_get?_eq_some hg', by simpa using hg⟩
  · cases hw : x.waiting with
    | none => simp [WaitsFor, hx, hw]
    | some w =>
      have hwslot := (hfine.waiting w hw).1
      have hiff : w.gate = g ↔ w.pair = pair := by
        constructor
        · intro hg
          exact hpair w.pair (hg ▸ hwslot)
        · intro hp
          exact Option.some.inj (hwslot.symm.trans (hp ▸ hslot))
      simp [WaitsFor, hx, hw, hiff]

theorem Balanced.referred_iff (h : st.Balanced owed) (hslot : st.slots.get? pair = some g) :
    (st.sessions.any fun e => e.2.refersTo g) = true ↔ (st.desk pair).InUse := by
  rw [h.inUse_iff, List.any_eq_true]
  constructor
  · rintro ⟨⟨s, x⟩, hmem, href⟩
    exact ⟨s, (h.refersTo_iff hslot ((Keyed.get?_eq_some_iff h.sessions_nodup).2 hmem)).1 href⟩
  · rintro ⟨s, hs⟩
    obtain ⟨x, hx⟩ : ∃ x, st.sessions.get? s = some x := by
      rcases hs with ⟨x, hx, -⟩ | ⟨x, hx, -⟩ <;> exact ⟨x, hx⟩
    exact ⟨(s, x), Keyed.mem_of_get?_eq_some hx, (h.refersTo_iff hslot hx).2 hs⟩

/-- A slot is removed when its pair is not in use. -/
theorem Balanced.reclaim_eq (h : st.Balanced owed) (pair : HashPair) :
    st.reclaim pair = if (st.desk pair).InUse then st else { st with slots := st.slots.erase pair } := by
  unfold State.reclaim
  cases hslot : st.slots.get? pair with
  | none =>
    have hout : ¬(st.desk pair).InUse := by
      intro hin
      obtain ⟨g, hg⟩ := h.slot_of_inUse hin
      rw [hslot] at hg
      cases hg
    rw [if_neg hout, Keyed.erase_of_get?_eq_none hslot]
  | some g => simp only [h.referred_iff hslot]

/-- Looking at a slot tidies the desk of its pair, and no other one. -/
theorem Balanced.desk_reclaim (h : st.Balanced owed) (pair p : HashPair) :
    (st.reclaim pair).desk p = if p = pair then (st.desk p).tidy else st.desk p := by
  have h' := h.reclaim pair
  rw [h.reclaim_eq] at h' ⊢
  by_cases hin : (st.desk pair).InUse
  · rw [if_pos hin]
    split
    next hp => rw [Desk.tidy, hp, if_pos hin]
    next => rfl
  · rw [if_neg hin] at h' ⊢
    split
    next hp =>
      subst hp
      obtain ⟨hholder, hline⟩ := Desk.not_inUse.1 hin
      obtain ⟨hhanded, -⟩ := List.append_eq_nil_iff.1 hline
      rw [Desk.tidy, if_neg hin]
      refine h'.desk_eq none (by simp [Keyed.contains]) (fun t => ?_) (fun t => ?_) ?_
      · exact h.holder_desk.symm.trans (by rw [hholder])
      · exact h.handed?_eq_some_iff.symm.trans (by rw [Option.toList_eq_nil_iff.1 hhanded])
      · simp [queue]
    next hp =>
      refine h.desk_congr h' ?_ (fun _ => Iff.rfl) (fun _ => Iff.rfl) ?_
      · simp [Keyed.contains, Keyed.get?_erase, hp]
      · simp [queue, Keyed.get?_erase, hp, gate]

theorem Balanced.desk_foldl_reclaim (pairs : List HashPair) (h : st.Balanced owed) (p : HashPair) :
    (pairs.foldl State.reclaim st).desk p = if p ∈ pairs then (st.desk p).tidy else st.desk p := by
  induction pairs generalizing st with
  | nil => rfl
  | cons pair pairs ih =>
    have hnext := ih (h.reclaim pair)
    rw [h.desk_reclaim] at hnext
    rw [List.foldl_cons, hnext]
    by_cases hp : p = pair
    · simp [hp, Desk.tidy_tidy]
    · simp [hp]

/-- A session gives up everything that it holds. -/
theorem Balanced.desk_strip (h : st.Balanced []) (hx : st.sessions.get? s = some x) (hw : x.waiting = none)
    {f : Session → Session} (hheld : (f x).held = []) (hwaiting : (f x).waiting = none) (p : HashPair) :
    (st.adjust s f).desk p = if (st.desk p).holder = some s then { st.desk p with holder := none } else st.desk p := by
  have h' := h.strip hx hw hheld hwaiting
  have hempty : (f x).held.contains p = false := by simp [hheld, Keyed.contains]
  have hhanded : ∀ t, (st.adjust s f).Handed t p ↔ st.Handed t p := by
    intro t
    refine handed_adjust_same hx ?_
    simp [Session.Handed, hw, hwaiting]
  by_cases hs : st.Holds s p
  · rw [if_pos (h.holder_desk.2 hs)]
    refine h'.desk_eq (st.handed? p) rfl (fun t => ?_) (fun t => (hhanded t).trans h.handed?_eq_some_iff.symm) rfl
    rw [holds_adjust hx, hempty]
    split
    next => simp
    next ht => exact iff_of_false (fun hno => ht (h.exclusive hno hs)) (by simp)
  · rw [if_neg fun hh => hs (h.holder_desk.1 hh)]
    have hsame : (f x).held.contains p = x.held.contains p := by
      rw [hempty, eq_comm, ← Bool.not_eq_true, ← holds_of_get? hx]
      exact hs
    exact h.desk_congr h' rfl (fun t => holds_adjust_same hx hsame) hhanded rfl

/-- Once a session has nothing left, its permits go back and the slots that are out of use go. -/
theorem Balanced.desk_giveBack {f : Session → Session} (h : st.Balanced []) (hx : st.sessions.get? s = some x)
    (hw : x.waiting = none) (hx' : st'.sessions.get? s = some (f x)) (hsame : (f x).held = x.held)
    (hwaiting : (f x).waiting = none)
    (hstrip : (st'.adjust s fun x => { x with held := [] }) = st.adjust s fun x => { f x with held := [] })
    (p : HashPair) : (st'.releaseAll s).desk p = (st.desk p).free s := by
  have hbal := h.strip hx hw (f := fun x => { f x with held := [] }) rfl hwaiting
  have hdesk := h.desk_strip hx hw (f := fun x => { f x with held := [] }) rfl hwaiting p
  have hholder : p ∈ Keyed.keys x.held ↔ (st.desk p).holder = some s := by
    rw [h.holder_desk, holds_of_get? hx]
    constructor
    · intro hp
      obtain ⟨⟨p', g⟩, hmem, rfl⟩ := List.mem_map.1 hp
      simp [Keyed.contains, (Keyed.get?_eq_some_iff (h.fine s x hx).nodup).2 hmem]
    · intro hp
      obtain ⟨g, hg⟩ := Option.isSome_iff_exists.1 hp
      exact List.mem_map.2 ⟨(p, g), Keyed.mem_of_get?_eq_some hg, rfl⟩
  unfold State.releaseAll
  rw [hx']
  dsimp only
  rw [hstrip, hsame]
  have hback : (st.adjust s fun x => { f x with held := [] }).Balanced (x.held.values ++ []) := by
    rw [List.append_nil]
    exact hbal
  rw [hback.foldl_release.desk_foldl_reclaim, hback.desk_foldl_release, hdesk]
  unfold Desk.free
  by_cases hs : (st.desk p).holder = some s
  · simp [hs, hholder.2 hs]
  · have hno : p ∉ Keyed.keys x.held := fun hp => hs (hholder.1 hp)
    simp [hs, hno]

/-! ## Requests -/

/-- A session that is opened has nothing to do with any desk. -/
theorem Balanced.desk_begin (h : st.Balanced []) (hs : st.sessions.get? s = none) (p : HashPair) :
    (st.begin s).2.desk p = st.desk p := by
  unfold State.begin
  split
  next => rfl
  next =>
    have hopen := h.open hs (st.lastTransactionId + 1)
    have hholds : ¬st.Holds s p := by simp [Holds, hs]
    have hhanded : ¬st.Handed s p := by simp [Handed, hs]
    refine h.desk_congr (hopen.congr rfl rfl rfl) rfl (fun t => ?_) (fun t => ?_) rfl
    · by_cases ht : t = s
      · exact iff_of_false (by simp [Holds, ht, Keyed.contains]) (ht ▸ hholds)
      · simp [Holds, Keyed.get?_set, ht]
    · by_cases ht : t = s
      · exact iff_of_false (by simp [Handed, ht, Session.Handed]) (ht ▸ hhanded)
      · simp [Handed, Keyed.get?_set, ht]

/-- A session that is committed gives up the pairs that it holds. -/
theorem Balanced.desk_commit (h : st.Balanced []) (hx : st.sessions.get? s = some x) (hw : x.waiting = none)
    (p : HashPair) : (st.commit s).2.desk p = if x.finished then st.desk p else (st.desk p).free s := by
  unfold State.commit
  cases hf : x.finished with
  | true =>
    have hnone : st.openSession? s = none := by simp [openSession?, hx, hf]
    rw [hnone]
    rfl
  | false =>
    have hopen : st.openSession? s = some x := openSession?_eq_some_iff.2 ⟨hx, hf⟩
    have hx' : (st.adjust s fun x => { x with finished := true }).sessions.get? s =
        some { x with finished := true } := by
      simp [get?_adjust, hx]
    have hstrip : ((st.adjust s fun x => { x with finished := true }).adjust s fun x => { x with held := [] }) =
        st.adjust s fun x => { x with finished := true, held := [] } := by
      simp only [adjust, Keyed.adjust_adjust]
      rfl
    rw [hopen, ← h.desk_giveBack (f := fun x => { x with finished := true }) hx hw hx' rfl hw hstrip p]
    dsimp only
    split
    next => rfl
    next => rfl

theorem abandon_of_waiting (hx : st.sessions.get? s = some x) {w : Waiting} (hw : x.waiting = some w) :
    st.abandon s =
      if w.granted then (st.adjust s fun x => { x with waiting := none }).release w.gate
      else (st.setGate w.gate { st.gate w.gate with queue := (st.gate w.gate).queue.erase s }).adjust s fun x =>
        { x with waiting := none } := by
  obtain ⟨id, held, waiting, finished⟩ := x
  dsimp only at hw
  subst hw
  unfold State.abandon
  rw [hx]
  rfl

theorem abandon_of_not_waiting (hx : st.sessions.get? s = some x) (hw : x.waiting = none) : st.abandon s = st := by
  obtain ⟨id, held, waiting, finished⟩ := x
  dsimp only at hw
  subst hw
  unfold State.abandon
  rw [hx]

theorem abandon_of_gone (hx : st.sessions.get? s = none) : st.abandon s = st := by
  unfold State.abandon
  rw [hx]

/-- A session that gives up waiting changes no desk but the one that it waits at. -/
theorem Balanced.desk_abandon_of_not_waitsFor (h : st.Balanced []) (hno : ¬st.WaitsFor s p) :
    (st.abandon s).desk p = st.desk p := by
  cases hx : st.sessions.get? s with
  | none => rw [abandon_of_gone hx]
  | some x =>
    cases hw : x.waiting with
    | none => rw [abandon_of_not_waiting hx hw]
    | some w =>
      have hp : w.pair ≠ p := fun hp => hno ⟨x, hx, by simp [hw, hp]⟩
      have hslot := ((h.fine s x hx).waiting w hw).1
      have hother : st.slots.get? p ≠ some w.gate := fun hs => hp (h.slot_inj _ _ _ hslot hs)
      have hholds : ∀ t, (st.adjust s fun x => { x with waiting := none }).Holds t p ↔ st.Holds t p :=
        fun t => holds_adjust_same hx rfl
      have hhanded : ∀ t, (st.adjust s fun x => { x with waiting := none }).Handed t p ↔ st.Handed t p := by
        intro t
        refine handed_adjust_same hx ?_
        simp [Session.Handed, hw, hp]
      rw [abandon_of_waiting hx hw]
      cases hgr : w.granted with
      | true =>
        have hrevoke := h.revoke hx hw hgr
        rw [if_pos rfl, hrevoke.desk_release]
        exact h.desk_congr hrevoke rfl hholds hhanded rfl
      | false =>
        rw [if_neg (by simp)]
        refine h.desk_congr (h.leave hx hw hgr) rfl hholds hhanded ?_
        rw [queue_adjust, h.queue_setGate, if_neg hother]

/-- A session that gives up waiting leaves the line. -/
theorem Balanced.desk_abandon (h : st.Balanced []) (s : SessionId) (p : HashPair) :
    (st.abandon s).desk p = (st.desk p).leave s := by
  by_cases hwaits : st.WaitsFor s p
  case neg =>
    rw [Desk.leave_of_not_mem fun hs => hwaits (h.mem_line.1 hs), h.desk_abandon_of_not_waitsFor hwaits]
  obtain ⟨x, hx, hwp⟩ := hwaits
  obtain ⟨w, hw, rfl⟩ := Option.map_eq_some_iff.1 hwp
  have hslot := ((h.fine s x hx).waiting w hw).1
  rw [abandon_of_waiting hx hw]
  cases hgr : w.granted with
  | true =>
    -- the session was first in line; its permit goes to the next one
    have hrevoke := h.revoke hx hw hgr
    have hfirst : st.Handed s w.pair := ⟨x, hx, w, hw, rfl, hgr⟩
    rw [if_pos rfl, hrevoke.desk_release]
    refine hrevoke.desk_eq none rfl (fun t => ?_) (fun t => ?_) ?_
    · exact (holds_adjust_same hx rfl).trans h.holder_desk.symm
    · rw [handed_adjust hx]
      split
      next => simp [Session.Handed]
      next ht => exact iff_of_false (fun hno => ht (h.handed_unique hno hfirst)) (by simp)
    · simp [Desk.leave, desk, h.handed?_eq_some_iff.2 hfirst]
  | false =>
    have hnot : s ∉ (st.handed? w.pair).toList := by
      rw [Option.mem_toList, h.handed?_eq_some_iff, handed_of_get? hx]
      simp [Session.Handed, hw, hgr]
    rw [if_neg (by simp)]
    refine (h.leave hx hw hgr).desk_eq (st.handed? w.pair) rfl (fun t => ?_) (fun t => ?_) ?_
    · exact (holds_adjust_same hx rfl).trans h.holder_desk.symm
    · refine Iff.trans (handed_adjust_same hx ?_) h.handed?_eq_some_iff.symm
      simp [Session.Handed, hw, hgr]
    · rw [queue_adjust, h.queue_setGate, if_pos hslot]
      simp [Desk.leave, desk, List.erase_append_right _ hnot, queue_of_slot hslot]

/-- A session that has nothing to do with a pair goes. -/
theorem Balanced.desk_close (h : st.Balanced owed) (h' : Balanced owed' { st with sessions := st.sessions.erase s })
    (hholder : (st.desk p).holder ≠ some s) (hline : s ∉ (st.desk p).line) :
    State.desk { st with sessions := st.sessions.erase s } p = st.desk p := by
  have hholds : ¬st.Holds s p := fun hs => hholder (h.holder_desk.2 hs)
  have hhanded : ¬st.Handed s p := fun hs => hline (h.mem_line.2 (waitsFor_iff.2 (.inl hs)))
  refine h.desk_congr h' rfl (fun t => ?_) (fun t => ?_) rfl
  · by_cases ht : t = s
    · exact iff_of_false (by simp [Holds, ht]) (ht ▸ hholds)
    · simp [Holds, Keyed.get?_erase, ht]
  · by_cases ht : t = s
    · exact iff_of_false (by simp [Handed, ht]) (ht ▸ hhanded)
    · simp [Handed, Keyed.get?_erase, ht]

/-- A session is dropped: it leaves the line, and gives up the pairs that it holds. -/
theorem Balanced.desk_drop (h : st.Balanced []) (s : SessionId) (p : HashPair) :
    (st.drop s).desk p = ((st.desk p).leave s).free s := by
  have hleft := h.abandon s
  rw [← h.desk_abandon]
  cases hx : (st.abandon s).sessions.get? s with
  | none =>
    have hsame : (st.drop s) = st.abandon s := by
      simp [State.drop, State.releaseAll, hx, Keyed.erase_of_get?_eq_none hx]
    have hnone : ¬(st.abandon s).Holds s p := by simp [Holds, hx]
    rw [hsame, Desk.free_of_ne fun hs => hnone (hleft.holder_desk.1 hs)]
  | some x =>
    have hw := waiting_of_abandon hx
    have hback := hleft.desk_giveBack (f := id) hx hw hx rfl hw rfl p
    have hbal : ((st.abandon s).releaseAll s).Balanced [] := .releaseAll hx (hleft.strip hx hw rfl hw)
    rw [← hback]
    refine hbal.desk_close (h.drop s) ?_ ?_
    · rw [hback]
      exact Desk.holder_free _ s
    · rw [hback, Desk.line_free, hleft.mem_line]
      rintro ⟨x', hx', hwp⟩
      rw [hx] at hx'
      cases hx'
      rw [hw] at hwp
      cases hwp

/-- A session that has left the line before it is dropped leaves it once. -/
theorem Balanced.desk_abandon_drop (h : st.Balanced []) (s : SessionId) (p : HashPair) :
    ((st.abandon s).drop s).desk p = ((st.desk p).leave s).free s := by
  have hleft : ((st.desk p).leave s).leave s = (st.desk p).leave s :=
    Desk.leave_of_not_mem h.nodup_line.not_mem_erase
  calc
    ((st.abandon s).drop s).desk p = (((st.abandon s).desk p).leave s).free s := (h.abandon s).desk_drop s p
    _ = (((st.desk p).leave s).leave s).free s := by rw [h.desk_abandon]
    _ = ((st.desk p).leave s).free s := by rw [hleft]

/-- A session that waits looks again: it gets the pair when it is the first one in line and nobody holds the pair. -/
theorem Balanced.desk_lockAgain (h : st.Balanced []) (s : SessionId) (p : HashPair) :
    (st.lockAgain s).2.desk p = (st.desk p).serve s := by
  by_cases hhanded : st.Handed s p
  · obtain ⟨⟨id, held, waiting, finished⟩, hx, w, hw, rfl, hgr⟩ := hhanded
    dsimp only at hw
    subst hw
    have hfirst : st.Handed s w.pair := ⟨_, hx, w, rfl, rfl, hgr⟩
    have hnobody : ∀ t, ¬st.Holds t w.pair := by
      intro t ht
      have hnone := h.handed_of_holds ht
      rw [h.handed?_eq_some_iff.2 hfirst] at hnone
      cases hnone
    have hadmit := h.admit hx rfl hgr
    have hgranted : (st.lockAgain s).2 =
        st.adjust s fun x => { x with held := x.held.set w.pair w.gate, waiting := none } := by
      simp [State.lockAgain, hx, hgr]
    rw [hgranted, Desk.serve, if_pos (h.handed_iff_first.1 hfirst)]
    refine hadmit.desk_eq none rfl (fun t => ?_) (fun t => ?_) ?_
    · rw [holds_adjust hx]
      split
      next ht => simp [Keyed.contains, ht]
      next ht => exact iff_of_false (hnobody t) (by simpa using Ne.symm ht)
    · rw [handed_adjust hx]
      split
      next => simp [Session.Handed]
      next ht => exact iff_of_false (fun hno => ht (h.handed_unique hno hfirst)) (by simp)
    · simp [desk, h.handed?_eq_some_iff.2 hfirst]
  · rw [Desk.serve, if_neg fun hfirst => hhanded (h.handed_iff_first.2 hfirst)]
    unfold State.lockAgain
    split
    next id held w finished hx =>
      split
      next hgr =>
        -- it gets another pair
        have hp : p ≠ w.pair := fun hp => hhanded ⟨_, hx, w, rfl, hp.symm, hgr⟩
        have hbal := h.admit hx rfl hgr
        refine h.desk_congr hbal rfl (fun t => ?_) (fun t => ?_) rfl
        · exact holds_adjust_same hx (by simp [Keyed.contains, Keyed.get?_set, hp])
        · refine handed_adjust_same hx ?_
          simp [Session.Handed, Ne.symm hp]
      next => rfl
    next => rfl

/-- A slot that is made for a pair is no other pair's. -/
theorem get?_slot_ne (hp : p ≠ pair) : (st.slot pair).2.slots.get? p = st.slots.get? p := by
  unfold State.slot
  split
  next => rfl
  next => exact Keyed.get?_set_ne _ _ hp

theorem queue_slot (st : State) (pair p : HashPair) : (st.slot pair).2.queue p = st.queue p := by
  by_cases hp : p = pair
  · subst hp
    cases hslot : st.slots.get? p with
    | some g => simp [State.slot, hslot]
    | none =>
      -- the gate is new, so nobody stands in its queue
      have hgate : st.gate (st.slot p).1 = {} := gate_of_length_le (by simp [State.slot, hslot])
      rw [queue_of_slot (get?_slot st p), gate_slot, hgate, queue_of_none hslot]
  · simp only [queue, get?_slot_ne hp, gate_slot]

/-- The slot of a pair is made on demand. -/
theorem Balanced.desk_slot (h : st.Balanced owed) (pair p : HashPair) :
    (st.slot pair).2.desk p = if p = pair then { st.desk p with slot := true } else st.desk p := by
  have h' := h.slot pair
  have hholds : ∀ t, (st.slot pair).2.Holds t p ↔ st.Holds t p := by simp [Holds]
  have hhanded : ∀ t, (st.slot pair).2.Handed t p ↔ st.Handed t p := by simp [Handed]
  by_cases hp : p = pair
  · rw [if_pos hp]
    refine h'.desk_eq (st.handed? p) ?_ (fun t => (hholds t).trans h.holder_desk.symm)
      (fun t => (hhanded t).trans h.handed?_eq_some_iff.symm) ?_
    · simp [Keyed.contains, hp, get?_slot]
    · rw [queue_slot, desk]
  · rw [if_neg hp]
    refine h.desk_congr h' ?_ hholds hhanded (queue_slot st pair p)
    simp only [Keyed.contains, get?_slot_ne hp]

/-- A permit is there to be taken when its pair is not in use. -/
theorem Balanced.inUse_iff_taken (h : st.Balanced []) (hslot : st.slots.get? pair = some g) :
    (st.desk pair).InUse ↔ (st.gate g).free = false := by
  rw [h.inUse_iff]
  constructor
  · rintro ⟨t, ht⟩
    by_contra hfree
    obtain ⟨-, hnone, hnobody⟩ := h.of_free (by simpa using hfree)
    rcases ht with ht | ht
    · exact hnone t ((h.owner_iff hslot).2 (.inl ht))
    · rcases waitsFor_iff.1 ht with ht | ht
      · exact hnone t ((h.owner_iff hslot).2 (.inr ht))
      · exact hnobody t ((h.queuer_iff hslot).2 ht)
  · intro htaken
    rcases (h.fair g).taken.1 htaken with howed | ⟨t, ht⟩
    · cases howed
    · exact ⟨t, ((h.owner_iff hslot).1 ht).imp_right fun ht => waitsFor_iff.2 (.inl ht)⟩

/-- A session takes a permit that is there. -/
theorem Balanced.desk_take (h : st.Balanced []) (hx : st.sessions.get? s = some x) (hopen : x.finished = false)
    (hw : x.waiting = none) (hnew : x.held.get? pair = none) (hslot : st.slots.get? pair = some g)
    (hfree : (st.gate g).free = true) (p : HashPair) :
    ((st.setGate g { st.gate g with free := false }).adjust s fun x => { x with held := x.held.set pair g }).desk p =
      if p = pair then (st.desk p).ask s else st.desk p := by
  have h' := h.take hx hopen hw hnew hslot hfree
  have hx' : (st.setGate g { st.gate g with free := false }).sessions.get? s = some x := hx
  have hhanded : ∀ t, ((st.setGate g { st.gate g with free := false }).adjust s fun x =>
      { x with held := x.held.set pair g }).Handed t p ↔ st.Handed t p :=
    fun t => handed_adjust_same hx' Iff.rfl
  have hqueue : (st.setGate g { st.gate g with free := false }).queue p = st.queue p := by
    rw [h.queue_setGate]
    split
    next hp => rw [queue_of_slot hp]
    next => rfl
  by_cases hp : p = pair
  · subst hp
    have hout : ¬(st.desk p).InUse := by simp [h.inUse_iff_taken hslot, hfree]
    obtain ⟨hholder, hline⟩ := Desk.not_inUse.1 hout
    rw [if_pos rfl, Desk.ask, if_neg hout]
    refine h'.desk_eq (st.handed? p) (by simp [Keyed.contains, hslot]) (fun t => ?_)
      (fun t => (hhanded t).trans h.handed?_eq_some_iff.symm) ?_
    · rw [holds_adjust hx']
      split
      next ht => simp [Keyed.contains, ht]
      next ht =>
        refine iff_of_false (fun hno => ?_) (by simpa using Ne.symm ht)
        have hother := h.holder_desk.2 hno
        rw [hholder] at hother
        cases hother
    · rw [queue_adjust, hqueue]
      exact hline
  · rw [if_neg hp]
    refine h.desk_congr h' rfl (fun t => holds_adjust_same hx' ?_) hhanded hqueue
    simp [Keyed.contains, Keyed.get?_set, hp]

/-- A session joins a queue. -/
theorem Balanced.desk_enqueue (h : st.Balanced []) (hx : st.sessions.get? s = some x) (hopen : x.finished = false)
    (hw : x.waiting = none) (hnew : x.held.get? pair = none) (hslot : st.slots.get? pair = some g)
    (hfree : (st.gate g).free = false) (p : HashPair) :
    ((st.setGate g { st.gate g with queue := (st.gate g).queue ++ [s] }).adjust s fun x =>
        { x with waiting := some { pair, gate := g } }).desk p =
      if p = pair then (st.desk p).ask s else st.desk p := by
  have h' := h.enqueue hx hopen hw hnew hslot hfree
  have hx' : (st.setGate g { st.gate g with queue := (st.gate g).queue ++ [s] }).sessions.get? s = some x := hx
  have hholds : ∀ t, ((st.setGate g { st.gate g with queue := (st.gate g).queue ++ [s] }).adjust s fun x =>
      { x with waiting := some { pair, gate := g } }).Holds t p ↔ st.Holds t p :=
    fun t => holds_adjust_same hx' rfl
  -- whoever joins the queue was handed nothing, before and after
  have hhanded : ∀ t, ((st.setGate g { st.gate g with queue := (st.gate g).queue ++ [s] }).adjust s fun x =>
      { x with waiting := some { pair, gate := g } }).Handed t p ↔ st.Handed t p := by
    intro t
    refine handed_adjust_same hx' ?_
    simp [Session.Handed, hw]
  by_cases hp : p = pair
  · subst hp
    have hin : (st.desk p).InUse := (h.inUse_iff_taken hslot).2 hfree
    rw [if_pos rfl, Desk.ask, if_pos hin]
    refine h'.desk_eq (st.handed? p) (by simp [Keyed.contains, hslot]) (fun t => (hholds t).trans h.holder_desk.symm)
      (fun t => (hhanded t).trans h.handed?_eq_some_iff.symm) ?_
    rw [queue_adjust, h.queue_setGate, if_pos hslot]
    simp [desk, queue_of_slot hslot]
  · have hother : st.slots.get? p ≠ some g := fun hs => hp (h.slot_inj _ _ _ hs hslot)
    rw [if_neg hp]
    refine h.desk_congr h' rfl hholds hhanded ?_
    rw [queue_adjust, h.queue_setGate, if_neg hother]

/-- What comes of asking for a pair: it is refused, or the session has the pair already, or the session comes to the
desk of the pair. -/
theorem Balanced.desk_lock (h : st.Balanced []) (hx : st.sessions.get? s = some x) (hw : x.waiting = none)
    (pair : HashPair) :
    (∃ e, st.lock s pair = (.ready (.error e), st)) ∨ st.Holds s pair ∧ st.lock s pair = (.ready (.ok ()), st) ∨
      ¬st.Holds s pair ∧ (st.lock s pair).1 = (if (st.desk pair).InUse then .pending else .ready (.ok ())) ∧
        ∀ p, (st.lock s pair).2.desk p = if p = pair then (st.desk p).ask s else st.desk p := by
  cases hopen : x.finished with
  | true =>
    have hnone : st.openSession? s = none := by simp [openSession?, hx, hopen]
    exact .inl ⟨_, by simp only [State.lock, hnone]; rfl⟩
  | false =>
    have hask : st.openSession? s = some x := openSession?_eq_some_iff.2 ⟨hx, hopen⟩
    cases hfail : st.failLocks with
    | true => exact .inl ⟨_, by simp only [State.lock, hask, hfail, if_true]; rfl⟩
    | false =>
      cases hnew : x.held.get? pair with
      | some g =>
        have hheld : x.held.contains pair = true := by simp [Keyed.contains, hnew]
        exact .inr (.inl ⟨⟨x, hx, hheld⟩, by simp [State.lock, hask, hfail, hheld]⟩)
      | none =>
        have hnot : x.held.contains pair = false := by simp [Keyed.contains, hnew]
        refine .inr (.inr ⟨by simp [holds_of_get? hx, hnot], ?_⟩)
        -- from here on only the gate of the pair matters, and not whether its slot is new
        have hbal := h.slot pair
        have hget := get?_slot st pair
        have hxs : (st.slot pair).2.sessions.get? s = some x := by rw [sessions_slot, hx]
        have hdesk := fun p => h.desk_slot pair p
        simp only [State.lock, hask, hfail, hnot, Bool.false_eq_true, if_false]
        generalize st.slot pair = r at hbal hget hxs hdesk ⊢
        obtain ⟨g, st₁⟩ := r
        dsimp only at hbal hget hxs hdesk ⊢
        have hin : (st.desk pair).InUse ↔ (st₁.gate g).free = false := by
          have hslot := hdesk pair
          rw [if_pos rfl] at hslot
          rw [← hbal.inUse_iff_taken hget, hslot]
          exact Iff.rfl
        -- the session comes to the same desk, with its slot or not
        have hsame : ∀ p, (if p = pair then (st₁.desk p).ask s else st₁.desk p) =
            if p = pair then (st.desk p).ask s else st.desk p := by
          intro p
          rw [hdesk]
          split
          next => rfl
          next => rfl
        by_cases hfree : (st₁.gate g).free = true
        · rw [show st₁.tryTake g = (true, _) from if_pos hfree]
          have hout : ¬(st.desk pair).InUse := by simp [hin, hfree]
          rw [if_neg hout]
          exact ⟨rfl, fun p => (hbal.desk_take hxs hopen hw hnew hget hfree p).trans (hsame p)⟩
        · have htaken : (st₁.gate g).free = false := by simpa using hfree
          rw [show st₁.tryTake g = (false, st₁) from if_neg hfree, if_pos (hin.2 htaken)]
          exact ⟨rfl, fun p => (hbal.desk_enqueue hxs hopen hw hnew hget htaken p).trans (hsame p)⟩

end State

end Memory

end NamedLock
