import NamedLock.Proofs.Memory.Situation

/-!
# Desk — one fair lock for each pair

Slots, gates, and what sessions hold and wait for come to little for each pair: a session that holds it, if any, and
the line of those that wait for it. A session that was handed the permit and has not looked since is still the first
one in line; whoever comes in the meantime stands behind it.

The slot is the one thing that a desk does not tidy up by itself: it goes when a holder gives the pair up and nobody is
left, but not when the last one in line leaves.
-/

namespace NamedLock

namespace Memory

/-! ## Desks -/

/-- The lock of a pair. -/
structure Desk where
  /-- Whether the pair has a slot. -/
  slot : Bool := false
  /-- The session that holds the pair. -/
  holder : Option SessionId := none
  /-- The sessions that wait for the pair, first one first. -/
  line : List SessionId := []
  deriving DecidableEq, Repr

namespace Desk

/-- Whether a session holds the pair or waits for it. -/
def InUse (d : Desk) : Prop := d.holder ≠ none ∨ d.line ≠ []

instance (d : Desk) : Decidable d.InUse := inferInstanceAs (Decidable (_ ∨ _))

/-- A session comes to the desk: it gets the pair when nobody has it or waits for it, and joins the line
otherwise. -/
def ask (d : Desk) (s : SessionId) : Desk :=
  if d.InUse then { slot := true, holder := d.holder, line := d.line ++ [s] }
  else { slot := true, holder := some s }

/-- The first one in line gets the pair, when nobody holds it. -/
def serve (d : Desk) (s : SessionId) : Desk :=
  if d.holder = none ∧ d.line.head? = some s then { d with holder := some s, line := d.line.tail } else d

/-- A session leaves the line. -/
def leave (d : Desk) (s : SessionId) : Desk := { d with line := d.line.erase s }

/-- The slot goes when the pair is not in use. -/
def tidy (d : Desk) : Desk := if d.InUse then d else {}

/-- A session gives the pair up, when it holds it. -/
def free (d : Desk) (s : SessionId) : Desk :=
  if d.holder = some s then { d with holder := none : Desk }.tidy else d

variable {d : Desk} {s t : SessionId}

theorem not_inUse : ¬d.InUse ↔ d.holder = none ∧ d.line = [] := by
  simp [InUse, not_or]

theorem leave_of_not_mem (h : s ∉ d.line) : d.leave s = d := by
  simp [leave, List.erase_of_not_mem h]

theorem serve_of_not_first (h : ¬(d.holder = none ∧ d.line.head? = some s)) : d.serve s = d := if_neg h

theorem free_of_ne (h : d.holder ≠ some s) : d.free s = d := by
  simp [free, h]

theorem tidy_tidy (d : Desk) : d.tidy.tidy = d.tidy := by
  unfold tidy
  by_cases h : d.InUse
  · simp [h]
  · simp [h]

@[simp] theorem line_tidy (d : Desk) : d.tidy.line = d.line := by
  unfold tidy
  split
  next => rfl
  next h => exact (not_inUse.1 h).2.symm

@[simp] theorem holder_tidy (d : Desk) : d.tidy.holder = d.holder := by
  unfold tidy
  split
  next => rfl
  next h => exact (not_inUse.1 h).1.symm

@[simp] theorem line_free (d : Desk) (s : SessionId) : (d.free s).line = d.line := by
  unfold free
  split
  next => exact line_tidy _
  next => rfl

/-- Whoever has given the pair up does not hold it. -/
theorem holder_free (d : Desk) (s : SessionId) : (d.free s).holder ≠ some s := by
  unfold free
  split
  next => simp
  next h => exact h

end Desk

namespace State

variable {owed owed' : List GateId} {st st' : State} {s t : SessionId} {x : Session} {pair p : HashPair} {g : GateId}

/-! ## The desk of a pair -/

/-- The session that holds a pair. -/
def holder? (st : State) (pair : HashPair) : Option SessionId :=
  (st.sessions.find? fun e => e.2.held.contains pair).map (·.1)

/-- The session that was handed the permit of a pair and has not looked since. -/
def handed? (st : State) (pair : HashPair) : Option SessionId :=
  (st.sessions.find? fun e => e.2.waiting.any fun w => w.pair = pair && w.granted).map (·.1)

/-- The sessions that queue for a pair. -/
def queue (st : State) (pair : HashPair) : List SessionId :=
  match st.slots.get? pair with
  | some g => (st.gate g).queue
  | none => []

/-- The desk of a pair. -/
def desk (st : State) (pair : HashPair) : Desk where
  slot := st.slots.contains pair
  holder := st.holder? pair
  line := (st.handed? pair).toList ++ st.queue pair

/-! ## Who holds, who was handed, who queues -/

end State

/-- Whether a session was handed the permit of a pair and has not looked since. -/
def Session.Handed (x : Session) (pair : HashPair) : Prop :=
  ∃ w, x.waiting = some w ∧ w.pair = pair ∧ w.granted = true

/-- Whether a session queues for a pair. -/
def Session.Queued (x : Session) (pair : HashPair) : Prop :=
  ∃ w, x.waiting = some w ∧ w.pair = pair ∧ w.granted = false

namespace State

variable {owed owed' : List GateId} {st st' : State} {s t : SessionId} {x : Session} {pair p : HashPair} {g : GateId}

def Handed (st : State) (s : SessionId) (pair : HashPair) : Prop :=
  ∃ x, st.sessions.get? s = some x ∧ x.Handed pair

def Queued (st : State) (s : SessionId) (pair : HashPair) : Prop :=
  ∃ x, st.sessions.get? s = some x ∧ x.Queued pair

theorem handed_iff : st.Handed s pair ↔ st.WaitsFor s pair ∧ st.isWoken s = true := by
  constructor
  · rintro ⟨x, hx, w, hw, hp, hgr⟩
    exact ⟨⟨x, hx, by simp [hw, hp]⟩, isWoken_iff.2 ⟨x, w, hx, hw, hgr⟩⟩
  · rintro ⟨⟨x, hx, hwp⟩, hwoken⟩
    obtain ⟨x', w, hx', hw, hgr⟩ := isWoken_iff.1 hwoken
    rw [hx] at hx'
    cases hx'
    exact ⟨x, hx, w, hw, by simpa [hw] using hwp, hgr⟩

theorem waitsFor_iff : st.WaitsFor s pair ↔ st.Handed s pair ∨ st.Queued s pair := by
  constructor
  · rintro ⟨x, hx, hwp⟩
    obtain ⟨w, hw, hp⟩ := Option.map_eq_some_iff.1 hwp
    cases hgr : w.granted with
    | true => exact .inl ⟨x, hx, w, hw, hp, hgr⟩
    | false => exact .inr ⟨x, hx, w, hw, hp, hgr⟩
  · rintro (⟨x, hx, w, hw, hp, -⟩ | ⟨x, hx, w, hw, hp, -⟩)
    · exact ⟨x, hx, by simp [hw, hp]⟩
    · exact ⟨x, hx, by simp [hw, hp]⟩

/-- A session waits for one pair at a time. -/
theorem waitsFor_unique (h : st.WaitsFor s pair) (h' : st.WaitsFor s p) : pair = p := by
  obtain ⟨x, hx, hw⟩ := h
  obtain ⟨x', hx', hw'⟩ := h'
  rw [hx] at hx'
  cases hx'
  exact Option.some.inj (hw.symm.trans hw')

section Adjust

theorem holds_of_get? (hx : st.sessions.get? s = some x) : st.Holds s p ↔ x.held.contains p = true := by
  simp [Holds, hx]

theorem handed_of_get? (hx : st.sessions.get? s = some x) : st.Handed s p ↔ x.Handed p := by
  simp [Handed, hx]

theorem holds_adjust (hx : st.sessions.get? s = some x) (f : Session → Session) :
    (st.adjust s f).Holds t p ↔ if t = s then (f x).held.contains p = true else st.Holds t p := by
  by_cases ht : t = s
  · subst ht
    simp [Holds, get?_adjust, hx]
  · simp [Holds, get?_adjust, ht]

theorem handed_adjust (hx : st.sessions.get? s = some x) (f : Session → Session) :
    (st.adjust s f).Handed t p ↔ if t = s then (f x).Handed p else st.Handed t p := by
  by_cases ht : t = s
  · subst ht
    simp [Handed, get?_adjust, hx]
  · simp [Handed, get?_adjust, ht]

/-- A session changes, but not in whether it holds the pair. -/
theorem holds_adjust_same (hx : st.sessions.get? s = some x) {f : Session → Session}
    (same : (f x).held.contains p = x.held.contains p) : (st.adjust s f).Holds t p ↔ st.Holds t p := by
  rw [holds_adjust hx, same]
  split
  next ht => rw [ht, holds_of_get? hx]
  next => exact Iff.rfl

/-- A session changes, but not in whether it was handed the pair. -/
theorem handed_adjust_same (hx : st.sessions.get? s = some x) {f : Session → Session}
    (same : (f x).Handed p ↔ x.Handed p) : (st.adjust s f).Handed t p ↔ st.Handed t p := by
  rw [handed_adjust hx, same]
  split
  next ht => rw [ht, handed_of_get? hx]
  next => exact Iff.rfl

theorem queue_of_slot (hslot : st.slots.get? pair = some g) : st.queue pair = (st.gate g).queue := by
  simp [queue, hslot]

theorem queue_of_none (hslot : st.slots.get? pair = none) : st.queue pair = [] := by
  simp [queue, hslot]

@[simp] theorem queue_adjust (st : State) (s : SessionId) (f : Session → Session) (p : HashPair) :
    (st.adjust s f).queue p = st.queue p := rfl

theorem Balanced.queue_setGate (h : st.Balanced owed) (g : GateId) (y : Gate) (p : HashPair) :
    (st.setGate g y).queue p = if st.slots.get? p = some g then y.queue else st.queue p := by
  cases hslot : st.slots.get? p with
  | none => simp [queue, hslot]
  | some g' =>
    have hlt := h.slot_lt p g' hslot
    simp only [queue, slots_setGate, hslot, gate_setGate, Option.some.injEq]
    by_cases hg : g' = g
    · simp [hg, hg ▸ hlt]
    · simp [hg]

end Adjust

/-! ## Desks of balanced permits -/

/-- Whoever has the permit of a slot holds its pair, or was handed it. -/
theorem Balanced.owner_iff (h : st.Balanced owed) (hslot : st.slots.get? pair = some g) :
    st.Owner g s ↔ st.Holds s pair ∨ st.Handed s pair := by
  constructor
  · rintro ⟨x, hx, ⟨pair', hp⟩ | ⟨w, hw, rfl, hgr⟩⟩
    · have hpair := h.slot_inj pair' pair g ((h.fine s x hx).held _ _ hp) hslot
      subst hpair
      exact .inl ⟨x, hx, by simp [Keyed.contains, hp]⟩
    · exact .inr ⟨x, hx, w, hw, h.slot_inj _ _ _ ((h.fine s x hx).waiting w hw).1 hslot, hgr⟩
  · rintro (⟨x, hx, hp⟩ | ⟨x, hx, w, hw, rfl, hgr⟩)
    · obtain ⟨g', hg'⟩ := Option.isSome_iff_exists.1 hp
      have hg : g' = g := Option.some.inj (((h.fine s x hx).held _ _ hg').symm.trans hslot)
      exact ⟨x, hx, .inl ⟨pair, hg ▸ hg'⟩⟩
    · have hg : w.gate = g := Option.some.inj (((h.fine s x hx).waiting w hw).1.symm.trans hslot)
      exact ⟨x, hx, .inr ⟨w, hw, hg, hgr⟩⟩

theorem Balanced.queuer_iff (h : st.Balanced owed) (hslot : st.slots.get? pair = some g) :
    st.Queuer g s ↔ st.Queued s pair := by
  constructor
  · rintro ⟨x, hx, w, hw, rfl, hgr⟩
    exact ⟨x, hx, w, hw, h.slot_inj _ _ _ ((h.fine s x hx).waiting w hw).1 hslot, hgr⟩
  · rintro ⟨x, hx, w, hw, rfl, hgr⟩
    have hg : w.gate = g := Option.some.inj (((h.fine s x hx).waiting w hw).1.symm.trans hslot)
    exact ⟨x, hx, w, hw, hg, hgr⟩

/-- What a session waits for has a slot. -/
theorem Balanced.slot_of_waitsFor (h : st.Balanced owed) (hs : st.WaitsFor s pair) :
    ∃ g, st.slots.get? pair = some g := by
  obtain ⟨x, hx, hwp⟩ := hs
  obtain ⟨w, hw, rfl⟩ := Option.map_eq_some_iff.1 hwp
  exact ⟨w.gate, ((h.fine s x hx).waiting w hw).1⟩

theorem Balanced.handed_unique (h : st.Balanced owed) (hs : st.Handed s pair) (ht : st.Handed t pair) : s = t := by
  obtain ⟨g, hg⟩ := h.slot_of_waitsFor (waitsFor_iff.2 (.inl hs))
  exact (h.fair g).unique s t ((h.owner_iff hg).2 (.inr hs)) ((h.owner_iff hg).2 (.inr ht))

theorem Balanced.holder?_eq_some_iff (h : st.Balanced owed) : st.holder? pair = some s ↔ st.Holds s pair := by
  refine Keyed.find?_fst_eq_some_iff h.sessions_nodup (f := fun x => x.held.contains pair) ?_
  intro t t' y y' hy hy' hp hp'
  exact h.exclusive ⟨y, hy, hp⟩ ⟨y', hy', hp'⟩

theorem Session.handed_iff_any :
    (x.waiting.any fun w => w.pair = pair && w.granted) = true ↔ x.Handed pair := by
  cases hw : x.waiting with
  | none => simp [Session.Handed, hw]
  | some w => simp [Session.Handed, hw]

theorem Balanced.handed?_eq_some_iff (h : st.Balanced owed) : st.handed? pair = some s ↔ st.Handed s pair := by
  have hfind := Keyed.find?_fst_eq_some_iff h.sessions_nodup (k := s)
    (f := fun x => x.waiting.any fun w => w.pair = pair && w.granted) <| by
      intro t t' y y' hy hy' hp hp'
      exact h.handed_unique ⟨y, hy, Session.handed_iff_any.1 hp⟩ ⟨y', hy', Session.handed_iff_any.1 hp'⟩
  simp only [Session.handed_iff_any] at hfind
  exact hfind

theorem Balanced.mem_queue (h : st.Balanced owed) : s ∈ st.queue pair ↔ st.Queued s pair := by
  cases hslot : st.slots.get? pair with
  | none =>
    rw [queue_of_none hslot]
    refine ⟨by simp, fun hq => ?_⟩
    obtain ⟨g, hg⟩ := h.slot_of_waitsFor (waitsFor_iff.2 (.inr hq))
    rw [hslot] at hg
    cases hg
  | some g => rw [queue_of_slot hslot, (h.fair g).mem_queue, h.queuer_iff hslot]

/-- A desk, read off the sessions. -/
theorem Balanced.desk_eq (h : st.Balanced owed) {d : Desk} (first : Option SessionId)
    (slot : st.slots.contains pair = d.slot) (holder : ∀ t, st.Holds t pair ↔ d.holder = some t)
    (handed : ∀ t, st.Handed t pair ↔ first = some t) (line : first.toList ++ st.queue pair = d.line) :
    st.desk pair = d := by
  have hholder : st.holder? pair = d.holder := Option.ext fun t => h.holder?_eq_some_iff.trans (holder t)
  have hhanded : st.handed? pair = first := Option.ext fun t => h.handed?_eq_some_iff.trans (handed t)
  simp only [desk, slot, hholder, hhanded, line]

/-- A desk on which nothing changes. -/
theorem Balanced.desk_congr (h : st.Balanced owed) (h' : st'.Balanced owed')
    (slot : st'.slots.contains pair = st.slots.contains pair) (holds : ∀ t, st'.Holds t pair ↔ st.Holds t pair)
    (handed : ∀ t, st'.Handed t pair ↔ st.Handed t pair) (queue : st'.queue pair = st.queue pair) :
    st'.desk pair = st.desk pair :=
  h'.desk_eq (st.handed? pair) slot (fun t => (holds t).trans h.holder?_eq_some_iff.symm)
    (fun t => (handed t).trans h.handed?_eq_some_iff.symm) (congrArg ((st.handed? pair).toList ++ ·) queue)

theorem Balanced.holder_desk (h : st.Balanced owed) : (st.desk pair).holder = some s ↔ st.Holds s pair :=
  h.holder?_eq_some_iff

theorem Balanced.mem_line (h : st.Balanced owed) : s ∈ (st.desk pair).line ↔ st.WaitsFor s pair := by
  rw [desk, List.mem_append, Option.mem_toList, h.handed?_eq_some_iff, h.mem_queue, waitsFor_iff]

theorem Balanced.inUse_iff (h : st.Balanced owed) :
    (st.desk pair).InUse ↔ ∃ s, st.Holds s pair ∨ st.WaitsFor s pair := by
  constructor
  · rintro (hholder | hline)
    · obtain ⟨s, hs⟩ := Option.ne_none_iff_exists'.1 hholder
      exact ⟨s, .inl (h.holder_desk.1 hs)⟩
    · obtain ⟨s, hs⟩ := List.exists_mem_of_ne_nil _ hline
      exact ⟨s, .inr (h.mem_line.1 hs)⟩
  · rintro ⟨s, hs | hs⟩
    · exact .inl (Option.ne_none_iff_exists'.2 ⟨s, h.holder_desk.2 hs⟩)
    · exact .inr (List.ne_nil_of_mem (h.mem_line.2 hs))

/-- A pair in use has a slot. -/
theorem Balanced.slot_of_inUse (h : st.Balanced owed) (hd : (st.desk pair).InUse) :
    ∃ g, st.slots.get? pair = some g := by
  obtain ⟨s, hs | hs⟩ := h.inUse_iff.1 hd
  · obtain ⟨g, hg, -⟩ := h.owner_of_holds hs
    exact ⟨g, hg⟩
  · exact h.slot_of_waitsFor hs

theorem Balanced.nodup_line (h : st.Balanced owed) : (st.desk pair).line.Nodup := by
  have hqueue : (st.queue pair).Nodup := by
    cases hslot : st.slots.get? pair with
    | none => simp [queue_of_none hslot]
    | some g => simpa [queue_of_slot hslot] using (h.fair g).nodup
  cases hhanded : st.handed? pair with
  | none => simpa [desk, hhanded] using hqueue
  | some s =>
    -- whoever was handed the permit has left the queue
    have hnot : s ∉ st.queue pair := by
      intro hmem
      obtain ⟨x, hx, w, hw, -, hgr⟩ := h.handed?_eq_some_iff.1 hhanded
      obtain ⟨x', hx', w', hw', -, hgr'⟩ := h.mem_queue.1 hmem
      rw [hx] at hx'
      cases hx'
      rw [hw] at hw'
      cases hw'
      rw [hgr] at hgr'
      cases hgr'
    simpa [desk, hhanded] using ⟨hnot, hqueue⟩

/-- While a session holds a pair, nobody was handed it. -/
theorem Balanced.handed_of_holds (h : st.Balanced owed) (hs : st.Holds s pair) : st.handed? pair = none := by
  rw [Option.eq_none_iff_forall_ne_some]
  intro t ht
  have hhanded := h.handed?_eq_some_iff.1 ht
  obtain ⟨g, hg, howner⟩ := h.owner_of_holds hs
  -- the holder would be the one that was handed the permit, but a session does not wait for what it holds
  have hst : s = t := (h.fair g).unique s t howner ((h.owner_iff hg).2 (.inr hhanded))
  subst hst
  obtain ⟨x, hx, hp⟩ := hs
  obtain ⟨x', hx', w, hw, rfl, -⟩ := hhanded
  rw [hx] at hx'
  cases hx'
  have hnone := ((h.fine s x hx).waiting w hw).2
  simp [Keyed.contains, hnone] at hp

/-- A session that waits can go on when it is the first one in line and nobody holds the pair. -/
theorem Balanced.handed_iff_first (h : st.Balanced []) :
    st.Handed s pair ↔ (st.desk pair).holder = none ∧ (st.desk pair).line.head? = some s := by
  rw [← h.handed?_eq_some_iff]
  constructor
  · intro hs
    refine ⟨?_, by simp [desk, hs]⟩
    rw [Option.eq_none_iff_forall_ne_some]
    intro t ht
    rw [h.handed_of_holds (h.holder_desk.1 ht)] at hs
    cases hs
  · rintro ⟨hholder, hfirst⟩
    cases hhanded : st.handed? pair with
    | some t => simpa [desk, hhanded] using hfirst
    | none =>
      -- nobody queues for a permit that is there, and it would be there
      have hmem : s ∈ st.queue pair := List.mem_of_mem_head? (by simpa [desk, hhanded] using hfirst)
      obtain ⟨g, hg⟩ := h.slot_of_waitsFor (waitsFor_iff.2 (.inr (h.mem_queue.1 hmem)))
      have htaken : (st.gate g).free = false := by
        by_contra hfree
        rw [queue_of_slot hg, (h.fair g).free_queue (by simpa using hfree)] at hmem
        cases hmem
      rcases (h.fair g).taken.1 htaken with howed | ⟨t, ht⟩
      · cases howed
      · rcases (h.owner_iff hg).1 ht with ht | ht
        · rw [h.holder_desk.2 ht] at hholder
          cases hholder
        · rw [h.handed?_eq_some_iff.2 ht] at hhanded
          cases hhanded

/-! ## Reading a desk -/

/-- The session that was handed the permit is the first one in line, while nobody holds the pair. -/
theorem Balanced.handed?_eq (h : st.Balanced []) (pair : HashPair) :
    st.handed? pair = if (st.desk pair).holder = none then (st.desk pair).line.head? else none := by
  apply Option.ext
  intro s
  rw [h.handed?_eq_some_iff, h.handed_iff_first]
  split
  next hholder => exact and_iff_right hholder
  next hholder => exact iff_of_false (fun hs => hholder hs.1) (by simp)

/-- The others in line queue. -/
theorem Balanced.queue_eq (h : st.Balanced []) (pair : HashPair) :
    st.queue pair = if (st.desk pair).holder = none then (st.desk pair).line.tail else (st.desk pair).line := by
  have hline : (st.desk pair).line = (st.handed? pair).toList ++ st.queue pair := rfl
  have hhanded := h.handed?_eq pair
  split
  next hholder =>
    rw [if_pos hholder] at hhanded
    -- a line that has a first one begins with the one that was handed the permit
    cases hd : (st.desk pair).line with
    | nil =>
      rw [hd] at hline
      exact (List.append_eq_nil_iff.1 hline.symm).2
    | cons s rest =>
      rw [hd, List.head?_cons] at hhanded
      rw [hhanded, hd] at hline
      exact (List.cons.inj hline).2.symm
  next hholder =>
    rw [if_neg hholder] at hhanded
    rw [hline, hhanded]
    rfl

/-- Two states agree on a pair: on who holds it, on who was handed it, and on who queues for it, in order. -/
structure AgreeOn (st st' : State) (pair : HashPair) : Prop where
  holder : st'.holder? pair = st.holder? pair
  handed : st'.handed? pair = st.handed? pair
  queue : st'.queue pair = st.queue pair

theorem Balanced.agreeOn (h : st.Balanced []) (h' : st'.Balanced []) (hdesk : st'.desk pair = st.desk pair) :
    st.AgreeOn st' pair where
  holder := congrArg Desk.holder hdesk
  handed := by rw [h'.handed?_eq, h.handed?_eq, hdesk]
  queue := by rw [h'.queue_eq, h.queue_eq, hdesk]

end State

end Memory

end NamedLock
