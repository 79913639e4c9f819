import Mathlib.Data.List.Nodup
import NamedLock.Session.Memory

/-!
# Permits — where the permit of every gate is

A permit is free, or one session has it, or it is owed: taken from a session and not yet given back. `Balanced`
says so of every gate, together with what queues and slots have to do with it:

* whoever stands in a queue waits for that gate, and nobody waits at a free gate;
* sessions refer to a gate through the slot of its pair only, so that two sessions that want one pair meet at
  one gate.

Requests are made of a few small steps. Each of them keeps the balance, some of them while a permit is owed.
-/

namespace NamedLock

namespace Memory

/-! ## What a session has to do with a gate -/

/-- Whether a session has the permit of a gate: it holds the gate, or the permit was handed to it. -/
def Session.Owns (x : Session) (g : GateId) : Prop :=
  (∃ pair, x.held.get? pair = some g) ∨ ∃ w, x.waiting = some w ∧ w.gate = g ∧ w.granted = true

/-- Whether a session stands in the queue of a gate. -/
def Session.Queues (x : Session) (g : GateId) : Prop :=
  ∃ w, x.waiting = some w ∧ w.gate = g ∧ w.granted = false

/-- A session that refers to gates through the slots only, asks for nothing that it holds, and has nothing left
once it is finished. -/
structure Session.Fine (slots : Keyed HashPair GateId) (x : Session) : Prop where
  nodup : (Keyed.keys x.held).Nodup
  held : ∀ pair g, x.held.get? pair = some g → slots.get? pair = some g
  waiting : ∀ w, x.waiting = some w → slots.get? w.pair = some w.gate ∧ x.held.get? w.pair = none
  finished : x.finished = true → x.held = [] ∧ x.waiting = none

/-- A gate among the sessions that have its permit and those that queue for it; `owed` says whether the permit
was taken and not yet given back. -/
structure Gate.Fair (y : Gate) (owed : Prop) (owner queuer : SessionId → Prop) : Prop where
  nodup : y.queue.Nodup
  mem_queue : ∀ s, s ∈ y.queue ↔ queuer s
  free_queue : y.free = true → y.queue = []
  taken : y.free = false ↔ owed ∨ ∃ s, owner s
  unique : ∀ s s', owner s → owner s' → s = s'
  apart : owed → ∀ s, ¬owner s

theorem Gate.Fair.congr {y : Gate} {owed owed' : Prop} {owner owner' queuer queuer' : SessionId → Prop}
    (h : y.Fair owed owner queuer) (hd : owed' ↔ owed) (ho : ∀ s, owner' s ↔ owner s)
    (hq : ∀ s, queuer' s ↔ queuer s) : y.Fair owed' owner' queuer' := by
  have hd' : owed' = owed := propext hd
  have ho' : owner' = owner := funext fun s => propext (ho s)
  have hq' : queuer' = queuer := funext fun s => propext (hq s)
  subst hd' ho' hq'
  exact h

namespace Session

variable {x : Session} {pair : HashPair} {g g' : GateId}

/-! ## What changes when a session asks, gets and gives up -/

theorem owns_hold (h : x.held.get? pair = none) :
    Session.Owns { x with held := x.held.set pair g } g' ↔ x.Owns g' ∨ g' = g := by
  constructor
  · rintro (⟨pair', hp⟩ | hw)
    · rw [Keyed.get?_set] at hp
      split at hp
      · exact .inr (Option.some.inj hp).symm
      · exact .inl (.inl ⟨pair', hp⟩)
    · exact .inl (.inr hw)
  · rintro ((⟨pair', hp⟩ | hw) | rfl)
    · have hne : pair' ≠ pair := by
        rintro rfl
        rw [h] at hp
        cases hp
      exact .inl ⟨pair', by rw [Keyed.get?_set_ne _ _ hne]; exact hp⟩
    · exact .inr hw
    · exact .inl ⟨pair, Keyed.get?_set_self ..⟩

theorem owns_of_waiting_none (h : x.waiting = none) : x.Owns g' ↔ ∃ pair, x.held.get? pair = some g' := by
  simp [Owns, h]

theorem not_queues_of_waiting_none (h : x.waiting = none) : ¬x.Queues g' := by
  simp [Queues, h]

theorem owns_of_waiting {w : Waiting} (h : x.waiting = some w) :
    x.Owns g' ↔ (∃ pair, x.held.get? pair = some g') ∨ w.gate = g' ∧ w.granted = true := by
  simp [Owns, h]

theorem queues_of_waiting {w : Waiting} (h : x.waiting = some w) :
    x.Queues g' ↔ w.gate = g' ∧ w.granted = false := by
  simp [Queues, h]

@[simp] theorem held_grant (x : Session) : x.grant.held = x.held := rfl

@[simp] theorem finished_grant (x : Session) : x.grant.finished = x.finished := rfl

theorem waiting_grant {w : Waiting} (h : x.waiting = some w) :
    x.grant.waiting = some { w with granted := true } := by
  simp [grant, h]

end Session

/-- A session that waits for a pair does not hold the gate of that pair. -/
theorem Session.Fine.held_ne_gate {slots : Keyed HashPair GateId} {x : Session} (h : x.Fine slots)
    (inj : ∀ pair pair' g, slots.get? pair = some g → slots.get? pair' = some g → pair = pair')
    {w : Waiting} (hw : x.waiting = some w) (pair : HashPair) : x.held.get? pair ≠ some w.gate := by
  intro hp
  obtain ⟨hs, hn⟩ := h.waiting w hw
  have hpw : pair = w.pair := inj _ _ _ (h.held _ _ hp) hs
  rw [← hpw, hp] at hn
  cases hn

/-- A session takes a gate that it refers to through the slot of its pair. -/
theorem Session.Fine.held_set {slots : Keyed HashPair GateId} {x : Session} (h : x.Fine slots) {pair : HashPair}
    {g : GateId} (hs : slots.get? pair = some g) (pair' : HashPair) (g' : GateId)
    (hp : (x.held.set pair g).get? pair' = some g') : slots.get? pair' = some g' := by
  rw [Keyed.get?_set] at hp
  split at hp
  next e =>
    cases hp
    exact e ▸ hs
  next => exact h.held _ _ hp

namespace State

/-- Whether a session has the permit of a gate. -/
def Owner (st : State) (g : GateId) (s : SessionId) : Prop :=
  ∃ x, st.sessions.get? s = some x ∧ x.Owns g

/-- Whether a session stands in the queue of a gate. -/
def Queuer (st : State) (g : GateId) (s : SessionId) : Prop :=
  ∃ x, st.sessions.get? s = some x ∧ x.Queues g

/-- Every permit is in its place, but for those that are owed. -/
structure Balanced (owed : List GateId) (st : State) : Prop where
  sessions_nodup : (Keyed.keys st.sessions).Nodup
  slot_lt : ∀ pair g, st.slots.get? pair = some g → g < st.gates.length
  slot_inj : ∀ pair pair' g, st.slots.get? pair = some g → st.slots.get? pair' = some g → pair = pair'
  fine : ∀ s x, st.sessions.get? s = some x → x.Fine st.slots
  fair : ∀ g, (st.gate g).Fair (g ∈ owed) (st.Owner g) (st.Queuer g)
  owed_nodup : owed.Nodup

theorem Balanced.start : Balanced [] ({} : State) where
  sessions_nodup := List.nodup_nil
  slot_lt pair g h := by cases h
  slot_inj pair pair' g h := by cases h
  fine s x h := by cases h
  fair g :=
    { nodup := List.nodup_nil
      mem_queue := by simp [gate, Queuer]
      free_queue := fun _ => rfl
      taken := by simp [gate, Owner]
      unique := by simp [Owner]
      apart := by simp }
  owed_nodup := List.nodup_nil

/-! ## Views after each small step -/

theorem gate_setGate (st : State) (g g' : GateId) (y : Gate) :
    (st.setGate g y).gate g' = if g' = g ∧ g < st.gates.length then y else st.gate g' := by
  simp only [gate, setGate, List.getD_eq_getElem?_getD, List.getElem?_set]
  by_cases h : g = g'
  · subst h
    by_cases hl : g < st.gates.length <;> simp [hl]
  · simp [h, Ne.symm h]

@[simp] theorem gate_adjust (st : State) (s : SessionId) (f : Session → Session) (g : GateId) :
    (st.adjust s f).gate g = st.gate g := rfl

@[simp] theorem sessions_setGate (st : State) (g : GateId) (y : Gate) :
    (st.setGate g y).sessions = st.sessions := rfl

@[simp] theorem slots_setGate (st : State) (g : GateId) (y : Gate) :
    (st.setGate g y).slots = st.slots := rfl

@[simp] theorem slots_adjust (st : State) (s : SessionId) (f : Session → Session) :
    (st.adjust s f).slots = st.slots := rfl

@[simp] theorem length_gates_setGate (st : State) (g : GateId) (y : Gate) :
    (st.setGate g y).gates.length = st.gates.length := by
  simp [setGate]

@[simp] theorem gates_adjust (st : State) (s : SessionId) (f : Session → Session) :
    (st.adjust s f).gates = st.gates := rfl

theorem get?_adjust (st : State) (s t : SessionId) (f : Session → Session) :
    (st.adjust s f).sessions.get? t =
      if t = s then (st.sessions.get? t).map f else st.sessions.get? t :=
  Keyed.get?_adjust ..

theorem gate_of_length_le {st : State} {g : GateId} (h : st.gates.length ≤ g) : st.gate g = {} := by
  simp [gate, List.getD_eq_getElem?_getD, List.getElem?_eq_none h]

@[simp] theorem owner_setGate (st : State) (g g' : GateId) (y : Gate) (s : SessionId) :
    (st.setGate g y).Owner g' s ↔ st.Owner g' s := Iff.rfl

@[simp] theorem queuer_setGate (st : State) (g g' : GateId) (y : Gate) (s : SessionId) :
    (st.setGate g y).Queuer g' s ↔ st.Queuer g' s := Iff.rfl

section Adjust

variable {st : State} {s : SessionId} {x : Session}

theorem owner_of_get? (h : st.sessions.get? s = some x) (g : GateId) : st.Owner g s ↔ x.Owns g := by
  simp [Owner, h]

theorem queuer_of_get? (h : st.sessions.get? s = some x) (g : GateId) : st.Queuer g s ↔ x.Queues g := by
  simp [Queuer, h]

theorem owner_adjust (h : st.sessions.get? s = some x) (f : Session → Session) (g : GateId)
    (t : SessionId) : (st.adjust s f).Owner g t ↔ if t = s then (f x).Owns g else st.Owner g t := by
  by_cases ht : t = s
  · subst ht
    simp [Owner, get?_adjust, h]
  · simp [Owner, get?_adjust, ht]

theorem queuer_adjust (h : st.sessions.get? s = some x) (f : Session → Session) (g : GateId)
    (t : SessionId) :
    (st.adjust s f).Queuer g t ↔ if t = s then (f x).Queues g else st.Queuer g t := by
  by_cases ht : t = s
  · subst ht
    simp [Queuer, get?_adjust, h]
  · simp [Queuer, get?_adjust, ht]

end Adjust

section Same

variable {st : State} {s t t' : SessionId} {x : Session} {g : GateId} {p p' : Prop}

/-- Nobody else has become an owner. -/
theorem owner_ite (hx : st.sessions.get? s = some x) (hp : p ↔ x.Owns g) (t : SessionId) :
    (if t = s then p else st.Owner g t) ↔ st.Owner g t := by
  split
  next ht => rw [hp, ht, owner_of_get? hx]
  next => exact Iff.rfl

theorem queuer_ite (hx : st.sessions.get? s = some x) (hp : p ↔ x.Queues g) (t : SessionId) :
    (if t = s then p else st.Queuer g t) ↔ st.Queuer g t := by
  split
  next ht => rw [hp, ht, queuer_of_get? hx]
  next => exact Iff.rfl

/-- A gate without an owner gets one owner only. -/
theorem owner_ite_unique (hno : ∀ t, ¬st.Owner g t) (ht : if t = s then p else st.Owner g t)
    (ht' : if t' = s then p' else st.Owner g t') : t = t' := by
  split at ht
  next e =>
    split at ht'
    next e' => exact e.trans e'.symm
    next => exact absurd ht' (hno t')
  next => exact absurd ht (hno t)

end Same

section Change

variable {owed owed' : List GateId} {st : State} {s : SessionId} {x : Session} {f : Session → Session}

/-- One session changes; what it has to do with each gate afterwards is to be shown. -/
theorem Balanced.change {st' : State} (h : st.Balanced owed) (hx : st.sessions.get? s = some x)
    (hsessions : st'.sessions = st.sessions.adjust s f) (hslots : st'.slots = st.slots)
    (hgates : st'.gates.length = st.gates.length) (fine : (f x).Fine st.slots)
    (fair : ∀ g, (st'.gate g).Fair (g ∈ owed') (fun t => if t = s then (f x).Owns g else st.Owner g t)
      (fun t => if t = s then (f x).Queues g else st.Queuer g t))
    (nodup : owed'.Nodup) : st'.Balanced owed' where
  sessions_nodup := by
    simpa [hsessions] using h.sessions_nodup
  slot_lt pair g hp := by
    rw [hslots] at hp
    exact hgates ▸ h.slot_lt pair g hp
  slot_inj := by
    rw [hslots]
    exact h.slot_inj
  fine t z hz := by
    rw [hslots]
    rw [hsessions, Keyed.get?_adjust] at hz
    split at hz
    next ht =>
      rw [ht, hx] at hz
      cases hz
      exact fine
    next => exact h.fine t z hz
  fair g := by
    refine (fair g).congr Iff.rfl (fun t => ?_) (fun t => ?_)
    · rw [← owner_adjust hx]
      simp only [Owner, adjust, hsessions]
    · rw [← queuer_adjust hx]
      simp only [Queuer, adjust, hsessions]
  owed_nodup := nodup

/-- One session changes, but not in what it has to do with gates. -/
theorem Balanced.change_same (h : st.Balanced owed) (hx : st.sessions.get? s = some x)
    (fine : (f x).Fine st.slots)
    (same : ∀ g, ((f x).Owns g ↔ x.Owns g) ∧ ((f x).Queues g ↔ x.Queues g)) :
    (st.adjust s f).Balanced owed := by
  refine h.change hx rfl rfl rfl fine (fun g => ?_) h.owed_nodup
  exact (h.fair g).congr Iff.rfl (owner_ite hx (same g).1) (queuer_ite hx (same g).2)

/-- One session and one gate change, and everything that concerns other gates stays. -/
theorem Balanced.change_at {g : GateId} {y : Gate} (h : st.Balanced owed)
    (hx : st.sessions.get? s = some x) (hg : g < st.gates.length) (fine : (f x).Fine st.slots)
    (elsewhere : ∀ g', g' ≠ g →
      ((f x).Owns g' ↔ x.Owns g') ∧ ((f x).Queues g' ↔ x.Queues g') ∧ (g' ∈ owed' ↔ g' ∈ owed))
    (here : y.Fair (g ∈ owed') (fun t => if t = s then (f x).Owns g else st.Owner g t)
      (fun t => if t = s then (f x).Queues g else st.Queuer g t))
    (nodup : owed'.Nodup) : ((st.setGate g y).adjust s f).Balanced owed' := by
  refine h.change hx rfl rfl (by simp) fine (fun g' => ?_) nodup
  rw [gate_adjust, gate_setGate]
  by_cases hg' : g' = g
  · rw [if_pos ⟨hg', hg⟩, hg']
    exact here
  · rw [if_neg fun e => hg' e.1]
    obtain ⟨heo, heq, hed⟩ := elsewhere g' hg'
    exact (h.fair g').congr hed (owner_ite hx heo) (queuer_ite hx heq)

end Change

/-! ## Taking, queueing and giving up -/

section Steps

variable {owed : List GateId} {st : State} {s : SessionId} {x : Session} {pair : HashPair} {g : GateId}

/-- A permit that is there to be taken has no owner and is not owed, and nobody queues for it. -/
theorem Balanced.of_free (h : st.Balanced owed) (hfree : (st.gate g).free = true) :
    g ∉ owed ∧ (∀ t, ¬st.Owner g t) ∧ ∀ t, ¬st.Queuer g t := by
  -- a debt or an owner would make the permit taken
  have hn : ¬(g ∈ owed ∨ ∃ t, st.Owner g t) := by
    rw [← (h.fair g).taken, hfree]
    simp
  refine ⟨fun ho => hn (.inl ho), fun t ht => hn (.inr ⟨t, ht⟩), fun t ht => ?_⟩
  have hq : t ∈ (st.gate g).queue := ((h.fair g).mem_queue t).2 ht
  rw [(h.fair g).free_queue hfree] at hq
  cases hq

/-- A session that waits is not finished. -/
theorem Balanced.unfinished (h : st.Balanced owed) (hx : st.sessions.get? s = some x) {w : Waiting}
    (hw : x.waiting = some w) : x.finished = false := by
  by_contra hf
  have hnone := ((h.fine s x hx).finished (by simpa using hf)).2
  rw [hw] at hnone
  cases hnone

/-- A session takes a permit that is there. -/
theorem Balanced.take (h : st.Balanced owed) (hx : st.sessions.get? s = some x)
    (hopen : x.finished = false) (hw : x.waiting = none) (hp : x.held.get? pair = none)
    (hs : st.slots.get? pair = some g) (hfree : (st.gate g).free = true) :
    ((st.setGate g { st.gate g with free := false }).adjust s fun x =>
      { x with held := x.held.set pair g }).Balanced owed := by
  obtain ⟨hno, hnown, hnq⟩ := h.of_free hfree
  have hfine := h.fine s x hx
  -- the session owns one gate more, and that gate has no other owner
  refine h.change_at hx (h.slot_lt _ _ hs) ?_ (fun g' hg' => ⟨?_, Iff.rfl, Iff.rfl⟩) ?_ h.owed_nodup
  · exact
      { nodup := Keyed.nodup_keys_set hfine.nodup _ _
        held := hfine.held_set hs
        waiting := by simp [hw]
        finished := by simp [hopen] }
  · rw [Session.owns_hold hp]
    simp [hg']
  · exact
      { nodup := (h.fair g).nodup
        mem_queue := fun t => ((h.fair g).mem_queue t).trans (queuer_ite hx Iff.rfl t).symm
        free_queue := by simp
        taken := ⟨fun _ => .inr ⟨s, by simp [Session.owns_hold hp]⟩, fun _ => rfl⟩
        unique := fun t t' => owner_ite_unique hnown
        apart := fun ho => absurd ho hno }

/-- A session joins a queue. -/
theorem Balanced.enqueue (h : st.Balanced owed) (hx : st.sessions.get? s = some x)
    (hopen : x.finished = false) (hw : x.waiting = none) (hp : x.held.get? pair = none)
    (hs : st.slots.get? pair = some g) (hfree : (st.gate g).free = false) :
    ((st.setGate g { st.gate g with queue := (st.gate g).queue ++ [s] }).adjust s fun x =>
      { x with waiting := some { pair, gate := g } }).Balanced owed := by
  have hfine := h.fine s x hx
  have hfair := h.fair g
  -- a session that does not wait stands in no queue, so it is not in this one twice
  have hsq : s ∉ (st.gate g).queue := by
    rw [hfair.mem_queue, queuer_of_get? hx]
    exact Session.not_queues_of_waiting_none hw
  have howns : ∀ g', Session.Owns { x with waiting := some { pair, gate := g } } g' ↔ x.Owns g' := by
    intro g'
    rw [Session.owns_of_waiting_none hw, Session.owns_of_waiting rfl]
    simp
  refine h.change_at hx (h.slot_lt _ _ hs) ?_ (fun g' hg' => ⟨howns g', ?_, Iff.rfl⟩) ?_ h.owed_nodup
  · exact
      { nodup := hfine.nodup
        held := hfine.held
        waiting := fun w e => by
          cases e
          exact ⟨hs, hp⟩
        finished := by simp [hopen] }
  · rw [Session.queues_of_waiting rfl]
    simp [Ne.symm hg', Session.not_queues_of_waiting_none hw]
  · have hnodup : ((st.gate g).queue ++ [s]).Nodup :=
      List.nodup_append.2 ⟨hfair.nodup, by simp, fun a ha b hb => by
        rw [List.mem_singleton.1 hb]
        exact fun e => hsq (e ▸ ha)⟩
    have hmem : ∀ t, t ∈ (st.gate g).queue ++ [s] ↔
        if t = s then Session.Queues { x with waiting := some { pair, gate := g } } g
        else st.Queuer g t := by
      intro t
      rw [List.mem_append, List.mem_singleton, hfair.mem_queue]
      by_cases ht : t = s
      · simp [ht, Session.queues_of_waiting]
      · simp [ht]
    exact Gate.Fair.congr ⟨hnodup, hmem, by simp [hfree], hfair.taken, hfair.unique, hfair.apart⟩
      Iff.rfl (owner_ite hx (howns g)) fun _ => Iff.rfl

/-- A session that was handed the permit it waits for takes it. -/
theorem Balanced.admit (h : st.Balanced owed) (hx : st.sessions.get? s = some x) {w : Waiting}
    (hw : x.waiting = some w) (hgr : w.granted = true) :
    (st.adjust s fun x => { x with held := x.held.set w.pair w.gate, waiting := none }).Balanced owed := by
  have hfine := h.fine s x hx
  have hopen := h.unfinished hx hw
  obtain ⟨hslot, hnew⟩ := hfine.waiting w hw
  -- handed over or held, the permit is with the session: for the gate nothing changes
  refine h.change_same hx ?_ fun g => ⟨?_, ?_⟩
  · exact
      { nodup := Keyed.nodup_keys_set hfine.nodup _ _
        held := hfine.held_set hslot
        waiting := by simp
        finished := by simp [hopen] }
  · rw [Session.owns_hold (x := { x with waiting := none }) hnew, Session.owns_of_waiting_none rfl,
      Session.owns_of_waiting hw]
    simp [hgr, eq_comm]
  · rw [Session.queues_of_waiting hw]
    simp [hgr, Session.not_queues_of_waiting_none]

/-- A session leaves a queue before the permit was handed to it. -/
theorem Balanced.leave (h : st.Balanced owed) (hx : st.sessions.get? s = some x) {w : Waiting}
    (hw : x.waiting = some w) (hgr : w.granted = false) :
    ((st.setGate w.gate { st.gate w.gate with queue := (st.gate w.gate).queue.erase s }).adjust s fun x =>
      { x with waiting := none }).Balanced owed := by
  have hfine := h.fine s x hx
  have hfair := h.fair w.gate
  have hopen := h.unfinished hx hw
  have howns : ∀ g', Session.Owns { x with waiting := none } g' ↔ x.Owns g' := by
    intro g'
    rw [Session.owns_of_waiting_none rfl, Session.owns_of_waiting hw]
    simp [hgr]
  refine h.change_at hx (h.slot_lt _ _ (hfine.waiting w hw).1) ?_
    (fun g' hg' => ⟨howns g', ?_, Iff.rfl⟩) ?_ h.owed_nodup
  · exact
      { nodup := hfine.nodup
        held := hfine.held
        waiting := by simp
        finished := by simp [hopen] }
  · rw [Session.queues_of_waiting hw]
    simp [Ne.symm hg', Session.not_queues_of_waiting_none]
  · have hmem : ∀ t, t ∈ (st.gate w.gate).queue.erase s ↔
        if t = s then Session.Queues { x with waiting := none } w.gate else st.Queuer w.gate t := by
      intro t
      rw [hfair.nodup.mem_erase_iff, hfair.mem_queue]
      by_cases ht : t = s
      · simp [ht, Session.not_queues_of_waiting_none]
      · simp [ht]
    have hempty : (st.gate w.gate).free = true → (st.gate w.gate).queue.erase s = [] := by
      intro hf
      simp [hfair.free_queue hf]
    exact Gate.Fair.congr
      ⟨hfair.nodup.erase s, hmem, hempty, hfair.taken, hfair.unique, hfair.apart⟩
      Iff.rfl (owner_ite hx (howns w.gate)) fun _ => Iff.rfl

/-- A session gives up a permit that was handed to it; the permit is owed from then on. -/
theorem Balanced.revoke (h : st.Balanced owed) (hx : st.sessions.get? s = some x) {w : Waiting}
    (hw : x.waiting = some w) (hgr : w.granted = true) :
    (st.adjust s fun x => { x with waiting := none }).Balanced (w.gate :: owed) := by
  have hfine := h.fine s x hx
  have hopen := h.unfinished hx hw
  -- the permit that was handed over is the only one that the session loses
  have howner : st.Owner w.gate s := (owner_of_get? hx _).2 (.inr ⟨w, hw, rfl, hgr⟩)
  have hown : ∀ g, Session.Owns { x with waiting := none } g ↔ x.Owns g ∧ g ≠ w.gate := by
    intro g
    rw [Session.owns_of_waiting_none rfl, Session.owns_of_waiting hw]
    constructor
    · rintro ⟨pair, hp⟩
      exact ⟨.inl ⟨pair, hp⟩, fun e => hfine.held_ne_gate h.slot_inj hw pair (e ▸ hp)⟩
    · rintro ⟨hp | ⟨hg, -⟩, hne⟩
      · exact hp
      · exact absurd hg.symm hne
  have hqueues : ∀ g, Session.Queues { x with waiting := none } g ↔ x.Queues g := by
    intro g
    rw [Session.queues_of_waiting hw]
    simp [hgr, Session.not_queues_of_waiting_none]
  -- what has an owner is not owed yet
  have hnowed : w.gate ∉ owed := fun ho => (h.fair w.gate).apart ho s howner
  refine h.change hx rfl rfl rfl ?_ (fun g => ?_) (List.nodup_cons.2 ⟨hnowed, h.owed_nodup⟩)
  · exact
      { nodup := hfine.nodup
        held := hfine.held
        waiting := by simp
        finished := by simp [hopen] }
  · have hfair := h.fair g
    have hown' : ∀ t, (if t = s then Session.Owns { x with waiting := none } g else st.Owner g t) ↔
        st.Owner g t ∧ (t = s → g ≠ w.gate) := by
      intro t
      by_cases ht : t = s
      · simp [ht, hown, owner_of_get? hx]
      · simp [ht]
    have htaken : (st.gate g).free = false ↔
        g ∈ w.gate :: owed ∨ ∃ t, st.Owner g t ∧ (t = s → g ≠ w.gate) := by
      rw [hfair.taken]
      constructor
      · rintro (ho | ⟨t, ht⟩)
        · exact .inl (List.mem_cons_of_mem _ ho)
        · by_cases hg : g = w.gate
          · exact .inl (hg ▸ List.mem_cons_self)
          · exact .inr ⟨t, ht, fun _ => hg⟩
      · rintro (ho | ⟨t, ht, -⟩)
        · rcases List.mem_cons.1 ho with hg | ho
          · exact .inr ⟨s, hg ▸ howner⟩
          · exact .inl ho
        · exact .inr ⟨t, ht⟩
    have hapart : g ∈ w.gate :: owed → ∀ t, ¬(st.Owner g t ∧ (t = s → g ≠ w.gate)) := by
      rintro ho t ⟨ht, hne⟩
      rcases List.mem_cons.1 ho with hg | ho
      · exact hne (hfair.unique t s ht (hg ▸ howner)) hg
      · exact hfair.apart ho t ht
    exact Gate.Fair.congr
      ⟨hfair.nodup, hfair.mem_queue, hfair.free_queue, htaken,
        fun t t' ht ht' => hfair.unique t t' ht.1 ht'.1, hapart⟩ Iff.rfl hown' (queuer_ite hx (hqueues g))

end Steps

/-! ## Giving permits back -/

section Release

variable {owed : List GateId} {st : State} {s : SessionId} {x : Session} {g : GateId}

/-- A gate whose permit is owed has a place, and its permit is not there to be taken. -/
theorem Balanced.of_owed (h : st.Balanced owed) (ho : g ∈ owed) :
    (st.gate g).free = false ∧ g < st.gates.length := by
  have htaken : (st.gate g).free = false := (h.fair g).taken.2 (.inl ho)
  refine ⟨htaken, ?_⟩
  by_contra hl
  rw [gate_of_length_le (Nat.le_of_not_lt hl)] at htaken
  cases htaken

/-- A permit that is owed and that nobody queues for is there to be taken again. -/
theorem Balanced.free (h : st.Balanced (g :: owed)) (hq : (st.gate g).queue = []) :
    (st.setGate g { st.gate g with free := true }).Balanced owed := by
  obtain ⟨-, hg⟩ := h.of_owed List.mem_cons_self
  obtain ⟨hgo, hnodup⟩ := List.nodup_cons.1 h.owed_nodup
  refine
    { sessions_nodup := h.sessions_nodup
      slot_lt := fun pair g' hp => by simpa using h.slot_lt pair g' hp
      slot_inj := h.slot_inj
      fine := h.fine
      fair := fun g' => ?_
      owed_nodup := hnodup }
  rw [gate_setGate]
  by_cases hg' : g' = g
  · subst hg'
    have hfair := h.fair g'
    have hnown := hfair.apart List.mem_cons_self
    rw [if_pos ⟨rfl, hg⟩]
    exact
      { nodup := hfair.nodup
        mem_queue := hfair.mem_queue
        free_queue := fun _ => hq
        taken := ⟨by simp, by simp [hgo, hnown]⟩
        unique := hfair.unique
        apart := fun _ => hnown }
  · rw [if_neg fun e => hg' e.1]
    exact (h.fair g').congr (by simp [hg']) (fun _ => Iff.rfl) fun _ => Iff.rfl

/-- A permit that is owed is handed to the first session in the queue. -/
theorem Balanced.hand (h : st.Balanced (g :: owed)) {queue : List SessionId}
    (hq : (st.gate g).queue = s :: queue) :
    ((st.setGate g { st.gate g with queue }).adjust s Session.grant).Balanced owed := by
  obtain ⟨htaken, hg⟩ := h.of_owed List.mem_cons_self
  obtain ⟨hgo, hnodup⟩ := List.nodup_cons.1 h.owed_nodup
  have hfair := h.fair g
  have hnown := hfair.apart List.mem_cons_self
  -- whoever stands first in the queue is still there, and waits for this very gate
  obtain ⟨x, hx, w, hw, hwg, hgr⟩ := (hfair.mem_queue s).1 (hq ▸ List.mem_cons_self)
  have hopen := h.unfinished hx hw
  have hfine := h.fine s x hx
  have hgrant := Session.waiting_grant hw
  obtain ⟨hsq, hqnodup⟩ := List.nodup_cons.1 (hq ▸ hfair.nodup)
  refine h.change_at hx hg ?_ (fun g' hg' => ⟨?_, ?_, by simp [hg']⟩) ?_ hnodup
  · exact
      { nodup := hfine.nodup
        held := hfine.held
        waiting := fun w' e => by
          rw [hgrant] at e
          cases e
          exact hfine.waiting w hw
        finished := by simp [hopen] }
  · rw [Session.owns_of_waiting hgrant, Session.owns_of_waiting hw]
    simp [hwg, Ne.symm hg', hgr]
  · rw [Session.queues_of_waiting hgrant, Session.queues_of_waiting hw]
    simp [hwg, Ne.symm hg']
  · refine
      { nodup := hqnodup
        mem_queue := fun t => ?_
        free_queue := by simp [htaken]
        taken := ⟨fun _ => .inr ⟨s, by simp [Session.owns_of_waiting hgrant, hwg]⟩, fun _ => htaken⟩
        unique := fun t t' => owner_ite_unique hnown
        apart := fun ho => absurd ho hgo }
    have hmem := hfair.mem_queue t
    rw [hq, List.mem_cons] at hmem
    by_cases ht : t = s
    · simp [ht, hsq, Session.queues_of_waiting hgrant]
    · simpa [ht] using hmem

/-- Giving a permit back settles what is owed. -/
theorem Balanced.release (h : st.Balanced (g :: owed)) : (st.release g).Balanced owed := by
  unfold State.release
  split
  next hq => exact h.free hq
  next s queue hq => exact h.hand hq

theorem Balanced.foldl_release {gs : List GateId} (h : st.Balanced (gs ++ owed)) :
    (gs.foldl State.release st).Balanced owed := by
  induction gs generalizing st with
  | nil => exact h
  | cons g gs ih => exact ih h.release

/-- A session holds no gate twice. -/
theorem Balanced.nodup_values (h : st.Balanced owed) (hx : st.sessions.get? s = some x) :
    x.held.values.Nodup := by
  have hfine := h.fine s x hx
  refine (List.nodup_map_iff_inj_on (List.Nodup.of_map _ hfine.nodup)).2 ?_
  rintro ⟨pair, g⟩ he ⟨pair', g'⟩ he' heq
  have hs := hfine.held _ _ ((Keyed.get?_eq_some_iff hfine.nodup).2 he)
  have hs' := hfine.held _ _ ((Keyed.get?_eq_some_iff hfine.nodup).2 he')
  cases heq
  cases h.slot_inj _ _ _ hs hs'
  rfl

/-- A session gives up everything that it holds; its permits are owed from then on. -/
theorem Balanced.strip (h : st.Balanced []) (hx : st.sessions.get? s = some x) (hw : x.waiting = none)
    {f : Session → Session} (hheld : (f x).held = []) (hwaiting : (f x).waiting = none) :
    (st.adjust s f).Balanced x.held.values := by
  have hfine := h.fine s x hx
  -- a session that does not wait owns what it holds, and nothing else
  have howned : ∀ g, st.Owner g s ↔ g ∈ x.held.values := by
    intro g
    rw [owner_of_get? hx, Session.owns_of_waiting_none hw, Keyed.mem_values_iff hfine.nodup]
  have hown : ∀ g, ¬(f x).Owns g := by
    intro g
    rw [Session.owns_of_waiting_none hwaiting, hheld]
    simp
  refine h.change hx rfl rfl rfl ?_ (fun g => ?_) (h.nodup_values hx)
  · exact
      { nodup := by simp [hheld, Keyed.keys]
        held := by simp [hheld]
        waiting := by simp [hwaiting]
        finished := fun _ => ⟨hheld, hwaiting⟩ }
  · have hfair := h.fair g
    have htaken : (st.gate g).free = false ↔
        g ∈ x.held.values ∨ ∃ t, if t = s then (f x).Owns g else st.Owner g t := by
      rw [hfair.taken]
      constructor
      · rintro (ho | ⟨t, ht⟩)
        · cases ho
        · by_cases hts : t = s
          · exact .inl ((howned g).1 (hts ▸ ht))
          · exact .inr ⟨t, by simpa [hts] using ht⟩
      · rintro (ho | ⟨t, ht⟩)
        · exact .inr ⟨s, (howned g).2 ho⟩
        · split at ht
          next => exact absurd ht (hown g)
          next => exact .inr ⟨t, ht⟩
    refine
      { nodup := hfair.nodup
        mem_queue := fun t => ?_
        free_queue := hfair.free_queue
        taken := htaken
        unique := fun t t' ht ht' => ?_
        apart := fun ho t ht => ?_ }
    · rw [gate_adjust, hfair.mem_queue]
      split
      next hts =>
        rw [hts, queuer_of_get? hx]
        simp [Session.not_queues_of_waiting_none, hw, hwaiting]
      next => exact Iff.rfl
    · split at ht
      next => exact absurd ht (hown g)
      next =>
        split at ht'
        next => exact absurd ht' (hown g)
        next => exact hfair.unique t t' ht ht'
    · split at ht
      next => exact absurd ht (hown g)
      next hts => exact hts (hfair.unique t s ht ((howned g).2 ho))

/-- A slot that nobody refers to can go. -/
theorem Balanced.reclaim (h : st.Balanced owed) (pair : HashPair) : (st.reclaim pair).Balanced owed := by
  unfold State.reclaim
  split
  next g hs =>
    split
    next => exact h
    next hunused =>
      -- whoever held the pair or waited for it would refer to the gate of the slot
      have hnone : ∀ s x, (s, x) ∈ st.sessions → x.refersTo g = false := by
        simpa using hunused
      refine { h with slot_lt := ?_, slot_inj := ?_, fine := fun s x hx => ?_ }
      · intro pair' g' hp
        rw [Keyed.get?_erase] at hp
        split at hp
        next => cases hp
        next => exact h.slot_lt pair' g' hp
      · intro pair' pair'' g' hp hp'
        rw [Keyed.get?_erase] at hp hp'
        split at hp
        next => cases hp
        next =>
          split at hp'
          next => cases hp'
          next => exact h.slot_inj pair' pair'' g' hp hp'
      · have hfine := h.fine s x hx
        have href := hnone s x (Keyed.mem_of_get?_eq_some hx)
        simp only [Session.refersTo, Bool.or_eq_false_iff, List.any_eq_false] at href
        refine { hfine with held := fun pair' g' hp => ?_, waiting := fun w hw => ⟨?_, (hfine.waiting w hw).2⟩ }
        · have hne : pair' ≠ pair := by
            rintro rfl
            have hg : g' = g := Option.some.inj ((hfine.held _ _ hp).symm.trans hs)
            exact href.1 _ (Keyed.mem_of_get?_eq_some hp) (by simpa using hg)
          rw [Keyed.get?_erase_ne _ hne]
          exact hfine.held _ _ hp
        · have hne : w.pair ≠ pair := by
            intro e
            have hg : w.gate = g := Option.some.inj ((hfine.waiting w hw).1.symm.trans (e ▸ hs))
            simp [hw, hg] at href
          rw [Keyed.get?_erase_ne _ hne]
          exact (hfine.waiting w hw).1
  next => exact h

theorem Balanced.foldl_reclaim (pairs : List HashPair) (h : st.Balanced owed) :
    (pairs.foldl State.reclaim st).Balanced owed := by
  induction pairs generalizing st with
  | nil => exact h
  | cons pair pairs ih => exact ih (h.reclaim pair)

/-- Once the permits of a session are owed, they can all be given back. -/
theorem Balanced.releaseAll (hx : st.sessions.get? s = some x)
    (h : (st.adjust s fun x => { x with held := [] }).Balanced x.held.values) :
    (st.releaseAll s).Balanced [] := by
  unfold State.releaseAll
  rw [hx]
  -- every permit is given back before any slot is looked at
  refine Balanced.foldl_reclaim _ (Balanced.foldl_release ?_)
  rw [List.append_nil]
  exact h

end Release

/-! ## Opening and dropping sessions, and slots made on demand -/

section Open

variable {owed : List GateId} {st : State} {s : SessionId} {x : Session}

/-- The balance does not depend on counters and switches. -/
theorem Balanced.congr {st' : State} (h : st.Balanced owed) (hsessions : st'.sessions = st.sessions)
    (hslots : st'.slots = st.slots) (hgates : st'.gates = st.gates) : st'.Balanced owed := by
  have hgate : ∀ g, st'.gate g = st.gate g := fun g => by simp [gate, hgates]
  have howner : ∀ g t, st'.Owner g t ↔ st.Owner g t := fun g t => by simp [Owner, hsessions]
  have hqueuer : ∀ g t, st'.Queuer g t ↔ st.Queuer g t := fun g t => by simp [Queuer, hsessions]
  exact
    { sessions_nodup := hsessions ▸ h.sessions_nodup
      slot_lt := by simpa [hslots, hgates] using h.slot_lt
      slot_inj := by simpa [hslots] using h.slot_inj
      fine := by simpa [hslots, hsessions] using h.fine
      fair := fun g => by
        rw [hgate]
        exact (h.fair g).congr Iff.rfl (howner g) (hqueuer g)
      owed_nodup := h.owed_nodup }

/-- A new session has nothing to do with any gate. -/
theorem Balanced.open (h : st.Balanced owed) (hs : st.sessions.get? s = none) (id : Int) :
    Balanced owed { st with sessions := st.sessions.set s { transactionId := id } } := by
  refine
    { sessions_nodup := Keyed.nodup_keys_set h.sessions_nodup _ _
      slot_lt := h.slot_lt
      slot_inj := h.slot_inj
      fine := fun t x hx => ?_
      fair := fun g => (h.fair g).congr Iff.rfl (fun t => ?_) fun t => ?_
      owed_nodup := h.owed_nodup }
  · rw [Keyed.get?_set] at hx
    split at hx
    next =>
      cases hx
      exact ⟨by simp [Keyed.keys], by simp, by simp, by simp⟩
    next => exact h.fine t x hx
  · by_cases ht : t = s
    · simp [Owner, Session.Owns, ht, hs]
    · simp [Owner, Keyed.get?_set, ht]
  · by_cases ht : t = s
    · simp [Queuer, Session.Queues, ht, hs]
    · simp [Queuer, Keyed.get?_set, ht]

/-- A session that has nothing to do with any gate can go. -/
theorem Balanced.close (h : st.Balanced owed) (hx : st.sessions.get? s = some x) (hheld : x.held = [])
    (hw : x.waiting = none) : Balanced owed { st with sessions := st.sessions.erase s } := by
  refine
    { sessions_nodup := Keyed.nodup_keys_erase h.sessions_nodup _
      slot_lt := h.slot_lt
      slot_inj := h.slot_inj
      fine := fun t x hx => ?_
      fair := fun g => (h.fair g).congr Iff.rfl (fun t => ?_) fun t => ?_
      owed_nodup := h.owed_nodup }
  · rw [Keyed.get?_erase] at hx
    split at hx
    next => cases hx
    next => exact h.fine t x hx
  · by_cases ht : t = s
    · simp [Owner, Session.Owns, ht, hx, hheld, hw]
    · simp [Owner, Keyed.get?_erase, ht]
  · by_cases ht : t = s
    · simp [Queuer, Session.Queues, ht, hx, hw]
    · simp [Queuer, Keyed.get?_erase, ht]

theorem gate_slot (st : State) (pair : HashPair) (g : GateId) : (st.slot pair).2.gate g = st.gate g := by
  unfold slot
  split
  next => rfl
  next =>
    simp only [gate, List.getD_eq_getElem?_getD, List.getElem?_append]
    split
    next => rfl
    next hl =>
      rw [List.getElem?_eq_none (Nat.le_of_not_lt hl)]
      cases hi : g - st.gates.length with
      | zero => rfl
      | succ n => rfl

@[simp] theorem sessions_slot (st : State) (pair : HashPair) :
    (st.slot pair).2.sessions = st.sessions := by
  unfold slot
  split <;> rfl

theorem get?_slot (st : State) (pair : HashPair) :
    (st.slot pair).2.slots.get? pair = some (st.slot pair).1 := by
  unfold slot
  split
  next h => exact h
  next => simp

/-- A slot can be made for any pair. -/
theorem Balanced.slot (h : st.Balanced owed) (pair : HashPair) : (st.slot pair).2.Balanced owed := by
  have hfair : ∀ g, ((st.slot pair).2.gate g).Fair (g ∈ owed) ((st.slot pair).2.Owner g)
      ((st.slot pair).2.Queuer g) := by
    intro g
    rw [gate_slot]
    refine (h.fair g).congr Iff.rfl (fun t => ?_) fun t => ?_
    · simp [Owner]
    · simp [Queuer]
  revert hfair
  unfold State.slot
  split
  next => exact fun _ => h
  next hs =>
    intro hfair
    refine
      { sessions_nodup := h.sessions_nodup
        slot_lt := fun pair' g hp => ?_
        slot_inj := fun pair' pair'' g hp hp' => ?_
        fine := fun s x hx => ?_
        fair := hfair
        owed_nodup := h.owed_nodup }
    -- the new slot has a gate of its own, behind all others
    · rw [Keyed.get?_set] at hp
      rw [List.length_append]
      split at hp
      next =>
        cases hp
        simp
      next => exact Nat.lt_of_lt_of_le (h.slot_lt pair' g hp) (Nat.le_add_right _ _)
    · rw [Keyed.get?_set] at hp hp'
      split at hp
      next e =>
        cases hp
        split at hp'
        next e' => exact e.trans e'.symm
        next => exact absurd (h.slot_lt _ _ hp') (Nat.lt_irrefl _)
      next =>
        split at hp'
        next =>
          cases hp'
          exact absurd (h.slot_lt _ _ hp) (Nat.lt_irrefl _)
        next => exact h.slot_inj _ _ _ hp hp'
    · have hfine := h.fine s x hx
      have hne : ∀ pair' g, st.slots.get? pair' = some g → pair' ≠ pair := by
        rintro pair' g hp rfl
        rw [hs] at hp
        cases hp
      refine { hfine with held := fun pair' g hp => ?_, waiting := fun w hw => ⟨?_, (hfine.waiting w hw).2⟩ }
      · have hold := hfine.held _ _ hp
        rw [Keyed.get?_set_ne _ _ (hne _ _ hold)]
        exact hold
      · have hold := (hfine.waiting w hw).1
        rw [Keyed.get?_set_ne _ _ (hne _ _ hold)]
        exact hold

end Open

end State

end Memory

end NamedLock
