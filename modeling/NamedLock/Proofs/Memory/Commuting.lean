import NamedLock.Proofs.Memory.Service

/-!
# Commuting — giving permits back in any order

A session gives back several permits, and then looks at several slots. Two permits go to different gates and wake
different sessions, or the same session twice; a slot is removed for what the sessions refer to, which removing slots
does not change. So the order does not matter. Nor does it matter for what becomes of the locks whether the session is
marked as finished, and how the counts and switches stand.
-/

namespace NamedLock

namespace Memory

/-- A gate that has given its permit back: to the first in the queue, or to nobody. -/
def Gate.passOn (y : Gate) : Gate := { free := y.free || y.queue.isEmpty, queue := y.queue.tail }

/-- A session that has been committed. -/
def Session.finish (x : Session) : Session := { x with finished := true }

namespace State

/-- Hands a session the permit that it waits for, if there is such a session. -/
def wake (st : State) : Option SessionId → State
  | none => st
  | some s => st.adjust s Session.grant

/-- Whether nobody refers to the slot of a pair. -/
def disused (st : State) (pair : HashPair) : Bool :=
  (st.slots.get? pair).all fun g => !st.sessions.any fun e => e.2.refersTo g

/-- The locks of one state under the counts and switches of another one. -/
def under (st c : State) : State := { c with gates := st.gates, slots := st.slots, sessions := st.sessions }

variable (st : State) (s : SessionId) (g g' : GateId) (pair pair' : HashPair)

theorem release_eq : st.release g = (st.setGate g (st.gate g).passOn).wake (st.gate g).queue.head? := by
  unfold release
  cases h : (st.gate g).queue with
  | nil => simp [Gate.passOn, wake, h]
  | cons t queue => simp [Gate.passOn, wake, h]

theorem reclaim_eq_of_disused :
    st.reclaim pair = if st.disused pair then { st with slots := st.slots.erase pair } else st := by
  unfold reclaim disused
  cases h : st.slots.get? pair with
  | none => simp [Keyed.erase_of_get?_eq_none h]
  | some g => cases hused : st.sessions.any fun e => e.2.refersTo g <;> simp [hused]

/-! ## Two permits -/

theorem wake_comm (o o' : Option SessionId) : (st.wake o).wake o' = (st.wake o').wake o := by
  cases o with
  | none => rfl
  | some t =>
    cases o' with
    | none => rfl
    | some t' =>
      simp only [wake, adjust]
      rw [Keyed.adjust_comm]
      exact fun _ _ => rfl

theorem setGate_wake (y : Gate) (o : Option SessionId) : (st.wake o).setGate g y = (st.setGate g y).wake o := by
  cases o <;> rfl

theorem gate_wake (o : Option SessionId) : (st.wake o).gate g = st.gate g := by
  cases o <;> rfl

theorem gate_release_of_ne (h : g' ≠ g) : (st.release g).gate g' = st.gate g' := by
  rw [release_eq, gate_wake, gate_setGate, if_neg fun e => h e.1]

/-- Two permits go back in any order. -/
theorem release_comm : (st.release g).release g' = (st.release g').release g := by
  by_cases h : g' = g
  · rw [h]
  have hset : ∀ y y', (st.setGate g y).setGate g' y' = (st.setGate g' y').setGate g y := by
    intro y y'
    simp only [setGate, List.set_comm _ _ (Ne.symm h)]
  -- both gates are set before anybody is woken, so that the square closes
  calc
    (st.release g).release g'
        = ((st.release g).setGate g' (st.gate g').passOn).wake (st.gate g').queue.head? := by
          rw [release_eq (st.release g), gate_release_of_ne _ _ _ h]
    _ = (((st.setGate g (st.gate g).passOn).setGate g' (st.gate g').passOn).wake (st.gate g).queue.head?).wake
          (st.gate g').queue.head? := by rw [release_eq st g, setGate_wake]
    _ = (((st.setGate g' (st.gate g').passOn).setGate g (st.gate g).passOn).wake (st.gate g').queue.head?).wake
          (st.gate g).queue.head? := by rw [hset, wake_comm]
    _ = ((st.release g').setGate g (st.gate g).passOn).wake (st.gate g).queue.head? := by
          rw [release_eq st g', setGate_wake]
    _ = (st.release g').release g := by rw [release_eq (st.release g'), gate_release_of_ne _ _ _ (Ne.symm h)]

theorem foldl_release_perm {gs gs' : List GateId} (h : gs.Perm gs') : gs.foldl release st = gs'.foldl release st :=
  h.foldl_eq' (fun g _ g' _ st => release_comm st g g') st

/-! ## Two slots -/

theorem disused_reclaim_of_ne (h : pair' ≠ pair) : (st.reclaim pair).disused pair' = st.disused pair' := by
  rw [reclaim_eq_of_disused]
  split
  next => simp [disused, Keyed.get?_erase_ne _ h]
  next => rfl

/-- Two slots are looked at in any order. -/
theorem reclaim_comm : (st.reclaim pair).reclaim pair' = (st.reclaim pair').reclaim pair := by
  by_cases h : pair' = pair
  · rw [h]
  rw [reclaim_eq_of_disused (st.reclaim pair), disused_reclaim_of_ne _ _ _ h,
    reclaim_eq_of_disused (st.reclaim pair'), disused_reclaim_of_ne _ _ _ (Ne.symm h),
    reclaim_eq_of_disused st pair, reclaim_eq_of_disused st pair']
  by_cases hp : st.disused pair = true
  · by_cases hp' : st.disused pair' = true
    · simp [hp, hp', Keyed.erase_comm]
    · simp [hp, hp']
  · by_cases hp' : st.disused pair' = true
    · simp [hp, hp']
    · simp [hp, hp']

theorem foldl_reclaim_perm {pairs pairs' : List HashPair} (h : pairs.Perm pairs') :
    pairs.foldl reclaim st = pairs'.foldl reclaim st :=
  h.foldl_eq' (fun p _ p' _ st => reclaim_comm st p p') st

/-- What a session holds may be listed in any order when it is given back. -/
theorem releaseAll_perm {st : State} {s : SessionId} {x : Session} (hx : st.sessions.get? s = some x)
    {held : Keyed HashPair GateId} (h : held.Perm x.held) :
    (st.adjust s fun x => { x with held }).releaseAll s = st.releaseAll s := by
  have hx' : (st.adjust s fun x => { x with held }).sessions.get? s = some { x with held } := by
    simp [get?_adjust, hx]
  have hstrip : ((st.adjust s fun x => { x with held }).adjust s fun x => { x with held := [] }) =
      st.adjust s fun x => { x with held := [] } := by
    simp only [adjust, Keyed.adjust_adjust]
    rfl
  unfold releaseAll
  rw [hx', hx]
  dsimp only
  -- permits and slots come in the order of the listing, each in a pass of its own
  have hvalues : held.values.Perm x.held.values := h.map Prod.snd
  have hkeys : held.keys.Perm x.held.keys := h.map Prod.fst
  rw [hstrip, foldl_release_perm _ hvalues, foldl_reclaim_perm _ hkeys]

/-! ## Marks, counts and switches -/

/-- A change of states with which giving back commutes step by step: it commutes with giving back everything, when it
leaves what the session holds. -/
theorem releaseAll_hom {f : State → State} (hrelease : ∀ st g, (f st).release g = f (st.release g))
    (hreclaim : ∀ st pair, (f st).reclaim pair = f (st.reclaim pair))
    (hstrip : (f st).adjust s (fun x => { x with held := [] }) = f (st.adjust s fun x => { x with held := [] }))
    (hheld : ((f st).sessions.get? s).map (·.held) = (st.sessions.get? s).map (·.held)) :
    (f st).releaseAll s = f (st.releaseAll s) := by
  have hreleases : ∀ (gs : List GateId) (st : State), gs.foldl release (f st) = f (gs.foldl release st) :=
    fun _ _ => List.foldl_hom f hrelease
  have hreclaims : ∀ (pairs : List HashPair) (st : State), pairs.foldl reclaim (f st) = f (pairs.foldl reclaim st) :=
    fun _ _ => List.foldl_hom f hreclaim
  unfold releaseAll
  cases hx : st.sessions.get? s with
  | none =>
    rw [hx, Option.map_none, Option.map_eq_none_iff] at hheld
    rw [hheld]
  | some x =>
    rw [hx, Option.map_some, Option.map_eq_some_iff] at hheld
    obtain ⟨y, hy, hsame⟩ := hheld
    rw [hy]
    dsimp only
    rw [hsame, hstrip, hreleases, hreclaims]

theorem disused_finish : (st.adjust s Session.finish).disused pair = st.disused pair := by
  have hany : ∀ g, ((st.adjust s Session.finish).sessions.any fun e => e.2.refersTo g) =
      st.sessions.any fun e => e.2.refersTo g :=
    fun g => Keyed.any_adjust st.sessions s (f := Session.finish) (p := fun x => x.refersTo g) fun _ => rfl
  simp only [disused, hany, slots_adjust]

theorem wake_finish (o : Option SessionId) :
    (st.adjust s Session.finish).wake o = (st.wake o).adjust s Session.finish := by
  cases o with
  | none => rfl
  | some t =>
    simp only [wake, adjust]
    rw [Keyed.adjust_comm]
    exact fun _ _ => rfl

theorem release_finish : (st.adjust s Session.finish).release g = (st.release g).adjust s Session.finish := by
  rw [release_eq, release_eq, ← wake_finish]
  rfl

theorem reclaim_finish : (st.adjust s Session.finish).reclaim pair = (st.reclaim pair).adjust s Session.finish := by
  rw [reclaim_eq_of_disused, reclaim_eq_of_disused, disused_finish]
  split <;> rfl

/-- A session that is marked gives back the same as before. -/
theorem releaseAll_finish : (st.adjust s Session.finish).releaseAll s = (st.releaseAll s).adjust s Session.finish := by
  refine releaseAll_hom (f := fun st => st.adjust s Session.finish) st s ?_ ?_ ?_ ?_
  · exact fun st g => release_finish st s g
  · exact fun st pair => reclaim_finish st s pair
  · simp only [adjust]
    rw [Keyed.adjust_comm]
    exact fun _ _ => rfl
  · rw [get?_adjust, if_pos rfl, Option.map_map]
    rfl

theorem release_under (c : State) : (st.under c).release g = (st.release g).under c := by
  have hgate : (st.under c).gate g = st.gate g := rfl
  rw [release_eq, release_eq, hgate]
  cases (st.gate g).queue.head? <;> rfl

theorem reclaim_under (c : State) : (st.under c).reclaim pair = (st.reclaim pair).under c := by
  have hdisused : (st.under c).disused pair = st.disused pair := rfl
  rw [reclaim_eq_of_disused, reclaim_eq_of_disused, hdisused]
  split <;> rfl

/-- Giving back everything does not look at counts and switches. -/
theorem releaseAll_under (c : State) : (st.under c).releaseAll s = (st.releaseAll s).under c := by
  refine releaseAll_hom (f := fun st => st.under c) st s ?_ ?_ rfl rfl
  · exact fun st g => release_under st g c
  · exact fun st pair => reclaim_under st pair c

end State

end Memory

end NamedLock
