import NamedLock.Proofs.Memory.Runs

/-!
# Situation — where the permit of a pair is

A pair is free, or one session holds it, or its permit was handed to one call that was not looked at since. There is
nothing in between: a call that waits for a pair always has someone to wait for. What becomes of the call that was
handed the permit, once it is looked at, is said where the order of calls is.
-/

namespace NamedLock

open Memory (State)

namespace Ensemble

/-- The session and the pair of a call that waits for a lock. -/
def request? {σ : Type} (ens : Ensemble σ) : Call → Option (SessionId × HashPair)
  | .acquire _ a =>
    match a.stage with
    | .locking h => h.session.map fun s => (s, a.key.hashes)
    | .opening _ => none
  | .lock _ s pair => some (s, pair)
  | .handleAcquire on =>
    match ens.sessionOf? (.handle on), ens.pairOf? (.handleAcquire on) with
    | some s, some pair => some (s, pair)
    | _, _ => none
  | _ => none

/-- A call of this name waits for a pair on a session. -/
def Asks {σ : Type} (ens : Ensemble σ) (name : String) (s : SessionId) (pair : HashPair) : Prop :=
  ∃ c, ens.calls.get? name = some c ∧ ens.request? c = some (s, pair)

theorem request?_acquire {σ : Type} (ens : Ensemble σ) (i : Nat) {a : Registry.Acquisition} {x : LockHandle}
    {s : SessionId} (hstage : a.stage = .locking x) (hs : x.session = some s) :
    ens.request? (.acquire i a) = some (s, a.key.hashes) := by
  simp [request?, hstage, hs]

theorem request?_handleAcquire {σ : Type} {ens : Ensemble σ} {on : String} {x : LockHandle} {s : SessionId}
    {key : LockKey} (hon : ens.handles.get? on = some x) (hs : x.session = some s) (hk : x.key = some key) :
    ens.request? (.handleAcquire on) = some (s, key.hashes) := by
  simp [request?, sessionOf?, pairOf?, hon, hs, hk]

end Ensemble

namespace Memory

/-- Where the permit of a pair is. -/
inductive Situation
  | free
  | held (s : SessionId)
  /-- With a call that can go on when it is looked at. -/
  | handed (name : String)
  deriving DecidableEq, Repr

/-- What a situation means: nobody holds the pair or waits for it; an unfinished session holds it; a call that waits
for it was handed the permit. -/
def Situation.Fits (ens : Ensemble State) (pair : HashPair) : Situation → Prop
  | free => (∀ s, ¬ens.world.sessions.Holds s pair) ∧ ∀ name s, ¬ens.Asks name s pair
  | held s => ∃ x, ens.world.sessions.sessions.get? s = some x ∧ x.finished = false ∧ x.held.contains pair = true
  | handed name => ∃ s, ens.Asks name s pair ∧ ens.world.sessions.isWoken s = true

namespace State

variable {st : State} {s s' : SessionId} {pair : HashPair} {g : GateId}

/-! ## Permits by pair -/

/-- A session that waits for a pair. -/
def WaitsFor (st : State) (s : SessionId) (pair : HashPair) : Prop :=
  ∃ x, st.sessions.get? s = some x ∧ x.waiting.map (·.pair) = some pair

theorem isWoken_iff : st.isWoken s = true ↔
    ∃ x w, st.sessions.get? s = some x ∧ x.waiting = some w ∧ w.granted = true := by
  unfold isWoken
  cases hx : st.sessions.get? s with
  | none => simp
  | some x =>
    cases hw : x.waiting with
    | none => simp [hw]
    | some w => simp [hw]

theorem isHeld_iff : st.isHeld pair = true ↔ ∃ g, st.slots.get? pair = some g ∧ (st.gate g).free = false := by
  unfold isHeld State.probe
  cases hg : st.slots.get? pair with
  | none => simp
  | some g => cases hfree : (st.gate g).free <;> simp [tryTake, hfree]

/-- Whoever waits for a pair was handed the permit of its slot, or queues for it. -/
theorem Balanced.owner_or_queuer_of_waitsFor (h : st.Balanced []) (hs : st.WaitsFor s pair) :
    ∃ g, st.slots.get? pair = some g ∧ (st.isWoken s = true ∧ st.Owner g s ∨ st.isWoken s = false ∧ st.Queuer g s) := by
  obtain ⟨x, hx, hwp⟩ := hs
  obtain ⟨w, hw, rfl⟩ := Option.map_eq_some_iff.1 hwp
  have hslot := ((h.fine s x hx).waiting w hw).1
  refine ⟨w.gate, hslot, ?_⟩
  cases hgr : w.granted with
  | true =>
    refine .inl ⟨isWoken_iff.2 ⟨x, w, hx, hw, hgr⟩, x, hx, .inr ⟨w, hw, rfl, hgr⟩⟩
  | false =>
    refine .inr ⟨?_, x, hx, w, hw, rfl, hgr⟩
    simp [isWoken, hx, hw, hgr]

/-- The permit of a slot is with a session that holds the pair, or that waits for it and was woken. -/
theorem Balanced.holds_or_woken_of_owner (h : st.Balanced []) (hslot : st.slots.get? pair = some g)
    (hs : st.Owner g s) : st.Holds s pair ∨ st.WaitsFor s pair ∧ st.isWoken s = true := by
  obtain ⟨x, hx, ⟨pair', hp⟩ | ⟨w, hw, rfl, hgr⟩⟩ := hs
  · have hpair := h.slot_inj pair' pair g ((h.fine s x hx).held _ _ hp) hslot
    subst hpair
    exact .inl ⟨x, hx, by simp [Keyed.contains, hp]⟩
  · have hpair := h.slot_inj w.pair pair _ ((h.fine s x hx).waiting w hw).1 hslot
    exact .inr ⟨⟨x, hx, by simp [hw, hpair]⟩, isWoken_iff.2 ⟨x, w, hx, hw, hgr⟩⟩

/-- The permit of a pair is with one session at most. -/
theorem Balanced.owner_unique (h : st.Balanced []) (hs : st.Holds s pair ∨ st.WaitsFor s pair ∧ st.isWoken s = true)
    (hs' : st.Holds s' pair ∨ st.WaitsFor s' pair ∧ st.isWoken s' = true) : s = s' := by
  have howner : ∀ t, st.Holds t pair ∨ st.WaitsFor t pair ∧ st.isWoken t = true →
      ∃ g, st.slots.get? pair = some g ∧ st.Owner g t := by
    rintro t (ht | ⟨ht, hwoken⟩)
    · exact h.owner_of_holds ht
    · obtain ⟨g, hg, ⟨-, ho⟩ | ⟨hno, -⟩⟩ := h.owner_or_queuer_of_waitsFor ht
      · exact ⟨g, hg, ho⟩
      · rw [hwoken] at hno
        cases hno
  obtain ⟨g, hg, ho⟩ := howner s hs
  obtain ⟨g', hg', ho'⟩ := howner s' hs'
  rw [hg] at hg'
  cases hg'
  exact (h.fair g).unique s s' ho ho'

/-- A session does not wait for what it holds. -/
theorem Balanced.not_waitsFor_of_holds (h : st.Balanced []) (hs : st.Holds s pair) : ¬st.WaitsFor s pair := by
  rintro ⟨x, hx, hwp⟩
  obtain ⟨x', hx', hp⟩ := hs
  rw [hx] at hx'
  cases hx'
  obtain ⟨w, hw, rfl⟩ := Option.map_eq_some_iff.1 hwp
  -- a session only ever waits for what it does not hold
  have hnone := ((h.fine s x hx).waiting w hw).2
  simp [Keyed.contains, hnone] at hp

/-- A session that holds something is not finished. -/
theorem Balanced.unfinished_of_holds (h : st.Balanced []) (hs : st.Holds s pair) :
    ∃ x, st.sessions.get? s = some x ∧ x.finished = false ∧ x.held.contains pair = true := by
  obtain ⟨x, hx, hp⟩ := hs
  refine ⟨x, hx, ?_, hp⟩
  cases hf : x.finished with
  | false => rfl
  | true =>
    have hempty := ((h.fine s x hx).finished hf).1
    simp [hempty, Keyed.contains] at hp

/-- A pair is held when its permit is with a session, and only then. -/
theorem Balanced.isHeld_iff_owner (h : st.Balanced []) :
    st.isHeld pair = true ↔ ∃ s, st.Holds s pair ∨ st.WaitsFor s pair ∧ st.isWoken s = true := by
  rw [isHeld_iff]
  constructor
  · rintro ⟨g, hg, hfree⟩
    rcases (h.fair g).taken.1 hfree with howed | ⟨s, ho⟩
    · cases howed
    · exact ⟨s, h.holds_or_woken_of_owner hg ho⟩
  · rintro ⟨s, hs | ⟨hs, hwoken⟩⟩
    · obtain ⟨g, hg, ho⟩ := h.owner_of_holds hs
      exact ⟨g, hg, (h.fair g).taken.2 (.inr ⟨s, ho⟩)⟩
    · obtain ⟨g, hg, ⟨-, ho⟩ | ⟨hno, -⟩⟩ := h.owner_or_queuer_of_waitsFor hs
      · exact ⟨g, hg, (h.fair g).taken.2 (.inr ⟨s, ho⟩)⟩
      · rw [hwoken] at hno
        cases hno

/-- Nobody waits for a pair that is there to be taken. -/
theorem Balanced.isHeld_of_waitsFor (h : st.Balanced []) (hs : st.WaitsFor s pair) : st.isHeld pair = true := by
  rw [isHeld_iff]
  obtain ⟨g, hg, ⟨-, ho⟩ | ⟨-, hq⟩⟩ := h.owner_or_queuer_of_waitsFor hs
  · exact ⟨g, hg, (h.fair g).taken.2 (.inr ⟨s, ho⟩)⟩
  · refine ⟨g, hg, ?_⟩
    cases hfree : (st.gate g).free with
    | false => rfl
    -- nobody queues for a permit that is there
    | true => exact absurd hq ((h.of_free hfree).2.2 s)

end State

end Memory

/-! ## Calls and the sessions they wait on -/

namespace Ensemble

open Memory (State)

variable {ens : Ensemble State} {name name' : String} {c : Call} {s s' : SessionId} {pair : HashPair}

/-- Whatever call waits, it waits for a pair. -/
theorem Orderly.exists_asks (h : ens.Orderly) (hc : ens.calls.get? name = some c) :
    ∃ s pair, ens.Asks name s pair := by
  have hproper := h.proper name c hc
  cases c with
  | acquire i a =>
    obtain ⟨-, s, x, -, hstage, hs⟩ := h.acquisition hc
    exact ⟨s, a.key.hashes, _, hc, ens.request?_acquire i hstage hs⟩
  | lock on s pair => exact ⟨s, pair, _, hc, rfl⟩
  | handleAcquire on =>
    obtain ⟨x, s, key, hon, hs, hk⟩ := hproper
    exact ⟨s, key.hashes, _, hc, request?_handleAcquire hon hs hk⟩
  | _ => exact hproper.elim

/-- A call that waits for a pair has a line of the roster, which says so. -/
theorem Linked.line_of_request (h : ens.Linked) (hc : ens.calls.get? name = some c)
    (hr : ens.request? c = some (s, pair)) :
    ∃ d, ens.posting (placeOf name c) = some (s, d) ∧ d.awaits = some pair := by
  have hproper := h.orderly.proper name c hc
  have hline := posting_placeOf h.orderly.apart hc
  cases c with
  | acquire i a =>
    obtain ⟨-, s', x, ha, hstage, hs⟩ := h.orderly.acquisition hc
    rw [ens.request?_acquire i hstage hs] at hr
    cases hr
    exact ⟨_, hline.trans (ens.lineOf_acquire i ha), rfl⟩
  | lock on s' pair' =>
    cases hr
    have hon : ens.sessions.get? on = some s := hproper
    exact ⟨_, hline.trans (post_lock hon pair), rfl⟩
  | handleAcquire on =>
    obtain ⟨x, s', key, hon, hs, hk⟩ := hproper
    rw [request?_handleAcquire hon hs hk] at hr
    cases hr
    exact ⟨_, hline.trans (post_handleAcquire hon hs hk), rfl⟩
  | _ => cases hproper

theorem Linked.waitsFor_of_asks (h : ens.Linked) (ha : ens.Asks name s pair) :
    ens.world.sessions.WaitsFor s pair := by
  obtain ⟨c, hc, hr⟩ := ha
  obtain ⟨d, hline, hd⟩ := h.line_of_request hc hr
  obtain ⟨x, hx, hof⟩ := h.kept.keeps.get? hline
  exact ⟨x, hx, hof.awaits.trans hd⟩

/-- A session that waits by the line of its target is waited on by the call there. -/
theorem Orderly.asks_of_post (h : ens.Orderly) {t : Target} {d : Memory.Standing}
    (hline : ens.post t (ens.callOn? t) = some (s, d)) (hd : d.awaits = some pair) : ∃ name, ens.Asks name s pair := by
  obtain ⟨s', hsession, he⟩ := Option.map_eq_some_iff.1 hline
  cases he
  obtain ⟨c, hcall, hpair⟩ := Option.bind_eq_some_iff.1 hd
  obtain ⟨name, hc, ht⟩ := (callOn?_eq_some_iff h.apart).1 hcall
  have hproper := h.proper name c hc
  refine ⟨name, c, hc, ?_⟩
  cases c with
  | acquire i a => cases ht
  | lock on s' pair' =>
    cases ht
    cases hpair
    -- the name still stands for the session that the call was made on
    have hsame : some s' = some s := (show ens.sessions.get? on = some s' from hproper).symm.trans hsession
    rw [request?, Option.some.inj hsame]
  | handleAcquire on =>
    cases ht
    simp [request?, hsession, hpair]
  | _ => exact hproper.elim

/-- Whoever waits, waits in a call. -/
theorem Linked.asks_of_waitsFor (h : ens.Linked) (hs : ens.world.sessions.WaitsFor s pair) :
    ∃ name, ens.Asks name s pair := by
  obtain ⟨x, hx, hw⟩ := hs
  have hthere : ens.world.sessions.outline s ≠ none := by simp [State.outline, hx]
  -- every session is listed, and the line of one that waits is the line of a call
  obtain ⟨p, d, hline⟩ := h.kept.keeps.listed s hthere
  obtain ⟨x', hx', hof⟩ := h.kept.keeps.get? hline
  rw [hx] at hx'
  cases hx'
  have hd : d.awaits = some pair := hof.awaits.symm.trans hw
  cases p with
  | hand => cases hline
  | call name =>
    obtain ⟨⟨s', g⟩, hfiled, hline⟩ := Option.map_eq_some_iff.1 hline
    cases hline
    cases hd
    obtain ⟨a, hc, hs, -, hk⟩ := filed_call_eq_some_iff.1 hfiled
    obtain ⟨-, y, hstage⟩ := h.orderly.proper name _ hc
    have hy : y.session = some s' := by simpa [Registry.Acquisition.session?, hstage] using hs
    exact ⟨name, _, hc, hk ▸ ens.request?_acquire g.registry hstage hy⟩
  | entry i id =>
    obtain ⟨⟨s', g⟩, -, hline⟩ := Option.map_eq_some_iff.1 hline
    cases hline
    cases hd
  | handle on => exact h.orderly.asks_of_post hline hd
  | session on => exact h.orderly.asks_of_post hline hd

/-- No two calls wait on one session. -/
theorem Linked.asks_unique (h : ens.Linked) (ha : ens.Asks name s pair) (ha' : ens.Asks name' s pair) :
    name = name' := by
  obtain ⟨c, hc, hr⟩ := ha
  obtain ⟨c', hc', hr'⟩ := ha'
  obtain ⟨d, hline, -⟩ := h.line_of_request hc hr
  obtain ⟨d', hline', -⟩ := h.line_of_request hc' hr'
  -- a session is listed once, so both calls have the same place
  have hplace := h.kept.keeps.apart _ _ _ _ _ hline hline'
  cases ht : c.target? with
  | none =>
    cases ht' : c'.target? with
    | none => simpa [placeOf, ht, ht'] using hplace
    | some t' => cases t' <;> simp [placeOf, ht, ht', Target.place] at hplace
  | some t =>
    cases ht' : c'.target? with
    | none => cases t <;> simp [placeOf, ht, ht', Target.place] at hplace
    | some t' =>
      have htt : t = t' := Target.place_injective (by simpa [placeOf, ht, ht'] using hplace)
      subst htt
      exact h.orderly.apart.single name name' c c' t hc hc' ht ht'

end Ensemble

/-! ## The situation of a pair -/

namespace Memory

open Ensemble (Linked)

variable {ens : Ensemble State} {pair : HashPair}

/-- The permit of a pair is with a session that is in one of the two situations that are not free. -/
theorem isHeld_iff_fits (h : ens.Linked) :
    ens.world.sessions.isHeld pair = true ↔
      (∃ s, (Situation.held s).Fits ens pair) ∨ ∃ name, (Situation.handed name).Fits ens pair := by
  have hb := h.kept.keeps.balanced
  rw [hb.isHeld_iff_owner]
  constructor
  · rintro ⟨s, hs | ⟨hs, hwoken⟩⟩
    · exact .inl ⟨s, hb.unfinished_of_holds hs⟩
    · obtain ⟨name, ha⟩ := h.asks_of_waitsFor hs
      exact .inr ⟨name, s, ha, hwoken⟩
  · rintro (⟨s, x, hx, -, hp⟩ | ⟨name, s, ha, hwoken⟩)
    · exact ⟨s, .inl ⟨x, hx, hp⟩⟩
    · exact ⟨s, .inr ⟨h.waitsFor_of_asks ha, hwoken⟩⟩

/-- A pair whose permit is there is free, and no other pair is. -/
theorem free_fits_iff (h : ens.Linked) : Situation.free.Fits ens pair ↔ ens.world.sessions.isHeld pair = false := by
  have hb := h.kept.keeps.balanced
  rw [← Bool.not_eq_true]
  constructor
  · rintro ⟨hnone, hno⟩ hheld
    obtain ⟨s, hs | ⟨hs, -⟩⟩ := hb.isHeld_iff_owner.1 hheld
    · exact hnone s hs
    · obtain ⟨name, ha⟩ := h.asks_of_waitsFor hs
      exact hno name s ha
  · intro hfree
    constructor
    · intro s hs
      exact hfree (hb.isHeld_iff_owner.2 ⟨s, .inl hs⟩)
    · intro name s ha
      exact hfree (hb.isHeld_of_waitsFor (h.waitsFor_of_asks ha))

/-- A free pair is in no other situation. -/
theorem Situation.Fits.eq_free {sit : Situation} (h : ens.Linked) (hfits : sit.Fits ens pair)
    (hfree : Situation.free.Fits ens pair) : sit = .free := by
  have hno : ens.world.sessions.isHeld pair ≠ true := by simp [(free_fits_iff h).1 hfree]
  cases sit with
  | free => rfl
  | held s => exact absurd ((isHeld_iff_fits h).2 (.inl ⟨s, hfits⟩)) hno
  | handed name => exact absurd ((isHeld_iff_fits h).2 (.inr ⟨name, hfits⟩)) hno

/-- The session that has the permit of a pair which is not free. -/
theorem Situation.Fits.owner {sit : Situation} (h : ens.Linked) (hfits : sit.Fits ens pair) :
    sit = .free ∨ ∃ s, (ens.world.sessions.Holds s pair ∧ sit = .held s) ∨
      (∃ name, ens.Asks name s pair ∧ sit = .handed name) ∧ ens.world.sessions.WaitsFor s pair ∧
        ens.world.sessions.isWoken s = true := by
  cases sit with
  | free => exact .inl rfl
  | held s =>
    obtain ⟨x, hx, -, hp⟩ := hfits
    exact .inr ⟨s, .inl ⟨⟨x, hx, hp⟩, rfl⟩⟩
  | handed name =>
    obtain ⟨s, ha, hwoken⟩ := hfits
    exact .inr ⟨s, .inr ⟨⟨name, ha, rfl⟩, h.waitsFor_of_asks ha, hwoken⟩⟩

theorem fits_unique (h : ens.Linked) {sit sit' : Situation} (hfits : sit.Fits ens pair)
    (hfits' : sit'.Fits ens pair) : sit = sit' := by
  have hb := h.kept.keeps.balanced
  rcases hfits.owner h with rfl | ⟨s, hs⟩
  · exact (hfits'.eq_free h hfits).symm
  rcases hfits'.owner h with rfl | ⟨s', hs'⟩
  · exact hfits.eq_free h hfits'
  -- both situations name the session that has the permit
  have hsame : s = s' := hb.owner_unique (hs.imp And.left And.right) (hs'.imp And.left And.right)
  subst hsame
  rcases hs with ⟨hs, rfl⟩ | ⟨⟨name, ha, rfl⟩, hs, -⟩
  · rcases hs' with ⟨-, rfl⟩ | ⟨-, hs', -⟩
    · rfl
    · exact absurd hs' (hb.not_waitsFor_of_holds hs)
  · rcases hs' with ⟨hs', -⟩ | ⟨⟨name', ha', rfl⟩, -⟩
    · exact absurd hs (hb.not_waitsFor_of_holds hs')
    · rw [h.asks_unique ha ha']

theorem exists_fits (h : ens.Linked) : ∃ sit : Situation, sit.Fits ens pair := by
  cases hheld : ens.world.sessions.isHeld pair with
  | false => exact ⟨.free, (free_fits_iff h).2 hheld⟩
  | true =>
    rcases (isHeld_iff_fits h).1 hheld with ⟨s, hs⟩ | ⟨name, hs⟩
    · exact ⟨.held s, hs⟩
    · exact ⟨.handed name, hs⟩

end Memory

end NamedLock
