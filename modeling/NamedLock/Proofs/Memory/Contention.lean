import NamedLock.Proofs.Memory.Exclusion
import NamedLock.Proofs.Memory.Withdrawal

/-!
# Contention — who waits for whom

Whether an acquisition waits is decided by the hashes of its key: it is granted when nobody holds the pair or waits
for it, and waits otherwise. Whether it is looked at again, gets the pair, is unlocked or is cancelled, nothing changes
for another pair. So two keys contend when they have one class and resources with one hash, and only then.
-/

namespace NamedLock

open Memory (Kept Roster State backend deskOf)

/-! ## Keys -/

/-- The labels of the two classes have different hashes. -/
theorem LockClass.hash_label_injective {c c' : LockClass} (h : Fnv.hash c.label = Fnv.hash c'.label) : c = c' := by
  cases c with
  | migrations =>
    cases c' with
    | migrations => rfl
    | dinosaurs => exact absurd h (by decide +kernel)
  | dinosaurs =>
    cases c' with
    | migrations => exact absurd h (by decide +kernel)
    | dinosaurs => rfl

theorem LockKey.hashes_eq_iff {k k' : LockKey} :
    k.hashes = k'.hashes ↔ k.lockClass = k'.lockClass ∧ Fnv.hash k.resourceId = Fnv.hash k'.resourceId := by
  constructor
  · intro h
    obtain ⟨hresource, hclass⟩ := Prod.mk.inj h
    exact ⟨LockClass.hash_label_injective hclass, hresource⟩
  · rintro ⟨hclass, hresource⟩
    rw [hashes, hashes, hclass, hresource]

namespace Memory

namespace State

variable {st : State} {s : SessionId} {x : Session} {pair : HashPair}

/-! ## A session that asks -/

@[simp] theorem counts_slot (st : State) (pair : HashPair) : (st.slot pair).2.counts = st.counts := by
  unfold slot
  split <;> rfl

/-- No request for a pair changes the counts or the switches. -/
theorem counts_lock (st : State) (s : SessionId) (pair : HashPair) : (st.lock s pair).2.counts = st.counts := by
  have hslot := counts_slot st pair
  unfold lock
  split
  next => rfl
  next x _ =>
    split
    next => rfl
    next =>
      split
      next => rfl
      next =>
        generalize st.slot pair = r at hslot ⊢
        obtain ⟨g, st₁⟩ := r
        dsimp only at hslot ⊢
        -- the permit is taken or the queue is joined, and neither counts
        cases hfree : (st₁.gate g).free with
        | true =>
          rw [show st₁.tryTake g = (true, _) from if_pos hfree]
          exact hslot
        | false =>
          rw [show st₁.tryTake g = (false, st₁) from if_neg (by simp [hfree])]
          exact hslot

/-- An open session that does not have a pair comes to its desk: it is answered at once when the pair is not in use,
and waits otherwise. -/
theorem Balanced.lock_answer (h : st.Balanced []) (hx : st.sessions.get? s = some x) (hopen : x.finished = false)
    (hw : x.waiting = none) (pair : HashPair) (hnew : x.held.get? pair = none) (hfail : st.failLocks = false) :
    (st.lock s pair).1 = (if (st.desk pair).InUse then .pending else .ready (.ok ())) ∧
      ∀ p, (st.lock s pair).2.desk p = if p = pair then (st.desk p).ask s else st.desk p := by
  have hnot : x.held.contains pair = false := by simp [Keyed.contains, hnew]
  rcases h.desk_lock hx hw pair with ⟨e, hlock⟩ | ⟨hheld, -⟩ | ⟨-, hlock⟩
  · -- with the switch off, an open session is not refused
    obtain ⟨-, -, g, ⟨hanswer, -⟩ | ⟨hanswer, -⟩⟩ := h.ask hx hopen hw hnew hfail
    · rw [hlock] at hanswer
      cases hanswer
    · rw [hlock] at hanswer
      cases hanswer
  · rw [holds_of_get? hx, hnot] at hheld
    cases hheld
  · exact hlock

/-- A session that was just opened. -/
theorem begin_of_allowed (st : State) (s : SessionId) (hbegin : st.failNextBegin = false) :
    (st.begin s).1 = .ok () ∧
      (st.begin s).2.sessions.get? s = some { transactionId := st.lastTransactionId + 1 } ∧
      (st.begin s).2.failNextBegin = false ∧ (st.begin s).2.failLocks = st.failLocks := by
  simp [State.begin, hbegin]

end State

/-! ## Requests through the world -/

theorem poll_lock (w : World State) (s : SessionId) (pair : HashPair) :
    (w.poll backend .first s (.lock pair)).1 = (w.sessions.lock s pair).1 ∧
      (w.poll backend .first s (.lock pair)).2.sessions = (w.sessions.lock s pair).2 := ⟨rfl, rfl⟩

/-- A handle is opened when the next session is not to be refused. -/
theorem create_of_allowed (span : Option Log.Span) (key : LockKey) {w : World State}
    (hbegin : w.sessions.failNextBegin = false) :
    ∃ h, (LockHandle.create backend span key w).1 = .finished (.ok h) := by
  have hcreate : LockHandle.create backend span key w =
      LockHandle.begin backend .first span key (w.begins + 1) w.number.2 := rfl
  rw [hcreate, LockHandle.begin]
  rcases hst : w.sessions.begin (w.begins + 1) with ⟨answer, st⟩
  have hpoll : w.number.2.poll backend .first (w.begins + 1) .begin = (.ready answer,
      { w.number.2 with sessions := st, traffic := w.traffic ++ [.asked (w.begins + 1) .begin] }) := by
    simp [World.poll, World.number, backend, State.start, hst]
  have hok : answer = .ok () := by
    have hallowed := (State.begin_of_allowed w.sessions (w.begins + 1) hbegin).1
    rwa [hst] at hallowed
  rw [hpoll, hok]
  dsimp only
  unfold LockHandle.identify
  exact ⟨_, rfl⟩

/-- An acquisition that was not refused: its session came to the desk of its pair, and nothing else happened there or
at any other desk. -/
structure Came (pair : HashPair) (w w' : World State) : Prop where
  desk : ∀ p, deskOf w' p = if p = pair then (deskOf w p).ask (w.begins + 1) else deskOf w p
  failNextBegin : w'.sessions.failNextBegin = w.sessions.failNextBegin
  failLocks : w'.sessions.failLocks = w.sessions.failLocks

end Memory

namespace Registry

variable {R : Roster Place} {i : Nat} {key : LockKey} {reg : Registry} {w : World State}

/-- With the switches off an acquisition is granted when its pair is not in use, and waits otherwise; either way its
session comes to the desk of the pair. -/
theorem acquire_decides (hand : R .hand = none) (posted : Posted R i key reg) (hw : Kept w R)
    (hbegin : w.sessions.failNextBegin = false) (hlocks : w.sessions.failLocks = false) (token : String) :
    ∃ reg' w', Memory.Came key.hashes w w' ∧
      (¬(deskOf w key.hashes).InUse ∧ acquire backend token key reg w = (.finished (.ok token), reg', w') ∨
        (deskOf w key.hashes).InUse ∧ ∃ h, acquire backend token key reg w =
          (.suspended { token, key, stage := .locking h }, reg', w')) := by
  obtain ⟨h, hcreate⟩ := Memory.create_of_allowed (some (acquireSpan key)) key hbegin
  have hsessions := Memory.sessions_create (some (acquireSpan key)) key w
  have hsettles : Settles R i token key reg (w.begins + 1) (acquire backend token key reg w) :=
    acquire_settles hand posted hw
  have hopened : ∀ p, deskOf _ p = deskOf w p := hw.desk_create (some (acquireSpan key)) key
  unfold acquire at hsettles ⊢
  rcases hw.create hand (some (acquireSpan key)) key with ⟨e, w₁, hfails, -⟩ | ⟨h', w₁, hok, hs, hk, hw₁⟩
  · rw [hfails] at hcreate
    cases hcreate
  rw [hok] at hsessions hopened hsettles ⊢
  obtain ⟨-, hget, hbegin₁, hlocks₁⟩ := State.begin_of_allowed w.sessions (w.begins + 1) hbegin
  rw [← hsessions] at hget hbegin₁ hlocks₁
  obtain ⟨hlock, hdesk⟩ :=
    hw₁.keeps.balanced.lock_answer hget rfl rfl key.hashes rfl (hlocks₁.trans hlocks)
  have hcame : ∀ w' : World State, w'.sessions = (w₁.sessions.lock (w.begins + 1) key.hashes).2 →
      Memory.Came key.hashes w w' := by
    intro w' hw'
    obtain ⟨-, -, -, hbegin', hlocks', -⟩ :=
      State.counts_eq_iff.1 (State.counts_lock w₁.sessions (w.begins + 1) key.hashes)
    refine ⟨fun p => ?_, ?_, ?_⟩
    · calc
        deskOf w' p = (w₁.sessions.lock (w.begins + 1) key.hashes).2.desk p := congrArg (State.desk · p) hw'
        _ = if p = key.hashes then (deskOf w₁ p).ask (w.begins + 1) else deskOf w₁ p := hdesk p
        _ = if p = key.hashes then (deskOf w p).ask (w.begins + 1) else deskOf w p := by rw [hopened]
    · rw [hw', hbegin', hbegin₁, hbegin]
    · rw [hw', hlocks', hlocks₁]
  dsimp only [opened] at hsettles ⊢
  unfold lock LockHandle.acquire at hsettles ⊢
  rw [hs, hk] at hsettles ⊢
  dsimp only at hsettles ⊢
  -- the announcement changes no session
  obtain ⟨hanswer, hw₂⟩ := Memory.poll_lock
    (LockHandle.announce .first (some (acquireSpan key)) key h'.transactionId w₁) (w.begins + 1) key.hashes
  generalize World.poll backend .first _ _ _ = r at hanswer hw₂ hsettles ⊢
  obtain ⟨answer, w₂⟩ := r
  replace hanswer : answer = if (deskOf w₁ key.hashes).InUse then .pending else .ready (.ok ()) := hanswer.trans hlock
  rw [hopened] at hanswer
  by_cases hin : (deskOf w key.hashes).InUse
  · rw [if_pos hin] at hanswer
    subst hanswer
    exact ⟨reg, w₂, hcame w₂ hw₂, .inr ⟨hin, h', rfl⟩⟩
  · rw [if_neg hin] at hanswer
    subst hanswer
    have hentered := sessions_enter (hsettles.alone rfl) token { h' with acquiredAt := w₂.now } w₂
    exact ⟨_, _, hcame _ (hentered.trans hw₂), .inl ⟨hin, rfl⟩⟩

end Registry

/-! ## Events -/

namespace Ensemble

variable {ens : Ensemble State} {name : String} {key : LockKey} {i : Nat} {p : HashPair}

/-- An acquisition under a new name changes no desk but the one of its pair. -/
theorem Linked.desk_acquire (h : ens.Linked) (hname : ens.calls.get? name = none) (token : String) (i : Nat)
    (hp : p ≠ key.hashes) :
    deskOf (step backend ens (.acquire name token key i)).2.world p = deskOf ens.world p := by
  simp only [step]
  cases hreg : ens.registries[i]? with
  | none => rfl
  | some reg =>
    have posted := posted_posting h.orderly.tidy hreg key
    have hcomes := Registry.acquire_moves token (posting_hand ens) posted h.kept p
    dsimp only
    generalize Registry.acquire backend token key reg ens.world = r at hcomes ⊢
    obtain ⟨progress, reg', w⟩ := r
    have hsame : deskOf w p = deskOf ens.world p := by
      generalize deskOf w p = d at hcomes
      cases hcomes with
      | rests => rfl
      | comes hs => exact absurd hs.2 hp
    cases progress with
    | suspended a =>
      have hkeep : (keep backend { ens.setRegistry i reg' with world := w } name (.acquire i a)).2.world = w := by
        apply world_keep_of_none
        exact hname
      exact (congrArg (deskOf · p) hkeep).trans hsame
    | finished answer => cases answer <;> exact hsame

/-- With the switches off an acquisition under a new name is granted when its pair is not in use, and waits
otherwise. -/
theorem Linked.acquire_decides (h : ens.Linked) (hname : ens.calls.get? name = none) (hi : i < ens.registries.length)
    (hbegin : ens.world.sessions.failNextBegin = false) (hlocks : ens.world.sessions.failLocks = false)
    (token : String) (key : LockKey) :
    ∃ ens', step backend ens (.acquire name token key i) =
        (if (deskOf ens.world key.hashes).InUse then .pending else .token name token, ens') ∧
      Memory.Came key.hashes ens.world ens'.world ∧
      ∀ other, other ≠ name → ens'.calls.get? other = ens.calls.get? other := by
  have hreg : ens.registries[i]? = some ens.registries[i] := List.getElem?_eq_getElem hi
  have posted := posted_posting h.orderly.tidy hreg key
  obtain ⟨reg', w, hw, ⟨hin, hacquire⟩ | ⟨hin, x, hacquire⟩⟩ :=
    Registry.acquire_decides (posting_hand ens) posted h.kept hbegin hlocks token
  · refine ⟨{ ens.setRegistry i reg' with world := w }, ?_, hw, fun _ _ => rfl⟩
    rw [if_neg hin]
    simp only [step, hreg, hacquire, acquired]
  · let c : Call := .acquire i { token, key, stage := .locking x }
    have hkeep : (keep backend { ens.setRegistry i reg' with world := w } name c).2.world = w := by
      apply world_keep_of_none
      exact hname
    refine ⟨(keep backend { ens.setRegistry i reg' with world := w } name c).2, ?_, ?_, ?_⟩
    · rw [if_pos hin]
      simp only [step, hreg, hacquire, acquired]
      rfl
    · rw [hkeep]
      exact hw
    · intro other hother
      exact Keyed.get?_set_ne _ _ hother

/-- It waits just when the pair is in use. -/
theorem Linked.pending_iff (h : ens.Linked) (hname : ens.calls.get? name = none) (hi : i < ens.registries.length)
    (hbegin : ens.world.sessions.failNextBegin = false) (hlocks : ens.world.sessions.failLocks = false)
    (token : String) (key : LockKey) :
    (step backend ens (.acquire name token key i)).1 = .pending ↔ (deskOf ens.world key.hashes).InUse := by
  obtain ⟨ens', hstep, -, -⟩ := h.acquire_decides hname hi hbegin hlocks token key
  rw [hstep]
  split
  next hin => exact iff_of_true rfl hin
  next hin => exact iff_of_false (by simp) hin

/-- It is granted just when the pair is not in use. -/
theorem Linked.granted_iff (h : ens.Linked) (hname : ens.calls.get? name = none) (hi : i < ens.registries.length)
    (hbegin : ens.world.sessions.failNextBegin = false) (hlocks : ens.world.sessions.failLocks = false)
    (token : String) (key : LockKey) :
    (step backend ens (.acquire name token key i)).1 = .token name token ↔ ¬(deskOf ens.world key.hashes).InUse := by
  obtain ⟨ens', hstep, -, -⟩ := h.acquire_decides hname hi hbegin hlocks token key
  rw [hstep]
  split
  next hin => exact iff_of_false (by simp) (not_not_intro hin)
  next hin => exact iff_of_true rfl hin

/-- An unlock changes no desk but the one of the pair that it gives up. -/
theorem Linked.desk_unlock_of_ne (h : ens.Linked) (name token : String) (i : Nat)
    (hp : ∀ id s g, ens.filed (.entry i id) = some (s, g) → g.token = token → g.key.hashes ≠ p) :
    deskOf (step backend ens (.unlock name token i)).2.world p = deskOf ens.world p := by
  rcases h.desk_unlock name token i p with hdesk | ⟨id, s, g, hline, ht, hdesk⟩
  · exact hdesk
  · have hpost : ens.posting (.entry i id) = some (s, { holds := some g.key.hashes }) := by simp [posting, hline]
    -- the session of an entry holds the pair of its key and no other one
    have hholder := h.kept.holder_ne hpost rfl fun hg => hp id s g hline ht (Option.some.inj hg)
    rw [hdesk, Memory.Desk.free_of_ne hholder]

/-- An event that leaves a desk as it is leaves everyone there as they are. -/
theorem Linked.agreeOn_step (h : ens.Linked) (e : Event)
    (hstays : deskOf (step backend ens e).2.world p = deskOf ens.world p) :
    ens.world.sessions.AgreeOn (step backend ens e).2.world.sessions p :=
  h.kept.keeps.balanced.agreeOn (step_linked h e).kept.keeps.balanced hstays

/-- The cancellation of an acquisition changes nothing for any pair but the one that it waited for. -/
theorem Linked.agreeOn_cancel (h : ens.Linked) {a : Registry.Acquisition}
    (hc : ens.calls.get? name = some (.acquire i a)) (hp : p ≠ a.key.hashes) :
    ens.world.sessions.AgreeOn (step backend ens (.cancel name)).2.world.sessions p := by
  obtain ⟨s, hasks, hnone, hgive⟩ := h.session_of_acquire hc
  have hleft := h.kept.keeps.balanced.withdrawn (h.waitsFor_of_asks hasks) hnone
  have hworld : (step backend ens (.cancel name)).2.world = ens.world.abandonAndDrop backend s := by
    simp only [step, hc]
    exact hgive
  rw [hworld]
  exact hleft.others p hp

/-- A call that waits and is looked at again changes nothing for any pair but the one that it waits for. -/
theorem Linked.agreeOn_poll (h : ens.Linked) {s : SessionId} {pair : HashPair} (ha : ens.Asks name s pair)
    (hp : p ≠ pair) : ens.world.sessions.AgreeOn (step backend ens (.poll name)).2.world.sessions p := by
  refine h.agreeOn_step (.poll name) ?_
  rw [h.poll_serves ha, Memory.Desk.serve_of_not_first]
  rintro ⟨-, hfirst⟩
  -- its session is in line for one pair only
  have hwaits : ens.world.sessions.WaitsFor s p := h.kept.keeps.balanced.mem_line.1 (List.mem_of_mem_head? hfirst)
  exact hp (State.waitsFor_unique hwaits (h.waitsFor_of_asks ha))

end Ensemble

namespace Memory

open Ensemble (Linked step)

/-! ## Tokens -/

/-- What happened in the history of a run happened in the run. -/
theorem mem_of_history (n : Nat) (hs : List Happening) {m : Moment} (hm : m ∈ (run n hs).history) :
    .event m.event ∈ hs := by
  induction hs using List.reverseRecOn with
  | nil => cases hm
  | append_singleton hs h ih =>
    rw [run_concat] at hm
    cases h with
    | event e =>
      rcases List.mem_append.1 hm with hm | hm
      · exact List.mem_append_left _ (ih hm)
      · rw [List.mem_singleton.1 hm]
        exact List.mem_append_right _ List.mem_cons_self
    | switch sw => exact List.mem_append_left _ (ih hm)
    | probe pair => exact List.mem_append_left _ (ih hm)

/-- In a run that asks for no token twice, whatever a registry owns for a token was asked for with it. -/
theorem key_of_token (n : Nat) (hs : List Happening) (fresh : (hs.filterMap Happening.asked?).Nodup)
    {name token : String} {key : LockKey} {i : Nat} (hmem : .event (.acquire name token key i) ∈ hs) {p : Place}
    {s : SessionId} {g : Grant} (hline : (run n hs).ensemble.filed p = some (s, g)) (ht : g.token = token) :
    g.key = key := by
  have hattributed : (run n hs).Attributed := .of_run backend {} n _
  obtain ⟨⟨m, hm, ⟨name', hname'⟩, -⟩, -⟩ := hattributed.lines p s g hline
  have hasked := mem_of_history n hs hm
  rw [hname', ht] at hasked
  -- both events ask for the token, so they are one event
  by_contra hkey
  have hne : Happening.event (.acquire name' token g.key g.registry) ≠ .event (.acquire name token key i) := by
    intro he
    cases he
    exact hkey rfl
  have hpairwise := List.pairwise_filterMap.1 fresh
  have hsymm : Std.Symm fun h h' : Happening => ∀ t, h.asked? = some t → ∀ t', h'.asked? = some t' → t ≠ t' :=
    ⟨fun h h' hh t ht t' ht' => (hh t' ht' t ht).symm⟩
  exact hpairwise.forall hasked hmem hne token rfl token rfl rfl

/-! ## Contention -/

/-- Contention is decided by the hashes of the key. With the switches off an acquisition is granted at once when
nobody holds the pair and no call waits for it, and waits otherwise. For another pair nothing changes when it is first
looked at, when it is looked at again, waiting on or getting the pair, when it is cancelled, and when its token is
unlocked. A second acquisition waits for the first one, whatever became of it, when the keys have one class and
resources with one hash; apart from this it waits when it would have waited anyway. -/
theorem contention_by_hashes (n : Nat) (hs : List Happening) (name token : String) (key : LockKey) (i : Nat)
    (hi : i < n) (hname : (run n hs).ensemble.calls.get? name = none)
    (hbegin : (run n hs).ensemble.world.sessions.failNextBegin = false)
    (hlocks : (run n hs).ensemble.world.sessions.failLocks = false) :
    let ens := (run n hs).ensemble
    let e : Event := .acquire name token key i
    let ens' := (step backend ens e).2
    ((step backend ens e).1 = .token name token ↔ Situation.free.Fits ens key.hashes) ∧
      ((step backend ens e).1 = .pending ↔ ¬Situation.free.Fits ens key.hashes) ∧
      (∀ p, p ≠ key.hashes → ens.world.sessions.AgreeOn ens'.world.sessions p) ∧
      (∀ later, ((hs ++ .event e :: later).filterMap Happening.asked?).Nodup →
        let ens₁ := (run n (hs ++ .event e :: later)).ensemble
        ∀ p, p ≠ key.hashes →
          (∀ name₁ j, ens₁.world.sessions.AgreeOn (step backend ens₁ (.unlock name₁ token j)).2.world.sessions p) ∧
          ∀ name₁ j a, ens₁.calls.get? name₁ = some (.acquire j a) → a.token = token →
            ens₁.world.sessions.AgreeOn (step backend ens₁ (.poll name₁)).2.world.sessions p ∧
              ens₁.world.sessions.AgreeOn (step backend ens₁ (.cancel name₁)).2.world.sessions p) ∧
      ∀ name' token' key' j, j < n → name' ≠ name → ens.calls.get? name' = none →
        ((step backend ens' (.acquire name' token' key' j)).1 = .pending ↔
          key'.lockClass = key.lockClass ∧ Fnv.hash key'.resourceId = Fnv.hash key.resourceId ∨
            ¬Situation.free.Fits ens key'.hashes) := by
  intro ens e ens'
  have h : ens.Linked := run_linked n hs
  have hlength : ens.registries.length = n := Run.length_registries backend {} n _
  have h' : ens'.Linked := Ensemble.step_linked h e
  have hlength' : ens'.registries.length = n := by
    rw [show ens' = (run n (hs ++ [.event e])).ensemble from (run_event n hs e).symm]
    exact Run.length_registries backend {} n _
  obtain ⟨ens₂, hstep, hcame, hcalls⟩ := h.acquire_decides hname (hlength.symm ▸ hi) hbegin hlocks token key
  have hens' : ens' = ens₂ := congrArg Prod.snd hstep
  rw [← hens'] at hcame hcalls
  have hfree : ∀ p, Situation.free.Fits ens p ↔ ¬(deskOf ens.world p).InUse := fun p => free_fits_iff_not_inUse h
  refine ⟨?_, ?_, ?_, ?_, ?_⟩
  · rw [hfree]
    exact h.granted_iff hname (hlength.symm ▸ hi) hbegin hlocks token key
  · rw [hfree, not_not]
    exact h.pending_iff hname (hlength.symm ▸ hi) hbegin hlocks token key
  · intro p hp
    exact h.agreeOn_step e (h.desk_acquire hname token i hp)
  · intro later fresh ens₁ p hp
    have h₁ : ens₁.Linked := run_linked n _
    have hmem : Happening.event e ∈ hs ++ .event e :: later := by simp
    -- what is in the tables or waits under this token belongs to the acquisition, so it is of this key
    constructor
    · intro name₁ j
      refine h₁.agreeOn_step (.unlock name₁ token j) (h₁.desk_unlock_of_ne name₁ token j ?_)
      intro id s g hline ht
      rw [key_of_token n _ fresh hmem hline ht]
      exact hp.symm
    · intro name₁ j a hc ht
      obtain ⟨s, ha⟩ := h₁.orderly.tidy.calls name₁ j a hc
      have hline : ens₁.filed (.call name₁) = some (s, { registry := j, token := a.token, key := a.key }) :=
        Ensemble.filed_call_eq_some_iff.2 ⟨a, hc, ha.session, rfl, rfl⟩
      have hkey : a.key = key := key_of_token n _ fresh hmem hline ht
      obtain ⟨s', hasks, -⟩ := h₁.session_of_acquire hc
      exact ⟨h₁.agreeOn_poll hasks (hkey ▸ hp), h₁.agreeOn_cancel hc (hkey ▸ hp)⟩
  · intro name' token' key' j hj hne hname'
    have hname₂ : ens'.calls.get? name' = none := (hcalls name' hne).trans hname'
    have hbegin' := hcame.failNextBegin.trans hbegin
    have hlocks' := hcame.failLocks.trans hlocks
    rw [h'.pending_iff hname₂ (hlength'.symm ▸ hj) hbegin' hlocks', ← LockKey.hashes_eq_iff, hfree, not_not, hcame.desk]
    by_cases hkeys : key'.hashes = key.hashes
    · -- the first acquisition has come to the desk, granted or not
      rw [if_pos hkeys]
      exact iff_of_true (Desk.has_ask _ _).inUse (.inl hkeys)
    · rw [if_neg hkeys, or_iff_right hkeys]

/-- Another caller for the lock of the herd. -/
def newcomer : Event := .acquire "e" "fourth" { resourceId := "herd", lockClass := .dinosaurs } 0

/-- The newcomer waits, a migration of the herd is held and waited for, and those who waited for the lock of the herd
before go away. -/
def crossing : List Happening :=
  succession ++ .event newcomer ::
    [.event (.acquire "f" "fifth" { resourceId := "herd", lockClass := .migrations } 0),
      .event (.acquire "g" "sixth" { resourceId := "herd", lockClass := .migrations } 0),
      .event (.cancel "b"), .event (.cancel "c")]

/-- While the lock of the herd is on its way to the second caller in a succession, a newcomer waits for it; a migration
of the herd does not wait. When the newcomer gets the lock later on, whoever holds the migration and waits for it is
not touched. -/
theorem contention_in_succession :
    let migration : LockKey := { resourceId := "herd", lockClass := .migrations }
    (step backend (run 1 succession).ensemble newcomer).1 = .pending ∧
      (step backend (run 1 succession).ensemble (.acquire "e" "fourth" migration 0)).1 = .token "e" "fourth" ∧
      ∃ ens', step backend (run 1 crossing).ensemble (.poll "e") = (.token "e" "fourth", ens') ∧
        ens'.world.sessions.holder? migration.hashes = some 5 ∧ ens'.world.sessions.queue migration.hashes = [6] := by
  intro migration
  have hname : (run 1 succession).ensemble.calls.get? "e" = none := by decide +kernel
  have hbegin : (run 1 succession).ensemble.world.sessions.failNextBegin = false := by decide +kernel
  have hlocks : (run 1 succession).ensemble.world.sessions.failLocks = false := by decide +kernel
  have hdecides := fun lockClass => contention_by_hashes 1 succession "e" "fourth" { resourceId := "herd", lockClass } 0
    Nat.one_pos hname hbegin hlocks
  obtain ⟨-, hwaits, -, hlater, -⟩ := hdecides .dinosaurs
  obtain ⟨hgranted, -⟩ := hdecides .migrations
  rw [free_fits_iff (run_linked 1 succession)] at hwaits hgranted
  refine ⟨?_, ?_, ?_⟩
  · apply hwaits.2
    decide +kernel
  · apply hgranted.2
    decide +kernel
  · -- at the end of the run the newcomer still waits, on the fourth session
    have hfiled : (run 1 crossing).ensemble.filed (.call "e") =
        some (4, { registry := 0, token := "fourth", key := { resourceId := "herd", lockClass := .dinosaurs } }) := by
      decide +kernel
    obtain ⟨a, hc, -, ht, -⟩ := Ensemble.filed_call_eq_some_iff.1 hfiled
    have hapart : migration.hashes ≠ LockKey.hashes { resourceId := "herd", lockClass := .dinosaurs } := by
      decide +kernel
    obtain ⟨-, hpolls⟩ := hlater _ (show (crossing.filterMap Happening.asked?).Nodup by decide) migration.hashes hapart
    have hagree : (run 1 crossing).ensemble.world.sessions.AgreeOn
        (step backend (run 1 crossing).ensemble (.poll "e")).2.world.sessions migration.hashes :=
      (hpolls "e" 0 a hc ht).1
    have hreply : (step backend (run 1 crossing).ensemble (.poll "e")).1 = .token "e" "fourth" := by decide +kernel
    have hholder : (run 1 crossing).ensemble.world.sessions.holder? migration.hashes = some 5 := by decide +kernel
    have hqueue : (run 1 crossing).ensemble.world.sessions.queue migration.hashes = [6] := by decide +kernel
    generalize step backend (run 1 crossing).ensemble (.poll "e") = r at hagree hreply ⊢
    obtain ⟨reply, ens'⟩ := r
    subst hreply
    exact ⟨ens', rfl, hagree.holder.trans hholder, hagree.queue.trans hqueue⟩

end Memory

end NamedLock
