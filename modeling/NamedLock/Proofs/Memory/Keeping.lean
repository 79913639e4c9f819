import NamedLock.Proofs.Memory.Posting

/-!
# Keeping — every event keeps the roster

An ensemble is linked when its roster is right for the sessions of its world. Each operation is followed on the
roster, line by line: an event takes one line in hand or changes it in place, and puts it where the ensemble keeps
the session afterwards. A line that leaves the roster is a session that was dropped.
-/

namespace NamedLock

open Function (update)
open Memory (Kept Roster Standing State backend)

namespace Registry

/-! ## Taking a lock -/

/-- What an acquisition comes to on this backend, from a roster `R` that does not have its session. Nothing is
pushed out of the table. -/
inductive Settles (R : Roster Place) (i : Nat) (token : String) (key : LockKey) (reg : Registry) (s : SessionId) :
    Acquired × Registry × World State → Prop
  | waits {h w} (hs : h.session = some s) (hk : h.key = some key)
    (kept : Kept w (update R .hand (some (s, { awaits := some key.hashes })))) :
    Settles R i token key reg s (.suspended { token, key, stage := .locking h }, reg, w)
  | fails {e w} (kept : Kept w R) : Settles R i token key reg s (.finished (.error e), reg, w)
  | files {h w} (hs : h.session = some s) (hk : h.key = some key) (ht : h.ownerToken = some token)
    (alone : reg.entries.get? key.encoded = none)
    (kept : Kept w (update R (.entry i key.encoded) (some (s, { holds := some key.hashes })))) :
    Settles R i token key reg s (.finished (.ok token), { entries := reg.entries.set key.encoded h }, w)

section Settles

variable {R : Roster Place} {i : Nat} {token : String} {key : LockKey} {reg : Registry} {s : SessionId}
  {w : World State}

/-- The roster has the entry under a key, when there is one, with the pair of the key. -/
def Posted (R : Roster Place) (i : Nat) (key : LockKey) (reg : Registry) : Prop :=
  if (reg.entries.get? key.encoded).isSome then
    ∃ s, R (.entry i key.encoded) = some (s, { holds := some key.hashes })
  else R (.entry i key.encoded) = none

theorem kept_fail {R : Roster Place} (key : LockKey) (hw : Kept w R) (message : String) (e : LockError)
    (hm : message ≠ displacedMessage) : Kept (fail key message e w) R :=
  (hw.record _).tell hm

/-- The standing of a session in hand before its pair is asked for, or asked for again. -/
def inHand (turn : Turn) (pair : HashPair) : Standing :=
  match turn with
  | .first => {}
  | .later => { awaits := some pair }

/-- The handle in hand is asked for its lock, or asked again. -/
theorem acquire_inHand {h : LockHandle} {turn : Turn} (hs : h.session = some s) (hk : h.key = some key)
    (hw : Kept w (update R .hand (some (s, inHand turn key.hashes)))) (span : Option Log.Span) :
    (∃ e w', h.acquire backend turn span w = (.ready (.error e), w') ∧
        Kept w' (update R .hand (some (s, inHand turn key.hashes)))) ∨
      (∃ h' w', h.acquire backend turn span w = (.ready (.ok h'), w') ∧ h'.session = some s ∧ h'.key = some key ∧
        Kept w' (update R .hand (some (s, { holds := some key.hashes })))) ∨
      ∃ w', h.acquire backend turn span w = (.pending, w') ∧
        Kept w' (update R .hand (some (s, { awaits := some key.hashes }))) := by
  cases turn with
  | first =>
    have hasked := hw.acquire hs hk (Function.update_self ..) rfl (fun _ => rfl) span
    simp only [Function.update_idem] at hasked
    exact hasked
  | later =>
    have hasked := hw.acquireAgain hs hk (Function.update_self ..) rfl (fun _ => rfl) span
    rw [Function.update_idem] at hasked
    exact .inr hasked

/-- A handle in hand is filed when its lock was granted, and dropped when the lock was refused. -/
theorem lock_settles {h : LockHandle} {turn : Turn} (hand : R .hand = none) (posted : Posted R i key reg)
    (hs : h.session = some s) (hk : h.key = some key)
    (hw : Kept w (update R .hand (some (s, inHand turn key.hashes)))) :
    Settles R i token key reg s (lock backend turn token key h reg w) := by
  have hback : update R .hand none = R := by
    rw [Function.update_eq_self_iff]
    exact hand.symm
  unfold lock
  rcases acquire_inHand hs hk hw (some (acquireSpan key)) with
    ⟨e, w', hacquire, hw'⟩ | ⟨h', w', hacquire, hs', hk', hw'⟩ | ⟨w', hacquire, hw'⟩
  · rw [hacquire]
    dsimp only
    have hfail := kept_fail key hw' "Error obtaining the advisory lock" e (by decide)
    rw [LockHandle.discard, hs]
    have hdrop := hfail.drop (Function.update_self ..)
    rw [Function.update_idem, hback] at hdrop
    exact .fails hdrop
  · rw [hacquire]
    dsimp only
    cases hold : reg.entries.get? key.encoded with
    | some stale =>
      -- two sessions would hold the pair, the one of the entry and the one in hand
      rw [Posted, hold] at posted
      obtain ⟨s', hs'⟩ := posted
      have hentry : update R .hand (some (s, { holds := some key.hashes })) (.entry i key.encoded) =
          some (s', { holds := some key.hashes }) := by
        rw [Function.update_of_ne (by simp)]
        exact hs'
      have hsame := hw'.keeps.exclusive (Function.update_self ..) hentry rfl rfl
      cases hsame
    | none =>
      rw [Posted, hold] at posted
      have hland := hw'.land hand posted
      have hdone : enter backend token key h' reg w' =
          ({ entries := reg.entries.set key.encoded { h' with ownerToken := some token } },
            w'.tell (acquireEvent key .info "Advisory lock acquired"
              [("owner", .text token), ("txid", .number h'.transactionId)])) := by
        simp [enter, hold]
      rw [hdone]
      exact .files hs' hk' rfl hold (hland.tell (by simp [acquireEvent, displacedMessage]))
  · rw [hacquire]
    exact .waits hs hk hw'

theorem acquire_settles (hand : R .hand = none) (posted : Posted R i key reg) (hw : Kept w R) :
    Settles R i token key reg (w.begins + 1) (acquire backend token key reg w) := by
  unfold acquire
  rcases hw.create hand (some (acquireSpan key)) key with ⟨e, w', hcreate, hw'⟩ | ⟨h, w', hcreate, hs, hk, hw'⟩
  · rw [hcreate]
    exact .fails (kept_fail key hw' _ e (by decide))
  · rw [hcreate]
    exact lock_settles hand posted hs hk hw'

end Settles

end Registry

namespace Ensemble

/-- The roster of an ensemble is right for the sessions of its world. -/
structure Linked (ens : Ensemble State) : Prop where
  kept : Kept ens.world ens.posting
  orderly : ens.Orderly

/-! ## Orderly ensembles -/

section Orderly

variable {σ : Type} {ens : Ensemble σ}

theorem Orderly.world (h : ens.Orderly) (w : World σ) : Orderly { ens with world := w } where
  tidy := h.tidy.same rfl fun _ _ _ => id
  apart := h.apart
  proper := h.proper

theorem Orderly.eraseCall (h : ens.Orderly) (w : World σ) (name : String) :
    Orderly { ens with world := w, calls := ens.calls.erase name } where
  tidy := h.tidy.eraseCall w name
  apart := h.apart.erase name
  proper name' c hc := by
    rw [Keyed.get?_erase] at hc
    split at hc
    next => cases hc
    next => exact h.proper name' c hc

/-- A call is kept, when nothing else waits on its target. -/
theorem Orderly.setCall (h : ens.Orderly) (w : World σ) (name : String) {c : Call}
    (tidy : ∀ i a, c = .acquire i a → ∃ s, a.On s) (proper : ens.Proper c)
    (free : ∀ t, c.target? = some t → ens.callOn? t = none) :
    Orderly { ens with world := w, calls := ens.calls.set name c } where
  tidy := h.tidy.setCall w name tidy
  apart := by
    refine h.apart.set ?_
    intro name' c' t _ hc' ht
    exact (callOn?_eq_none_iff h.apart).1 (free t ht) name' c' hc'
  proper name' c' hc' := by
    rw [Keyed.get?_set] at hc'
    split at hc'
    next =>
      cases hc'
      exact proper
    next => exact h.proper name' c' hc'

theorem Orderly.setRegistry (h : ens.Orderly) (w : World σ) {i : Nat} {reg : Registry} (hreg : reg.Tidy) :
    Orderly { ens.setRegistry i reg with world := w } where
  tidy := (h.tidy.setRegistry i hreg).same rfl fun _ _ _ => id
  apart := h.apart
  proper name c hc := by
    have hp := h.proper name c hc
    cases c with
    | acquire j a => exact ⟨by simpa [Ensemble.setRegistry] using hp.1, hp.2⟩
    | _ => exact hp

/-- Names of sessions change, but for those on which a call waits. -/
theorem Orderly.sessions (h : ens.Orderly) (w : World σ) {sessions : Keyed String SessionId} (on : String)
    (free : ens.callOn? (.session on) = none)
    (others : ∀ on', on' ≠ on → sessions.get? on' = ens.sessions.get? on') :
    Orderly { ens with world := w, sessions } where
  tidy := h.tidy.same rfl fun _ _ _ => id
  apart := h.apart
  proper name c hc := by
    have hp := h.proper name c hc
    cases c with
    | lock on' s pair =>
      have hne : on' ≠ on := by
        rintro rfl
        exact (callOn?_eq_none_iff h.apart).1 free name _ hc rfl
      exact (others on' hne).trans hp
    | _ => exact hp

/-- Handles change, but for those on which a call waits. -/
theorem Orderly.handles (h : ens.Orderly) (w : World σ) {handles : Keyed String LockHandle} (on : String)
    (free : ens.callOn? (.handle on) = none)
    (others : ∀ on', on' ≠ on → handles.get? on' = ens.handles.get? on') :
    Orderly { ens with world := w, handles } where
  tidy := h.tidy.same rfl fun _ _ _ => id
  apart := h.apart
  proper name c hc := by
    have hp := h.proper name c hc
    cases c with
    | handleAcquire on' =>
      have hne : on' ≠ on := by
        rintro rfl
        exact (callOn?_eq_none_iff h.apart).1 free name _ hc rfl
      obtain ⟨e, s, key, he, hs, hk⟩ := hp
      exact ⟨e, s, key, (others on' hne).trans he, hs, hk⟩
    | _ => exact hp

end Orderly

/-! ## Calls that are kept and given up -/

section Keep

variable {ens : Ensemble State} {name : String} {c : Call}

theorem posting_placeOf (h : Apart ens.calls) (hc : ens.calls.get? name = some c) :
    ens.posting (placeOf name c) = ens.lineOf c := by
  unfold placeOf lineOf
  cases ht : c.target? with
  | none => simp [posting, filed, hc]
  | some t =>
    have hon : ens.callOn? t = some c := (callOn?_eq_some_iff h).2 ⟨name, hc, ht⟩
    dsimp only
    rw [posting_place, hon]

/-- A call is given up: its session leaves the queue, and is dropped when no one else owns it. -/
theorem giveUp_kept (ho : ens.Orderly) {R : Roster Place} (hw : Kept ens.world R) (hc : ens.calls.get? name = some c)
    (hR : R (placeOf name c) = ens.posting (placeOf name c)) :
    Kept (giveUp backend ens c) (update R (placeOf name c) (ens.leftOf c)) := by
  rw [posting_placeOf ho.apart hc] at hR
  -- only requests for pairs wait, so there are three kinds of calls to give up
  have hproper := ho.proper name c hc
  cases c with
  | acquire i a =>
    obtain ⟨-, s, h, ha, hstage, hs⟩ := ho.acquisition hc
    have hline : R (.call name) = some (s, { awaits := some a.key.hashes }) := hR.trans (ens.lineOf_acquire i ha)
    rw [giveUp_acquire backend ens i hstage hs]
    exact hw.abandonAndDrop hline
  | lock on s pair =>
    have hs : ens.sessions.get? on = some s := hproper
    have hline : R (.session on) = some (s, { awaits := some pair, unfinished := false }) :=
      hR.trans (post_lock hs pair)
    have hleft : ens.leftOf (.lock on s pair) = some (s, { unfinished := false }) := by
      simp [leftOf, Call.target?, post, sessionOf?, hs]
    rw [hleft]
    exact hw.abandon hline
  | handleAcquire on =>
    obtain ⟨h, s, key, hon, hs, hk⟩ := hproper
    have hline : R (.handle on) = some (s, { awaits := some key.hashes, unfinished := false }) :=
      hR.trans (post_handleAcquire hon hs hk)
    have hleft : ens.leftOf (.handleAcquire on) = some (s, { unfinished := false }) := by
      simp [leftOf, Call.target?, post, sessionOf?, hon, hs]
    have hgone : giveUp backend ens (.handleAcquire on) = ens.world.abandon backend s := by
      simp [giveUp, hon, hs]
    rw [hleft, hgone]
    exact hw.abandon hline
  | _ => exact hproper.elim

/-- A call is kept while the line at `p` is ahead of the ensemble. -/
theorem keep_kept (ho : ens.Orderly) {p : Place} {line : Option (SessionId × Standing)}
    (hw : Kept ens.world (update ens.posting p line))
    (hp : ∀ old, ens.calls.get? name = some old → p ≠ placeOf name old) (c : Call) :
    ∃ w, keep backend ens name c = (.pending, { ens with world := w, calls := ens.calls.set name c }) ∧
      Kept w (update (posting { ens with calls := ens.calls.erase name }) p line) := by
  unfold keep
  dsimp only
  cases hold : ens.calls.get? name with
  | none =>
    refine ⟨_, rfl, ?_⟩
    rw [Keyed.erase_of_get?_eq_none hold]
    exact hw
  | some old =>
    -- what was kept under the name is given up, at its own place
    have hne := hp old hold
    refine ⟨_, rfl, ?_⟩
    have hgive := giveUp_kept ho hw hold (Function.update_of_ne (Ne.symm hne) _ _)
    rw [posting_eraseCall ens ho.apart hold, Function.update_comm hne.symm]
    exact hgive

/-- The place in hand is no call's. -/
theorem hand_ne_placeOf (name : String) (c : Call) : Place.hand ≠ placeOf name c := by
  unfold placeOf
  cases c.target? with
  | none => simp
  | some t => cases t <;> simp [Target.place]

/-- The place of a target that nothing waits on is no call's. -/
theorem place_ne_placeOf (ho : ens.Orderly) {t : Target} (free : ens.callOn? t = none) (old : Call)
    (hold : ens.calls.get? name = some old) : t.place ≠ placeOf name old := by
  have hother := (callOn?_eq_none_iff ho.apart).1 free name old hold
  unfold placeOf
  cases hot : old.target? with
  | none => cases t <;> simp [Target.place]
  | some t' =>
    intro hplace
    exact hother (Target.place_injective hplace ▸ hot)

/-- A call on a target that nothing waits on is kept. -/
theorem keep_target (ho : ens.Orderly) {t : Target} (ht : c.target? = some t) (free : ens.callOn? t = none)
    (proper : ens.Proper c) (hw : Kept ens.world (update ens.posting t.place (ens.post t (some c)))) :
    Linked (keep backend ens name c).2 := by
  have hp : ∀ old, ens.calls.get? name = some old → t.place ≠ placeOf name old := place_ne_placeOf ho free
  obtain ⟨w, hkeep, hw'⟩ := keep_kept ho hw hp c
  have ho' := ho.setCall w name (by rintro i a rfl; cases ht) proper
    (by intro t' ht'; rw [ht] at ht'; cases ht'; exact free)
  rw [hkeep]
  refine ⟨?_, ho'⟩
  have hline : ens.lineOf c = ens.post t (some c) := by simp [lineOf, ht]
  have hplace : placeOf name c = t.place := by simp [placeOf, ht]
  have hposting := posting_setCall ens ho.apart ho'.apart
  rw [hline, hplace] at hposting
  rw [posting_worldCalls, hposting]
  exact hw'

/-- An acquisition in hand is kept. -/
theorem keep_acquire (ho : ens.Orderly) {i : Nat} {a : Registry.Acquisition} {s : SessionId} (ha : a.On s)
    (proper : ens.Proper (.acquire i a))
    (hw : Kept ens.world (update ens.posting .hand (some (s, { awaits := some a.key.hashes })))) :
    Linked (keep backend ens name (.acquire i a)).2 := by
  obtain ⟨w, hkeep, hw'⟩ := keep_kept ho hw (fun old _ => hand_ne_placeOf name old) (.acquire i a)
  have ho' := ho.setCall w name (c := .acquire i a) (by rintro i a ⟨⟩; exact ⟨s, ha⟩) proper (by rintro t ⟨⟩)
  rw [hkeep]
  refine ⟨?_, ho'⟩
  have hempty : posting { ens with calls := ens.calls.erase name } (.call name) = none := by
    simp [posting, filed]
  have hland := hw'.land (posting_hand _) hempty
  have hposting := posting_setCall ens ho.apart ho'.apart
  rw [ens.lineOf_acquire i ha] at hposting
  rw [posting_worldCalls, hposting]
  exact hland

end Keep

/-! ## Registries -/

section Registries

variable {ens : Ensemble State} {i : Nat} {reg : Registry} {name : String} {s : SessionId}

/-- The roster of an ensemble has the entries of its tables. -/
theorem posted_posting (h : ens.Tidy) (hreg : ens.registries[i]? = some reg) (key : LockKey) :
    Registry.Posted ens.posting i key reg := by
  unfold Registry.Posted
  cases hold : reg.entries.get? key.encoded with
  | none => simp [posting, filed, hreg, hold]
  | some e =>
    obtain ⟨s, g, hline, -, -, -, -, hid⟩ := h.filed_entry hreg hold
    -- an entry that stands in the way is of the same key, not only of the same text
    have hkey : g.key = key := (LockKey.encoded_injective hid).symm
    subst hkey
    exact ⟨s, by simp [posting, hline]⟩

/-- Whatever an acquisition comes to, its session is kept or gone. -/
theorem acquired_linked (ho : ens.Orderly) (hreg : ens.registries[i]? = some reg) {token : String} {key : LockKey}
    {r : Registry.Acquired × Registry × World State}
    (hr : Registry.Settles ens.posting i token key reg s r) : Linked (acquired backend ens name i r).2 := by
  obtain ⟨hi, -⟩ := List.getElem?_eq_some_iff.1 hreg
  cases hr with
  | @waits h w hs hk kept =>
    have ha : Registry.Acquisition.On { token, key, stage := .locking h } s :=
      ⟨hs, by rintro h' ⟨⟩; exact hk⟩
    have hkept : Kept w (update (posting { ens with world := w }) .hand (some (s, { awaits := some key.hashes }))) := by
      rw [posting_world]
      exact kept
    have hlinked : Linked
        (keep backend { ens with world := w } name (.acquire i { token, key, stage := .locking h })).2 :=
      keep_acquire (ho.world w) ha ⟨hi, h, rfl⟩ hkept
    simpa [acquired, setRegistry_self hreg] using hlinked
  | @fails e w kept =>
    have hdone : (acquired backend ens name i (.finished (.error e), reg, w)).2 = { ens with world := w } := by
      simp [acquired, setRegistry_self hreg]
    rw [hdone]
    refine ⟨?_, ho.world w⟩
    rw [posting_world]
    exact kept
  | @files h w hs hk ht alone kept =>
    have hreg' := (ho.tidy.registries i reg hreg).set hs ht hk
    have hdone : (acquired backend ens name i
        (.finished (.ok token), { entries := reg.entries.set key.encoded h }, w)).2 =
          { ens.setRegistry i { entries := reg.entries.set key.encoded h } with world := w } := rfl
    rw [hdone]
    refine ⟨?_, ho.setRegistry w hreg'⟩
    have hline : h.filed? i = some (s, { registry := i, token, key }) :=
      LockHandle.filed?_eq_some_iff.2 ⟨hs, ht, hk, rfl⟩
    rw [posting_world, posting_registry ens hreg _ key.encoded fun _ => Keyed.get?_set_ne _ _]
    rw [Keyed.get?_set_self, Option.bind_some, hline]
    exact kept

theorem step_acquire (h : ens.Linked) (token : String) (key : LockKey) (i : Nat) :
    Linked (step backend ens (.acquire name token key i)).2 := by
  unfold step
  dsimp only
  cases hreg : ens.registries[i]? with
  | none => exact h
  | some reg =>
    have posted := posted_posting h.orderly.tidy hreg key
    exact acquired_linked h.orderly hreg (Registry.acquire_settles (posting_hand ens) posted h.kept)

/-- An entry is taken out and its session committed and dropped. -/
theorem step_unlock (h : ens.Linked) (token : String) (i : Nat) :
    Linked (step backend ens (.unlock name token i)).2 := by
  unfold step
  dsimp only
  cases hreg : ens.registries[i]? with
  | none => exact h
  | some reg =>
    have htidy := h.orderly.tidy.registries i reg hreg
    dsimp only
    unfold Registry.unlock
    rcases Registry.takeOwned_cases htidy token ens.world with ⟨htake, -⟩ | ⟨id, e, hid, ht, htake⟩
    · rw [htake]
      dsimp only
      rw [setRegistry_self hreg]
      refine ⟨?_, h.orderly.world _⟩
      rw [posting_world]
      exact h.kept.tell (by simp [Registry.unlockEvent, Registry.displacedMessage])
    · obtain ⟨s, g, hline, hs, -, hk, -, -⟩ := h.orderly.tidy.filed_entry hreg hid
      rw [htake]
      dsimp only
      rw [hk, hs]
      dsimp only
      have hpost : ens.posting (.entry i id) = some (s, { holds := some g.key.hashes }) := by simp [posting, hline]
      -- on this backend the commit ends at once, with success or not
      obtain ⟨answer, w, hcommit, hw⟩ := h.kept.release hpost rfl
      have hunposted := posting_registry ens hreg { entries := reg.entries.erase id } id
        fun _ => Keyed.get?_erase_ne _
      rw [Keyed.get?_erase_self] at hunposted
      rw [Registry.finish, hcommit]
      refine ⟨?_, h.orderly.setRegistry _ (htidy.erase id)⟩
      rw [unlocked, posting_world, hunposted]
      cases answer with
      | ok u => exact (hw.record _).tell (by simp [Registry.unlockEvent, Registry.displacedMessage])
      | error err => exact (hw.record _).tell (by simp [Registry.unlockEvent, Registry.displacedMessage])

end Registries

/-! ## Sessions -/

section Sessions

variable {ens : Ensemble State} {name on : String} {s : SessionId}

theorem callOn?_of_not_busy {t : Target} (h : ens.busy t = false) : ens.callOn? t = none := by
  simpa [busy] using h

theorem posting_session (free : ens.callOn? (.session on) = none) (hon : ens.sessions.get? on = some s) :
    ens.posting (.session on) = some (s, { unfinished := false }) := by
  simp [posting, post, sessionOf?, free, hon]

/-- A world takes the place of another one under the same roster. -/
theorem Linked.world (h : ens.Linked) {w : World State} (hw : Kept w ens.posting) :
    Linked { ens with world := w } :=
  ⟨by rw [posting_world]; exact hw, h.orderly.world w⟩

theorem onSession_linked (h : ens.Linked) {f : SessionId → Reply × Ensemble State}
    (hf : ∀ s, ens.sessions.get? on = some s → ens.callOn? (.session on) = none → Linked (f s).2) :
    Linked (ens.onSession on f).2 := by
  rcases ens.onSession_cases on f with ⟨reply, -, hsame⟩ | ⟨s, hon, hbusy, hsame⟩
  · rw [hsame]
    exact h
  · rw [hsame]
    exact hf s hon (callOn?_of_not_busy hbusy)

theorem step_begin (h : ens.Linked) : Linked (step backend ens (.begin name)).2 := by
  unfold step
  dsimp only
  cases hbusy : ens.sessionBusy name with
  | true => exact h
  | false =>
    have free : ens.callOn? (.session name) = none := callOn?_of_not_busy hbusy
    rw [if_neg (by simp)]
    unfold Ensemble.begin
    rcases h.kept.begin (posting_hand ens) with ⟨e, w, hpoll, hw⟩ | ⟨w, hpoll, hw⟩
    · have hpoll' : World.poll backend .first ens.world.number.1 .begin ens.world.number.2 =
          (.ready (.error (.session e)), w) := hpoll
      dsimp only
      rw [hpoll']
      exact h.world hw
    · have hpoll' : World.poll backend .first ens.world.number.1 .begin ens.world.number.2 =
          (.ready (.ok ()), w) := hpoll
      dsimp only
      rw [hpoll']
      refine ⟨?_, h.orderly.sessions _ name free fun _ => Keyed.get?_set_ne _ _⟩
      rw [posting_setSession ens _ free]
      dsimp only
      cases hold : ens.sessions.get? name with
      | none =>
        have hempty : ens.posting (.session name) = none := by simp [posting, post, sessionOf?, hold]
        exact (hw.land (posting_hand ens) hempty).loosen rfl
      | some old =>
        -- the session that had the name is dropped
        exact (hw.replace (posting_hand ens) (by simp) (posting_session free hold)).loosen rfl

theorem step_identify (h : ens.Linked) : Linked (step backend ens (.identify name on)).2 := by
  apply onSession_linked h
  intro s _ _
  obtain ⟨answer, w, hpoll, hw⟩ := h.kept.identify s
  unfold Ensemble.identify
  rw [hpoll]
  cases answer <;> exact h.world hw

theorem step_lock (h : ens.Linked) (pair : HashPair) : Linked (step backend ens (.lock name on pair)).2 := by
  apply onSession_linked h
  intro s hon free
  have hline := posting_session free hon
  unfold Ensemble.lock
  rcases h.kept.lock hline rfl (fun hu => absurd hu Bool.false_ne_true) pair with
      ⟨e, w, hpoll, hw⟩ | ⟨w, hpoll, hw⟩ | ⟨w, hpoll, hw⟩
  · rw [hpoll]
    exact h.world hw
  · rw [hpoll]
    -- that the session holds the pair is not kept in mind: its owner may commit it by name
    have hloose := hw.loosen rfl
    rw [← hline, Function.update_eq_self] at hloose
    exact h.world hloose
  · rw [hpoll]
    refine keep_target (h.orderly.world w) (t := .session on) rfl free hon ?_
    rw [posting_world, post_world, post_lock hon]
    exact hw

theorem step_commit (h : ens.Linked) : Linked (step backend ens (.commit name on)).2 := by
  apply onSession_linked h
  intro s hon free
  have hline := posting_session free hon
  obtain ⟨answer, w, hpoll, hw⟩ := h.kept.commit hline rfl
  rw [← hline, Function.update_eq_self] at hw
  unfold Ensemble.commit
  rw [hpoll]
  exact h.world hw

theorem step_dropSession (h : ens.Linked) : Linked (step backend ens (.dropSession on)).2 := by
  apply onSession_linked h
  intro s hon free
  refine ⟨?_, h.orderly.sessions _ on free fun _ => Keyed.get?_erase_ne _⟩
  rw [posting_eraseSession]
  exact h.kept.drop (posting_session free hon)

end Sessions

/-! ## Handles -/

section Handles

variable {ens : Ensemble State} {name on : String} {s : SessionId} {h : LockHandle}

theorem posting_handle (free : ens.callOn? (.handle on) = none) (hon : ens.handles.get? on = some h) :
    ens.posting (.handle on) = h.session.map fun s => (s, { unfinished := false }) := by
  simp [posting, post, sessionOf?, free, hon]

theorem onHandle_linked (hl : ens.Linked) {f : LockHandle → Reply × Ensemble State}
    (hf : ∀ h, ens.handles.get? on = some h → ens.callOn? (.handle on) = none → Linked (f h).2) :
    Linked (ens.onHandle on f).2 := by
  rcases ens.onHandle_cases on f with ⟨reply, -, hsame⟩ | ⟨h, hon, hbusy, hsame⟩
  · rw [hsame]
    exact hl
  · rw [hsame]
    exact hf h hon (callOn?_of_not_busy hbusy)

theorem step_create (hl : ens.Linked) (key : LockKey) : Linked (step backend ens (.create name key)).2 := by
  unfold step
  dsimp only
  cases hbusy : ens.handleBusy name with
  | true => exact hl
  | false =>
    have free : ens.callOn? (.handle name) = none := callOn?_of_not_busy hbusy
    rw [if_neg (by simp)]
    rcases hl.kept.create (posting_hand ens) none key with ⟨e, w, hcreate, hw⟩ | ⟨h, w, hcreate, hs, -, hw⟩
    · rw [hcreate]
      exact hl.world hw
    · rw [hcreate]
      unfold Ensemble.created
      dsimp only
      refine ⟨?_, hl.orderly.handles _ name free fun _ => Keyed.get?_set_ne _ _⟩
      rw [posting_setHandle ens _ free, hs]
      cases hold : ens.handles.get? name with
      | none =>
        have hempty : ens.posting (.handle name) = none := by simp [posting, post, sessionOf?, hold]
        exact (hw.land (posting_hand ens) hempty).loosen rfl
      | some old =>
        have hline := posting_handle free hold
        dsimp only
        unfold LockHandle.discard
        cases hsold : old.session with
        | none =>
          rw [hsold] at hline
          exact (hw.land (posting_hand ens) hline).loosen rfl
        | some t =>
          rw [hsold] at hline
          -- the handle that had the name is dropped, with its session
          exact (hw.replace (posting_hand ens) (by simp) hline).loosen rfl

theorem step_dropHandle (hl : ens.Linked) : Linked (step backend ens (.dropHandle on)).2 := by
  apply onHandle_linked hl
  intro h hon free
  have hline := posting_handle free hon
  refine ⟨?_, hl.orderly.handles _ on free fun _ => Keyed.get?_erase_ne _⟩
  rw [posting_clearHandle ens _ (fun _ => Keyed.get?_erase_ne _) (by simp)]
  dsimp only
  unfold LockHandle.discard
  cases hs : h.session with
  | none =>
    rw [hs] at hline
    have hsame : update ens.posting (.handle on) none = ens.posting := by
      rw [Function.update_eq_self_iff]
      exact hline.symm
    rw [hsame]
    exact hl.kept
  | some s =>
    rw [hs] at hline
    exact hl.kept.drop hline

/-- A handle commits its session and is cleared. -/
theorem step_handleRelease (hl : ens.Linked) : Linked (step backend ens (.handleRelease name on)).2 := by
  apply onHandle_linked hl
  intro h hon free
  have hline := posting_handle free hon
  unfold Ensemble.handleRelease
  cases hs : h.session with
  | none => exact hl
  | some s =>
    rw [hs] at hline
    obtain ⟨answer, w, hcommit, hw⟩ := hl.kept.release hline rfl
    -- the handle gave its session away and is cleared, whatever the answer
    have hcleared : ∀ on', on' ≠ on →
        ((ens.handles.set on { h with session := none }).adjust on LockHandle.cleared).get? on' =
          ens.handles.get? on' := by
      intro on' hne
      rw [Keyed.get?_adjust_ne _ _ hne, Keyed.get?_set_ne _ _ hne]
    have hdone : (Ensemble.handleCommit backend .first name on s
        { ens with handles := ens.handles.set on { h with session := none } }).2 =
          { ens with
            world := w
            handles := (ens.handles.set on { h with session := none }).adjust on LockHandle.cleared } := by
      unfold Ensemble.handleCommit
      rw [hcommit]
      cases answer <;> rfl
    dsimp only
    rw [hdone]
    refine ⟨?_, hl.orderly.handles _ on free hcleared⟩
    rw [posting_clearHandle ens w hcleared (by simp [LockHandle.cleared])]
    exact hw

theorem step_handleAcquire (hl : ens.Linked) : Linked (step backend ens (.handleAcquire name on)).2 := by
  apply onHandle_linked hl
  intro h hon free
  have hline := posting_handle free hon
  unfold Ensemble.handleAcquire
  cases hk : h.key with
  | none =>
    have hrefused : h.acquire backend .first none ens.world = (.ready (.error .keyMissing), ens.world) := by
      simp [LockHandle.acquire, hk]
    rw [hrefused]
    exact hl
  | some key =>
    cases hs : h.session with
    | none =>
      have hrefused : h.acquire backend .first none ens.world = (.ready (.error .transactionMissing), ens.world) := by
        simp [LockHandle.acquire, hk, hs]
      rw [hrefused]
      exact hl
    | some s =>
      rw [hs] at hline
      rcases hl.kept.acquire hs hk hline rfl (fun hu => absurd hu Bool.false_ne_true) none with
        ⟨e, w, hacquire, hw⟩ | ⟨h', w, hacquire, hs', -, hw⟩ | ⟨w, hacquire, hw⟩
      · rw [hacquire]
        exact hl.world hw
      · rw [hacquire]
        have hloose := hw.loosen rfl
        refine ⟨?_, hl.orderly.handles _ on free fun _ => Keyed.get?_set_ne _ _⟩
        rw [posting_setHandle ens _ free, hs']
        exact hloose
      · rw [hacquire]
        refine keep_target (hl.orderly.world w) (t := .handle on) rfl free ⟨h, s, key, hon, hs, hk⟩ ?_
        rw [posting_world, post_world, post_handleAcquire hon hs hk]
        exact hw

end Handles

/-! ## Calls that waited -/

section Calls

variable {ens : Ensemble State} {name : String}

theorem step_cancel (h : ens.Linked) : Linked (step backend ens (.cancel name)).2 := by
  unfold step
  dsimp only
  cases hc : ens.calls.get? name with
  | none => exact h
  | some c =>
    refine ⟨?_, h.orderly.eraseCall _ name⟩
    have hgive := giveUp_kept h.orderly h.kept hc rfl
    rw [← posting_eraseCall ens h.orderly.apart hc] at hgive
    rw [posting_worldCalls]
    exact hgive

/-- The line of a call that was taken out is put back. -/
theorem posting_restore (h : Apart ens.calls) {c : Call} (hc : ens.calls.get? name = some c) :
    update (posting { ens with calls := ens.calls.erase name }) (placeOf name c) (ens.lineOf c) = ens.posting := by
  rw [posting_eraseCall ens h hc, Function.update_idem, ← posting_placeOf h hc, Function.update_eq_self]

/-- The line of an acquisition that is taken out is taken in hand. -/
theorem Linked.inHand (h : ens.Linked) {i : Nat} {a : Registry.Acquisition} {s : SessionId}
    (hc : ens.calls.get? name = some (.acquire i a)) (ha : a.On s) :
    Kept ens.world (update (posting { ens with calls := ens.calls.erase name }) .hand
      (some (s, { awaits := some a.key.hashes }))) := by
  have hempty : posting { ens with calls := ens.calls.erase name } (.call name) = none := by simp [posting, filed]
  have hkept := h.kept
  rw [← posting_restore h.orderly.apart hc, ens.lineOf_acquire i ha] at hkept
  exact hkept.land hempty (posting_hand _)

theorem resume_acquire (h : ens.Linked) {i : Nat} {a : Registry.Acquisition}
    (hc : ens.calls.get? name = some (.acquire i a)) :
    Linked (resume backend name (.acquire i a) { ens with calls := ens.calls.erase name }).2 := by
  obtain ⟨hi, s, e, ha, hstage, hs⟩ := h.orderly.acquisition hc
  have hreg : ens.registries[i]? = some ens.registries[i] := List.getElem?_eq_getElem hi
  have ho := h.orderly.eraseCall ens.world name
  have posted := posted_posting ho.tidy hreg a.key
  have hsettles : Registry.Settles _ i a.token a.key ens.registries[i] s
      (Registry.lock backend .later a.token a.key e ens.registries[i] ens.world) :=
    Registry.lock_settles (posting_hand _) posted hs (ha.key e hstage) (h.inHand hc ha)
  unfold Ensemble.resume
  dsimp only
  rw [hreg]
  dsimp only
  rw [Registry.resumeAcquire, hstage]
  exact acquired_linked ho hreg hsettles

section OnTarget

variable {c : Call} {t : Target}

theorem posting_target (h : ens.Orderly) (hc : ens.calls.get? name = some c) (ht : c.target? = some t) :
    ens.posting t.place = ens.post t (some c) := by
  have hself := posting_placeOf h.apart hc
  simpa [placeOf, lineOf, ht] using hself

/-- Without the call under a name, its target does not wait. -/
theorem posting_eraseTarget (h : ens.Orderly) (hc : ens.calls.get? name = some c) (ht : c.target? = some t)
    (w : World State) :
    posting { ens with calls := ens.calls.erase name, world := w } = update ens.posting t.place (ens.post t none) := by
  rw [posting_worldCalls, posting_eraseCall ens h.apart hc]
  simp [placeOf, leftOf, ht]

theorem callOn?_eraseTarget (h : ens.Orderly) (hc : ens.calls.get? name = some c) (ht : c.target? = some t) :
    callOn? { ens with calls := ens.calls.erase name } t = none := by
  rw [callOn?_eraseCall h.apart hc, if_pos ht]

/-- A call on a target waits on. -/
theorem keep_again (h : ens.Orderly) (hc : ens.calls.get? name = some c) (ht : c.target? = some t) {w : World State}
    (hw : Kept w ens.posting) :
    Linked (keep backend { ens with calls := ens.calls.erase name, world := w } name c).2 := by
  have hproper : Proper { ens with calls := ens.calls.erase name, world := w } c := h.proper name c hc
  refine keep_target (h.eraseCall w name) ht (callOn?_eraseTarget h hc ht) hproper ?_
  have hpost : post { ens with calls := ens.calls.erase name, world := w } t (some c) = ens.post t (some c) := rfl
  rw [hpost, posting_eraseTarget h hc ht, Function.update_idem, ← posting_target h hc ht, Function.update_eq_self]
  exact hw

end OnTarget

theorem resume_lock (h : ens.Linked) {on : String} {s : SessionId} {pair : HashPair}
    (hc : ens.calls.get? name = some (.lock on s pair)) :
    Linked (resume backend name (.lock on s pair) { ens with calls := ens.calls.erase name }).2 := by
  have hon : ens.sessions.get? on = some s := h.orderly.proper name _ hc
  have hself := posting_target h.orderly hc rfl
  have hleft : ens.post (.session on) none = some (s, { unfinished := false }) := by simp [post, sessionOf?, hon]
  rw [post_lock hon] at hself
  unfold Ensemble.resume
  dsimp only
  unfold Ensemble.lock
  rcases h.kept.lockAgain hself rfl (fun hu => absurd hu Bool.false_ne_true) with ⟨w, hpoll, hw⟩ | ⟨w, hpoll, hw⟩
  · rw [hpoll]
    have hloose := hw.loosen rfl
    refine ⟨?_, h.orderly.eraseCall w name⟩
    have hposting := posting_eraseTarget h.orderly hc rfl w
    rw [hleft] at hposting
    dsimp only [replyOf]
    rw [hposting]
    exact hloose
  · rw [hpoll]
    exact keep_again h.orderly hc rfl hw

theorem resume_handleAcquire (h : ens.Linked) {on : String} (hc : ens.calls.get? name = some (.handleAcquire on)) :
    Linked (resume backend name (.handleAcquire on) { ens with calls := ens.calls.erase name }).2 := by
  obtain ⟨e, s, key, hon, hs, hk⟩ := h.orderly.proper name _ hc
  have hself := posting_target h.orderly hc rfl
  have hleft : ens.post (.handle on) none = some (s, { unfinished := false }) := by simp [post, sessionOf?, hon, hs]
  rw [post_handleAcquire hon hs hk] at hself
  unfold Ensemble.resume
  dsimp only
  rw [hon]
  dsimp only
  unfold Ensemble.handleAcquire
  rcases h.kept.acquireAgain hs hk hself rfl (fun hu => absurd hu Bool.false_ne_true) none with
      ⟨e', w, hacquire, hs', -, hw⟩ | ⟨w, hacquire, hw⟩
  · rw [hacquire]
    have hloose := hw.loosen rfl
    have free := callOn?_eraseTarget h.orderly hc rfl
    refine ⟨?_, (h.orderly.eraseCall ens.world name).handles _ on free fun _ => Keyed.get?_set_ne _ _⟩
    have hposting := posting_eraseTarget h.orderly hc rfl ens.world
    rw [hleft] at hposting
    have hset := posting_setHandle { ens with calls := ens.calls.erase name } w free e'
    rw [hposting, hs', Option.map_some, Target.place, Function.update_idem] at hset
    dsimp only
    rw [hset]
    exact hloose
  · rw [hacquire]
    exact keep_again h.orderly hc rfl hw

theorem step_poll (h : ens.Linked) : Linked (step backend ens (.poll name)).2 := by
  unfold step
  dsimp only
  cases hc : ens.calls.get? name with
  | none => exact h
  | some c =>
    have hproper := h.orderly.proper name c hc
    cases c with
    | acquire i a => exact resume_acquire h hc
    | lock on s pair => exact resume_lock h hc
    | handleAcquire on => exact resume_handleAcquire h hc
    -- no other call ever waits on this backend
    | _ => exact hproper.elim

end Calls

/-! ## Every event -/

theorem linked_start (n : Nat) : Linked (ofBackend ({} : State) n) := by
  have hempty : (ofBackend ({} : State) n).posting = fun _ => none := by
    funext p
    cases p with
    | call name => simp [posting, filed_ofBackend]
    | entry i id => simp [posting, filed_ofBackend]
    | _ => rfl
  refine ⟨?_, ⟨tidy_ofBackend _ n, ⟨List.nodup_nil, by simp [ofBackend]⟩, by simp [ofBackend]⟩⟩
  rw [hempty]
  exact ⟨Memory.State.Keeps.start, by simp, by simp [ofBackend]⟩

theorem step_linked {ens : Ensemble State} (h : ens.Linked) (e : Event) : Linked (step backend ens e).2 := by
  cases e with
  | acquire name token key i => exact step_acquire h token key i
  | unlock name token i => exact step_unlock h token i
  | poll name => exact step_poll h
  | cancel name => exact step_cancel h
  | begin name => exact step_begin h
  | identify name on => exact step_identify h
  | lock name on pair => exact step_lock h pair
  | commit name on => exact step_commit h
  | dropSession on => exact step_dropSession h
  | create name key => exact step_create h key
  | handleAcquire name on => exact step_handleAcquire h
  | handleRelease name on => exact step_handleRelease h
  | dropHandle on => exact step_dropHandle h
  | elapse d => exact h.world (h.kept.congr rfl rfl rfl)

end Ensemble

end NamedLock
