import NamedLock.Proofs.Ensemble.Authority
import NamedLock.Proofs.Ensemble.Release
import NamedLock.Proofs.Memory.Conduct

/-!
# Events — what an event does to the desk of a pair

Either a session that waits looks again, or a session comes to the desk and stays, or neither; after that at most one
session goes. Only a session that is asked for the pair comes, and only the session of a call that is given up leaves
the line. `step_change` says so of every event; what the order of the line and the slots of pairs have to do with the
history of a run follows from it.
-/

namespace NamedLock

open Function (update)
open Memory (Kept Roster Standing State backend)

namespace Ensemble

open Memory (Desk deskOf)

/-! ## Calls that are kept and given up -/

/-- Whether an event asks a session for a pair. -/
def AsksFor (ens : Ensemble State) (e : Event) (pair : HashPair) (s : SessionId) : Prop :=
  .asked s (.lock pair) ∈ (ens.moment backend e).traffic

/-- Whether an event gives up the call that waits on a session. -/
def Leaves (ens : Ensemble State) (e : Event) (s : SessionId) : Prop :=
  ∃ c pair, ens.givenUp? backend e = some c ∧ ens.request? c = some (s, pair)

section Keep

variable {ens : Ensemble State} {R : Roster Place} {name : String} {c : Call} {e : Event} {p : HashPair}

/-- A call is given up: its session leaves the line, and gives the pair up when it is dropped. -/
theorem giveUp_goes (ho : ens.Orderly) (hw : Kept ens.world R) (hc : ens.calls.get? name = some c) (p : HashPair) :
    (deskOf ens.world p).Goes (fun s => ∃ pair, ens.request? c = some (s, pair)) (deskOf (giveUp backend ens c) p) := by
  have hproper := ho.proper name c hc
  cases c with
  | acquire i a =>
    obtain ⟨-, s, h, -, hstage, hs⟩ := ho.acquisition hc
    rw [giveUp_acquire backend ens i hstage hs]
    refine (hw.abandonAndDrop_goes s p).mono ?_
    rintro _ rfl
    exact ⟨a.key.hashes, ens.request?_acquire i hstage hs⟩
  | lock on s pair =>
    refine (hw.abandon_goes s p).mono ?_
    rintro _ rfl
    exact ⟨pair, rfl⟩
  | handleAcquire on =>
    obtain ⟨h, s, key, hon, hs, hk⟩ := hproper
    have hgone : giveUp backend ens (.handleAcquire on) = ens.world.abandon backend s := by
      simp [giveUp, hon, hs]
    rw [hgone]
    refine (hw.abandon_goes s p).mono ?_
    rintro _ rfl
    exact ⟨key.hashes, request?_handleAcquire hon hs hk⟩
  | _ => exact hproper.elim

/-- A call is kept, and the one that was kept under its name is given up. -/
theorem keep_goes (ho : ens.Orderly) (hw : Kept ens.world R) (name : String) (c : Call) (p : HashPair) :
    (deskOf ens.world p).Goes (fun s => ∃ old pair, ens.calls.get? name = some old ∧ ens.request? old = some (s, pair))
      (deskOf (keep backend ens name c).2.world p) := by
  unfold keep
  dsimp only
  cases hold : ens.calls.get? name with
  | none => exact .rests
  | some old =>
    refine (giveUp_goes ho hw hold p).mono ?_
    rintro s ⟨pair, hs⟩
    exact ⟨old, pair, rfl, hs⟩

/-- Where no call is kept under a name, none is given up. -/
theorem world_keep_of_none {σ : Type} {b : Backend σ} {ens : Ensemble σ} (hc : ens.calls.get? name = none) (c : Call) :
    (keep b ens name c).2.world = ens.world := by
  simp [keep, hc]

/-- An event that waits gives up the call under its name. -/
theorem leaves_of_waits (called : e.called? = none) (hname : e.name? = some name)
    (waits : (step backend ens e).1 = .pending) {s : SessionId}
    (hs : ∃ old pair, ens.calls.get? name = some old ∧ ens.request? old = some (s, pair)) : ens.Leaves e s := by
  obtain ⟨old, pair, hold, hreq⟩ := hs
  refine ⟨old, pair, ?_, hreq⟩
  rw [givenUp?_of_waits called waits, hname]
  exact hold

/-- A call that is given up was kept before. -/
theorem mem_of_givenUp? {σ : Type} {b : Backend σ} {ens : Ensemble σ} (h : ens.givenUp? b e = some c) :
    ∃ name, ens.calls.get? name = some c := by
  cases e with
  | cancel name => exact ⟨name, h⟩
  | _ =>
    simp only [givenUp?] at h
    split at h
    next => exact (Option.bind_eq_some_iff.1 h).imp fun name hname => hname.2
    next => cases h

/-- What a session is asked in the course of an event is part of what was told meanwhile. -/
theorem asksFor_of_asks {w : World State} {s : SessionId} {pair : HashPair}
    (before : ∃ new, w.traffic = ens.world.traffic ++ new)
    (asks : w.Asks (.asked s (.lock pair)) (step backend ens e).2.world) : ens.AsksFor e pair s := by
  obtain ⟨new, hnew⟩ := before
  obtain ⟨rest, hrest, -⟩ := asks.told
  have htold : (step backend ens e).2.world.traffic = ens.world.traffic ++ (new ++ .asked s (.lock pair) :: rest) := by
    rw [hrest, hnew, List.append_assoc]
  unfold AsksFor
  rw [moment_traffic htold]
  simp

/-- An event that has nothing to do with a desk. -/
theorem change_of_same {d d' : Desk} {asked left : SessionId → Prop} (h : d' = d) : d.Change asked left d' :=
  h ▸ .goes .rests

end Keep

/-! ## Events that ask for a pair -/

section Asking

variable {ens : Ensemble State} {name on token : String} {i : Nat} {key : LockKey} {s : SessionId}

/-- A request that has to wait is kept, after its session has come to the desk. -/
theorem change_of_keep (ho : ens.Orderly) {e : Event} {w₀ w : World State} {q : Place} {d : Standing}
    (hw : Kept w (update ens.posting q (some (s, d)))) {c : Call} {pair p : HashPair} (hd : d.awaits = some pair)
    (hq : ∀ old, ens.calls.get? name = some old → q ≠ placeOf name old) (called : e.called? = none)
    (hname : e.name? = some name) (hstep : step backend ens e = keep backend { ens with world := w } name c)
    (before : ∃ new, w₀.traffic = ens.world.traffic ++ new) (hasked : w₀.Asks (.asked s (.lock pair)) w)
    (hcomes : (deskOf ens.world p).Comes (fun t => t = s ∧ p = pair) (deskOf w p)) :
    (deskOf ens.world p).Change (ens.AsksFor e p) (ens.Leaves e) (deskOf (step backend ens e).2.world p) := by
  have hgoes := keep_goes (ho.world w) hw name c p
  obtain ⟨w₁, htold, hquiet⟩ := keep_eq backend { ens with world := w } name c
  rw [htold] at hstep
  -- whatever is given up under the name, the new call waits
  obtain ⟨w₂, hkeep, hw₂⟩ := keep_kept (ho.world w) (posting_world ens w ▸ hw) hq c
  rw [htold] at hkeep hgoes
  have hsame : w₁ = w₂ := congrArg (fun r : Reply × Ensemble State => r.2.world) hkeep
  have waits : (step backend ens e).1 = .pending := by rw [hstep]
  have hasks : ens.AsksFor e pair s := asksFor_of_asks before (by rw [hstep]; exact hasked.trans hquiet)
  have hchange : (deskOf ens.world p).Change (fun t => t = s ∧ p = pair) (ens.Leaves e) (deskOf w₁ p) := by
    refine hcomes.change (hgoes.mono fun t => leaves_of_waits called hname waits) ?_
    rintro _ ⟨rfl, rfl⟩
    exact hsame ▸ hw₂.has_of_awaits (Function.update_self ..) hd
  rw [hstep]
  refine hchange.mono ?_ fun _ => id
  rintro _ ⟨rfl, rfl⟩
  exact hasks

/-- A request is answered at once, after its session has come to the desk. -/
theorem change_of_answer {e : Event} {w₀ w : World State} {pair p : HashPair}
    (hstep : (step backend ens e).2.world = w) (before : ∃ new, w₀.traffic = ens.world.traffic ++ new)
    (hasked : w₀.Asks (.asked s (.lock pair)) w)
    (hcomes : (deskOf ens.world p).Comes (fun t => t = s ∧ p = pair) (deskOf w p)) :
    (deskOf ens.world p).Change (ens.AsksFor e p) (ens.Leaves e) (deskOf (step backend ens e).2.world p) := by
  have hasks : ens.AsksFor e pair s := asksFor_of_asks before (by rw [hstep]; exact hasked)
  rw [hstep]
  refine (hcomes.mono ?_).only
  rintro _ ⟨rfl, rfl⟩
  exact hasks

theorem acquire_change (h : ens.Linked) (name token : String) (key : LockKey) (i : Nat) (p : HashPair) :
    (deskOf ens.world p).Change (ens.AsksFor (.acquire name token key i) p) (ens.Leaves (.acquire name token key i))
      (deskOf (step backend ens (.acquire name token key i)).2.world p) := by
  cases hreg : ens.registries[i]? with
  | none => exact change_of_same (by simp [step, hreg])
  | some reg =>
    have hstep : step backend ens (.acquire name token key i) =
        acquired backend ens name i (Registry.acquire backend token key reg ens.world) := by simp [step, hreg]
    have hopened := h.kept.desk_create (some (Registry.acquireSpan key)) key p
    have hbegan := LockHandle.create_asks backend (some (Registry.acquireSpan key)) key ens.world
    rcases h.kept.create (posting_hand ens) (some (Registry.acquireSpan key)) key with
      ⟨e, w, hcreate, hw⟩ | ⟨x, w, hcreate, hs, hk, hw⟩
    · -- the handle could not be opened
      rw [hcreate] at hopened
      rw [hstep, Registry.acquire, hcreate]
      exact change_of_same hopened
    · rw [hcreate] at hopened hbegan
      have posted := posted_posting h.orderly.tidy hreg key
      have hacquire : Registry.acquire backend token key reg ens.world =
          Registry.lock backend .first token key x reg w := by
        rw [Registry.acquire, hcreate]
        rfl
      have hsettles : Registry.Settles ens.posting i token key reg (ens.world.begins + 1)
          (Registry.acquire backend token key reg ens.world) :=
        Registry.acquire_settles (posting_hand ens) posted h.kept
      have hcomes := Registry.lock_moves token (posting_hand ens) posted hs hk hw p
      have hasked := Registry.lock_asks backend token reg hs hk w
      -- the session was told to begin, and then asked for the pair
      have before : ∃ new, w.traffic = ens.world.traffic ++ new := by
        obtain ⟨rest, hrest, -⟩ := hbegan.told
        exact ⟨_, hrest⟩
      rw [hacquire] at hstep hsettles
      rw [hopened] at hcomes
      generalize Registry.lock backend .first token key x reg w = r at hstep hsettles hcomes hasked
      cases hsettles with
      | @waits x' w' hs' hk' kept =>
        rw [acquired, setRegistry_self hreg] at hstep
        refine change_of_keep h.orderly kept rfl ?_ rfl rfl hstep before hasked hcomes
        exact fun old _ => hand_ne_placeOf name old
      | fails kept => exact change_of_answer (by rw [hstep]; rfl) before hasked hcomes
      | files hs' hk' ht alone kept => exact change_of_answer (by rw [hstep]; rfl) before hasked hcomes

theorem onSession_change {e : Event} {p : HashPair} {f : SessionId → Reply × Ensemble State}
    (hstep : step backend ens e = ens.onSession on f)
    (hf : ∀ s, ens.sessions.get? on = some s → ens.callOn? (.session on) = none → step backend ens e = f s →
      (deskOf ens.world p).Change (ens.AsksFor e p) (ens.Leaves e) (deskOf (step backend ens e).2.world p)) :
    (deskOf ens.world p).Change (ens.AsksFor e p) (ens.Leaves e) (deskOf (step backend ens e).2.world p) := by
  rcases ens.onSession_cases on f with ⟨reply, -, hsame⟩ | ⟨s, hon, hbusy, hsame⟩
  · exact change_of_same (by rw [hstep, hsame])
  · exact hf s hon (callOn?_of_not_busy hbusy) (hstep.trans hsame)

theorem lock_change (h : ens.Linked) (name on : String) (pair p : HashPair) :
    (deskOf ens.world p).Change (ens.AsksFor (.lock name on pair) p) (ens.Leaves (.lock name on pair))
      (deskOf (step backend ens (.lock name on pair)).2.world p) := by
  refine onSession_change (step.eq_def ..) ?_
  intro s hon free hstep
  have hline := posting_session free hon
  obtain ⟨-, hcomes⟩ := h.kept.lock_comes hline rfl pair p
  have hasked := World.poll_first_asks backend ens.world s (.lock pair)
  have before : ∃ new, ens.world.traffic = ens.world.traffic ++ new := ⟨[], by simp⟩
  unfold Ensemble.lock at hstep
  rcases h.kept.lock hline rfl (fun hu => absurd hu Bool.false_ne_true) pair with
      ⟨e, w, hpoll, hw⟩ | ⟨w, hpoll, hw⟩ | ⟨w, hpoll, hw⟩
  · rw [hpoll] at hstep hcomes hasked
    exact change_of_answer (by rw [hstep]) before hasked hcomes
  · rw [hpoll] at hstep hcomes hasked
    exact change_of_answer (by rw [hstep]) before hasked hcomes
  · rw [hpoll] at hstep hcomes hasked
    exact change_of_keep h.orderly hw rfl (place_ne_placeOf h.orderly free) rfl rfl hstep before hasked hcomes

theorem onHandle_change {e : Event} {p : HashPair} {f : LockHandle → Reply × Ensemble State}
    (hstep : step backend ens e = ens.onHandle on f)
    (hf : ∀ x, ens.handles.get? on = some x → ens.callOn? (.handle on) = none → step backend ens e = f x →
      (deskOf ens.world p).Change (ens.AsksFor e p) (ens.Leaves e) (deskOf (step backend ens e).2.world p)) :
    (deskOf ens.world p).Change (ens.AsksFor e p) (ens.Leaves e) (deskOf (step backend ens e).2.world p) := by
  rcases ens.onHandle_cases on f with ⟨reply, -, hsame⟩ | ⟨x, hon, hbusy, hsame⟩
  · exact change_of_same (by rw [hstep, hsame])
  · exact hf x hon (callOn?_of_not_busy hbusy) (hstep.trans hsame)

theorem handleAcquire_change (h : ens.Linked) (name on : String) (p : HashPair) :
    (deskOf ens.world p).Change (ens.AsksFor (.handleAcquire name on) p) (ens.Leaves (.handleAcquire name on))
      (deskOf (step backend ens (.handleAcquire name on)).2.world p) := by
  refine onHandle_change (step.eq_def ..) ?_
  intro x hon free hstep
  have hline := posting_handle free hon
  unfold Ensemble.handleAcquire at hstep
  cases hk : x.key with
  | none =>
    have hrefused : x.acquire backend .first none ens.world = (.ready (.error .keyMissing), ens.world) := by
      simp [LockHandle.acquire, hk]
    rw [hrefused] at hstep
    exact change_of_same (by rw [hstep])
  | some key =>
    cases hs : x.session with
    | none =>
      have hrefused : x.acquire backend .first none ens.world = (.ready (.error .transactionMissing), ens.world) := by
        simp [LockHandle.acquire, hk, hs]
      rw [hrefused] at hstep
      exact change_of_same (by rw [hstep])
    | some s =>
      rw [hs] at hline
      obtain ⟨-, hcomes⟩ := h.kept.acquire_comes hs hk hline rfl none p
      have hasked := LockHandle.acquire_asks backend none hs hk ens.world
      have before : ∃ new, ens.world.traffic = ens.world.traffic ++ new := ⟨[], by simp⟩
      rcases h.kept.acquire hs hk hline rfl (fun hu => absurd hu Bool.false_ne_true) none with
        ⟨e, w, hacquire, hw⟩ | ⟨x', w, hacquire, -, -, hw⟩ | ⟨w, hacquire, hw⟩
      · rw [hacquire] at hstep hcomes hasked
        exact change_of_answer (by rw [hstep]) before hasked hcomes
      · rw [hacquire] at hstep hcomes hasked
        exact change_of_answer (by rw [hstep]) before hasked hcomes
      · rw [hacquire] at hstep hcomes hasked
        exact change_of_keep h.orderly hw rfl (place_ne_placeOf h.orderly free) rfl rfl hstep before hasked hcomes

end Asking

/-! ## Events after which a session goes -/

section Going

variable {ens : Ensemble State} {name on : String} {left : SessionId → Prop}

/-- An unlock leaves a desk as it is, or lets the session of an entry with its token give the pair up. -/
theorem Linked.desk_unlock (h : ens.Linked) (name token : String) (i : Nat) (p : HashPair) :
    deskOf (step backend ens (.unlock name token i)).2.world p = deskOf ens.world p ∨
      ∃ id s g, ens.filed (.entry i id) = some (s, g) ∧ g.token = token ∧
        deskOf (step backend ens (.unlock name token i)).2.world p = (deskOf ens.world p).free s := by
  unfold step
  dsimp only
  cases hreg : ens.registries[i]? with
  | none => exact .inl rfl
  | some reg =>
    have htidy := h.orderly.tidy.registries i reg hreg
    dsimp only
    unfold Registry.unlock
    rcases Registry.takeOwned_cases htidy token ens.world with ⟨htake, -⟩ | ⟨id, e, hid, ht, htake⟩
    · rw [htake]
      exact .inl rfl
    · obtain ⟨s, g, hline, hs, hg, hk, -, -⟩ := h.orderly.tidy.filed_entry hreg hid
      have hpost : ens.posting (.entry i id) = some (s, { holds := some g.key.hashes }) := by simp [posting, hline]
      have hdesk := h.kept.desk_release hpost rfl p
      obtain ⟨answer, w, hcommit, -⟩ := h.kept.release hpost rfl
      rw [hcommit] at hdesk
      refine .inr ⟨id, s, g, hline, Option.some.inj (hg.symm.trans ht), ?_⟩
      rw [htake]
      dsimp only
      rw [hk, hs]
      dsimp only
      rw [Registry.finish, hcommit]
      cases answer <;> exact hdesk

theorem unlock_goes (h : ens.Linked) (name token : String) (i : Nat) (p : HashPair) :
    (deskOf ens.world p).Goes left (deskOf (step backend ens (.unlock name token i)).2.world p) := by
  rcases h.desk_unlock name token i p with hdesk | ⟨id, s, g, -, -, hdesk⟩
  · rw [hdesk]
    exact .rests
  · rw [hdesk]
    exact Desk.goes_free _ s

theorem commit_goes (h : ens.Linked) {s : SessionId} (name : String) (hon : ens.sessions.get? on = some s)
    (free : ens.callOn? (.session on) = none) (p : HashPair) :
    (deskOf ens.world p).Goes left (deskOf (commit backend .first name on s ens).2.world p) := by
  have hline := posting_session free hon
  have hgoes : (deskOf ens.world p).Goes left _ := h.kept.commit_goes hline rfl p
  obtain ⟨answer, w, hpoll, -⟩ := h.kept.commit hline rfl
  rw [hpoll] at hgoes
  unfold Ensemble.commit
  rw [hpoll]
  exact hgoes

theorem begin_goes (h : ens.Linked) (free : ens.callOn? (.session name) = none) (p : HashPair) :
    (deskOf ens.world p).Goes left
      (deskOf
        (begin backend .first name (ens.world.begins + 1) { ens with world := ens.world.number.2 }).2.world p) := by
  have hget : ens.world.sessions.sessions.get? (ens.world.begins + 1) = none := by
    simpa [State.outline] using h.kept.next
  have hdesk : deskOf (ens.world.number.2.poll backend .first (ens.world.begins + 1) .begin).2 p = deskOf ens.world p :=
    h.kept.keeps.balanced.desk_begin hget p
  unfold Ensemble.begin
  dsimp only
  rcases h.kept.begin (posting_hand ens) with ⟨e, w, hpoll, hw⟩ | ⟨w, hpoll, hw⟩
  · rw [hpoll] at hdesk ⊢
    exact hdesk ▸ .rests
  · rw [hpoll] at hdesk ⊢
    dsimp only
    rw [← hdesk]
    cases hold : ens.sessions.get? name with
    | none => exact .rests
    | some old =>
      -- the session that had the name is dropped; no call waits on it
      have hline : update ens.posting .hand (some (ens.world.begins + 1, {})) (.session name) =
          some (old, { unfinished := false }) := by
        rw [Function.update_of_ne (by simp)]
        exact posting_session free hold
      exact hw.drop_goes hline rfl p

theorem create_goes (h : ens.Linked) (free : ens.callOn? (.handle name) = none) (key : LockKey) (p : HashPair) :
    (deskOf ens.world p).Goes left
      (deskOf (created backend ens name key (LockHandle.create backend none key ens.world)).2.world p) := by
  have hdesk := h.kept.desk_create none key p
  rcases h.kept.create (posting_hand ens) none key with ⟨e, w, hcreate, hw⟩ | ⟨x, w, hcreate, -, -, hw⟩
  · rw [hcreate] at hdesk ⊢
    exact hdesk ▸ .rests
  · rw [hcreate] at hdesk ⊢
    unfold Ensemble.created
    dsimp only
    rw [← hdesk]
    cases hold : ens.handles.get? name with
    | none => exact .rests
    | some old =>
      dsimp only
      unfold LockHandle.discard
      cases hs : old.session with
      | none => exact .rests
      | some t =>
        have hline : update ens.posting .hand (some (ens.world.begins + 1, {})) (.handle name) =
            some (t, { unfinished := false }) := by
          rw [Function.update_of_ne (by simp), posting_handle free hold, hs]
          rfl
        exact hw.drop_goes hline rfl p

theorem handleRelease_goes (h : ens.Linked) {x : LockHandle} (name : String) (hon : ens.handles.get? on = some x)
    (free : ens.callOn? (.handle on) = none) (p : HashPair) :
    (deskOf ens.world p).Goes left (deskOf (handleRelease backend name on x ens).2.world p) := by
  have hline := posting_handle free hon
  unfold Ensemble.handleRelease
  cases hs : x.session with
  | none => exact .rests
  | some s =>
    rw [hs] at hline
    have hgoes : (deskOf ens.world p).Goes left _ := h.kept.release_goes hline rfl p
    obtain ⟨answer, w, hcommit, -⟩ := h.kept.release hline rfl
    rw [hcommit] at hgoes
    dsimp only
    unfold Ensemble.handleCommit
    rw [hcommit]
    cases answer <;> exact hgoes

theorem dropHandle_goes (h : ens.Linked) {x : LockHandle} (hon : ens.handles.get? on = some x)
    (free : ens.callOn? (.handle on) = none) (p : HashPair) :
    (deskOf ens.world p).Goes left (deskOf (x.discard backend ens.world) p) := by
  have hline := posting_handle free hon
  unfold LockHandle.discard
  cases hs : x.session with
  | none => exact .rests
  | some s =>
    rw [hs] at hline
    exact h.kept.drop_goes hline rfl p

theorem cancel_goes (h : ens.Linked) (name : String) (p : HashPair) :
    (deskOf ens.world p).Goes (ens.Leaves (.cancel name)) (deskOf (step backend ens (.cancel name)).2.world p) := by
  unfold step
  dsimp only
  cases hc : ens.calls.get? name with
  | none => exact .rests
  | some c =>
    refine (giveUp_goes h.orderly h.kept hc p).mono ?_
    rintro s ⟨pair, hs⟩
    exact ⟨c, pair, hc, hs⟩

end Going

/-! ## Calls that look again -/

section Again

variable {ens : Ensemble State} {name : String} {s : SessionId} {pair : HashPair}

theorem serves_acquire (h : ens.Linked) {i : Nat} {a : Registry.Acquisition}
    (hc : ens.calls.get? name = some (.acquire i a)) (hr : ens.request? (.acquire i a) = some (s, pair))
    (p : HashPair) :
    deskOf (resume backend name (.acquire i a) { ens with calls := ens.calls.erase name }).2.world p =
      (deskOf ens.world p).serve s := by
  obtain ⟨hi, t, x, ha, hstage, hs⟩ := h.orderly.acquisition hc
  rw [ens.request?_acquire i hstage hs] at hr
  cases hr
  have hreg : ens.registries[i]? = some ens.registries[i] := List.getElem?_eq_getElem hi
  have posted := posted_posting (h.orderly.eraseCall ens.world name).tidy hreg a.key
  rw [← Registry.lock_serves a.token (posting_hand _) posted hs (ha.key x hstage) (h.inHand hc ha) p]
  unfold Ensemble.resume
  dsimp only
  rw [hreg]
  dsimp only
  rw [Registry.resumeAcquire, hstage]
  dsimp only
  rcases Registry.lock backend .later a.token a.key x ens.registries[i] ens.world with ⟨outcome, reg, w⟩
  unfold acquired
  cases outcome with
  | finished answer => cases answer <;> rfl
  | suspended a' =>
    dsimp only
    rw [world_keep_of_none (Keyed.get?_erase_self _ _)]

theorem serves_lock (h : ens.Linked) (on : String) (s : SessionId) (pair p : HashPair) :
    deskOf (resume backend name (.lock on s pair) { ens with calls := ens.calls.erase name }).2.world p =
      (deskOf ens.world p).serve s := by
  have hserves := h.kept.lockAgain_serves s pair p
  unfold Ensemble.resume
  dsimp only
  unfold Ensemble.lock
  cases hpoll : ens.world.poll backend .later s (.lock pair) with
  | mk answer w =>
    rw [hpoll] at hserves
    cases answer with
    | pending =>
      dsimp only
      rw [world_keep_of_none (Keyed.get?_erase_self _ _)]
      exact hserves
    | ready answer => exact hserves

theorem serves_handleAcquire (h : ens.Linked) {on : String} (hc : ens.calls.get? name = some (.handleAcquire on))
    (hr : ens.request? (.handleAcquire on) = some (s, pair)) (p : HashPair) :
    deskOf (resume backend name (.handleAcquire on) { ens with calls := ens.calls.erase name }).2.world p =
      (deskOf ens.world p).serve s := by
  obtain ⟨x, t, key, hon, hs, hk⟩ := h.orderly.proper name _ hc
  rw [request?_handleAcquire hon hs hk] at hr
  cases hr
  rw [← h.kept.acquireAgain_serves hs hk none p]
  unfold Ensemble.resume
  dsimp only
  rw [hon]
  dsimp only
  unfold Ensemble.handleAcquire
  dsimp only
  cases x.acquire backend .later none ens.world with
  | mk answer w =>
    cases answer with
    | pending =>
      dsimp only
      rw [world_keep_of_none (Keyed.get?_erase_self _ _)]
    | ready answer => cases answer <;> rfl

/-- A call that waits and is looked at again lets its session look at every desk. Nobody else comes or goes. -/
theorem Linked.poll_serves (h : ens.Linked) (ha : ens.Asks name s pair) (p : HashPair) :
    deskOf (step backend ens (.poll name)).2.world p = (deskOf ens.world p).serve s := by
  obtain ⟨c, hc, hr⟩ := ha
  have hstep : step backend ens (.poll name) = resume backend name c { ens with calls := ens.calls.erase name } := by
    simp [step, hc]
  have hproper := h.orderly.proper name c hc
  rw [hstep]
  cases c with
  | acquire i a => exact serves_acquire h hc hr p
  | lock on t q =>
    cases hr
    exact serves_lock h on s pair p
  | handleAcquire on => exact serves_handleAcquire h hc hr p
  -- no other call ever waits on this backend
  | _ => exact hproper.elim

theorem poll_change (h : ens.Linked) (name : String) (p : HashPair) {asked left : SessionId → Prop} :
    (deskOf ens.world p).Change asked left (deskOf (step backend ens (.poll name)).2.world p) := by
  cases hc : ens.calls.get? name with
  | none => exact change_of_same (by simp [step, hc])
  | some c =>
    obtain ⟨s, pair, ha⟩ := h.orderly.exists_asks hc
    exact h.poll_serves ha p ▸ .serves s

end Again

/-! ## Every event -/

/-- What an event does to the desk of a pair. -/
theorem step_change {ens : Ensemble State} (h : ens.Linked) (e : Event) (p : HashPair) :
    (deskOf ens.world p).Change (ens.AsksFor e p) (ens.Leaves e) (deskOf (step backend ens e).2.world p) := by
  cases e with
  | acquire name token key i => exact acquire_change h name token key i p
  | lock name on pair => exact lock_change h name on pair p
  | handleAcquire name on => exact handleAcquire_change h name on p
  | poll name => exact poll_change h name p
  | cancel name => exact .goes (cancel_goes h name p)
  | unlock name token i => exact .goes (unlock_goes h name token i p)
  | begin name =>
    unfold step
    dsimp only
    cases hbusy : ens.sessionBusy name with
    | true => exact change_of_same rfl
    | false => exact .goes (begin_goes h (callOn?_of_not_busy hbusy) p)
  | identify name on =>
    refine onSession_change (step.eq_def ..) ?_
    intro s hon free hstep
    obtain ⟨answer, w, hpoll, hw⟩ := h.kept.identify s
    have hsessions : w.sessions = ens.world.sessions := by
      cases hpoll
      rfl
    rw [hstep]
    unfold Ensemble.identify
    rw [hpoll]
    cases answer <;> exact change_of_same (congrArg (State.desk · p) hsessions)
  | commit name on =>
    refine onSession_change (step.eq_def ..) ?_
    intro s hon free hstep
    rw [hstep]
    exact .goes (commit_goes h name hon free p)
  | dropSession on =>
    refine onSession_change (step.eq_def ..) ?_
    intro s hon free hstep
    rw [hstep]
    exact .goes (h.kept.drop_goes (posting_session free hon) rfl p)
  | create name key =>
    unfold step
    cases hbusy : ens.handleBusy name with
    | true => exact change_of_same rfl
    | false => exact .goes (create_goes h (callOn?_of_not_busy hbusy) key p)
  | handleRelease name on =>
    refine onHandle_change (step.eq_def ..) ?_
    intro x hon free hstep
    rw [hstep]
    exact .goes (handleRelease_goes h name hon free p)
  | dropHandle on =>
    refine onHandle_change (step.eq_def ..) ?_
    intro x hon free hstep
    rw [hstep]
    exact .goes (dropHandle_goes h hon free p)
  | elapse d => exact change_of_same rfl

end Ensemble

end NamedLock
