import NamedLock.Proofs.Ensemble.Failure
import NamedLock.Proofs.Memory.Contention

/-!
# Recovery — sessions in memory after a failed acquisition

On this backend an acquisition fails at once or not at all: its session is refused, or its request for the pair. Either
way nobody else notices. The desks of all pairs are as before, a session that was refused is not counted, and once the
switches are off again the same lock can be taken.
-/

namespace NamedLock

open Memory (State backend deskOf)

namespace Memory

variable {key : LockKey} {s : SessionId} {r : Request} {st st' : State} {e : LockError} {told : List Traffic}

/-- What waits is never refused later. -/
theorem not_refused_later : ¬Refused backend key s .later r st e st' told := by
  intro h
  cases h with
  | unopened answer => cases answer
  | opened answer _ => cases answer
  | identified answer _ => cases answer
  | unlocked answer =>
    have hanswer : st.lockAgain s = (.ready (.error _), _) := answer
    unfold State.lockAgain at hanswer
    split at hanswer
    next => split at hanswer <;> cases hanswer
    next => cases hanswer

/-- A session that was refused is not counted, and afterwards the next one is not refused. -/
theorem counts_of_refused (h : Refused backend key s .first .begin st e st' told) :
    st'.failNextBegin = false ∧
      (st.failNextBegin = true → st'.begun = st.begun ∧ st'.lastTransactionId = st.lastTransactionId) := by
  cases h with
  | unopened answer =>
    obtain ⟨hanswer, hst'⟩ := Prod.mk.inj answer
    have hrefused : (st.begin s).1 = .error e := Poll.ready.inj hanswer
    have hafter : (st.begin s).2 = st' := hst'
    unfold State.begin at hrefused hafter
    split at hafter
    next =>
      subst hafter
      exact ⟨rfl, fun _ => ⟨rfl, rfl⟩⟩
    next hno =>
      rw [if_neg hno] at hrefused
      cases hrefused
  | @opened _ _ st₁ _ _ _ answer next =>
    obtain ⟨hanswer, hst₁⟩ := Prod.mk.inj answer
    have hallowed : (st.begin s).1 = .ok () := Poll.ready.inj hanswer
    have hoff : st.failNextBegin = false := by
      unfold State.begin at hallowed
      split at hallowed
      next => cases hallowed
      next hno => simpa using hno
    have hst₁' : st₁.failNextBegin = false := by
      rw [← show (st.begin s).2 = st₁ from hst₁]
      exact (State.begin_of_allowed st s hoff).2.2.1
    -- neither the number nor the lock counts, nor does dropping the session
    have hcounts : st'.counts = st₁.counts := by
      cases next with
      | identified answer next =>
        obtain ⟨-, rfl⟩ := Prod.mk.inj answer
        cases next with
        | unlocked answer =>
          rw [show backend.drop s _ = State.drop _ s from rfl, State.counts_drop]
          obtain ⟨-, rfl⟩ := Prod.mk.inj answer
          exact State.counts_lock _ s key.hashes
    obtain ⟨-, -, -, hbegin, -⟩ := State.counts_eq_iff.1 hcounts
    refine ⟨hbegin.trans hst₁', fun hon => ?_⟩
    rw [hoff] at hon
    cases hon

end Memory

namespace Ensemble

variable {ens : Ensemble State} {e : Event} {key : LockKey} {err : LockError}

/-- An acquisition that fails is a new one, for which the switches were on. -/
theorem starts_of_failed (hens : ens.Tidy) (failed : (ens.moment backend e).failed? = some key)
    (reply : (step backend ens e).1 = .lockError err) :
    ∃ name token i told, e = .acquire name token key i ∧ i < ens.registries.length ∧
      Refused backend key (ens.world.begins + 1) .first .begin ens.world.sessions err
        (step backend ens e).2.world.sessions told := by
  obtain ⟨s, g, turn, r, rfl, hi, looks, told, hrefused, -⟩ := (leftover_of_failed hens failed reply).requests
  cases looks with
  | starts name hs =>
    subst hs
    exact ⟨name, g.token, g.registry, told, rfl, hi, hrefused⟩
  | goesOn => exact absurd hrefused Memory.not_refused_later

/-- No desk notices an acquisition that fails. -/
theorem Linked.desk_of_failed (h : ens.Linked) (failed : (ens.moment backend e).failed? = some key)
    (reply : (step backend ens e).1 = .lockError err) (p : HashPair) :
    deskOf (step backend ens e).2.world p = deskOf ens.world p := by
  have h' : Linked (step backend ens e).2 := step_linked h e
  have hrest := (leftover_of_failed h.orderly.tidy failed reply).rest
  obtain ⟨name, token, i, -, rfl, hi, -⟩ := starts_of_failed h.orderly.tidy failed reply
  have hreg : ens.registries[i]? = some ens.registries[i] := List.getElem?_eq_getElem hi
  have hstep : step backend ens (.acquire name token key i) =
      acquired backend ens name i (Registry.acquire backend token key ens.registries[i] ens.world) := by
    simp [step, hreg]
  obtain ⟨-, hdone⟩ := acquired_lockError (hstep ▸ reply)
  have hworld : (step backend ens (.acquire name token key i)).2.world =
      (Registry.acquire backend token key ens.registries[i] ens.world).2.2 := by rw [hstep, hdone]
  have posted := posted_posting h.orderly.tidy hreg key
  have hcomes := Registry.acquire_moves token (posting_hand ens) posted h.kept p
  rw [← hworld] at hcomes
  generalize hdesk : deskOf (step backend ens (.acquire name token key i)).2.world p = d at hcomes
  cases hcomes with
  | rests => rfl
  | @comes s hs =>
    -- a session at the desk would be listed, and the new one is not
    have hthere : ∃ x, (step backend ens (.acquire name token key i)).2.world.sessions.sessions.get? s = some x := by
      rcases hdesk ▸ Memory.Desk.has_ask (deskOf ens.world p) s with hholder | hline
      · obtain ⟨x, hx, -⟩ := h'.kept.keeps.balanced.holder_desk.1 hholder
        exact ⟨x, hx⟩
      · obtain ⟨x, hx, -⟩ := h'.kept.keeps.balanced.mem_line.1 hline
        exact ⟨x, hx⟩
    obtain ⟨x, hx⟩ := hthere
    obtain ⟨q, d', hq⟩ := h'.kept.keeps.listed s (by simp [State.outline, hx])
    rw [hrest] at hq
    exact absurd (h.kept.bounded q s d' hq) (Run.Attributed.not_le_of_next hs.1)

end Ensemble

namespace Memory

open Ensemble (Linked Looks step)

/-- Once locks are no longer refused, the one that was not got can be taken, when it was free. -/
theorem granted_after_failed {n : Nat} {hs : List Happening} {e : Event} {key : LockKey}
    (failed : ((run n hs).ensemble.moment backend e).failed? = some key)
    (hfree : Situation.free.Fits (run n hs).ensemble key.hashes) {name : String} (token : String) {i : Nat} (hi : i < n)
    (hname : (step backend (run n hs).ensemble e).2.calls.get? name = none) :
    (step backend (run n (hs ++ [.event e, .switch (.locks false)])).ensemble (.acquire name token key i)).1 =
      .token name token := by
  have h : (run n hs).ensemble.Linked := run_linked n hs
  obtain ⟨err, reply⟩ := Ensemble.lockError_of_failed failed
  obtain ⟨name₀, token₀, i₀, told, he, -, hrefused⟩ := Ensemble.starts_of_failed h.orderly.tidy failed reply
  have hbegin := (counts_of_refused hrefused).1
  have hrun : (run n (hs ++ [.event e, .switch (.locks false)])).ensemble =
      (step backend (run n hs).ensemble e).2.adjustSessions fun st => st.switch (.locks false) := by
    rw [show hs ++ [.event e, .switch (.locks false)] = (hs ++ [.event e]) ++ [.switch (.locks false)] by simp,
      run_concat, run_concat]
    rfl
  have hlinked : Linked (run n (hs ++ [.event e, .switch (.locks false)])).ensemble := run_linked n _
  have hlength : (run n (hs ++ [.event e, .switch (.locks false)])).ensemble.registries.length = n :=
    Run.length_registries backend {} n _
  rw [hrun] at hlinked hlength ⊢
  apply (hlinked.granted_iff hname (hlength.symm ▸ hi) hbegin rfl token key).2
  -- turning a switch moves nobody at a desk, and neither did the failure
  rw [show deskOf ((step backend (run n hs).ensemble e).2.adjustSessions fun st => st.switch (.locks false)).world
    key.hashes = deskOf (step backend (run n hs).ensemble e).2.world key.hashes from rfl,
    h.desk_of_failed failed reply]
  exact (free_fits_iff_not_inUse h).1 hfree

/-- A failed acquisition leaves nothing behind, whatever the backend answers. Nothing changes but the sessions that
were asked, the call that has ended and what was recorded: the tables are as before, and one failure is counted and
nothing measured. The error is the one that its session did not begin with, or the one that its session did not get the
lock with, together with the key; the number of the transaction makes no acquisition fail. The session is never
committed, and it is dropped if it was opened. Where sessions only fail to begin for want of a connection, the caller may
try again, and is never told that the state was invalid. With sessions in memory, each pair has the same holder and the
same queue as before, a session that was refused uses up no number and no count, and once the switches are off the same
lock, when it was free, can be taken. -/
theorem failed_acquire_leaves_nothing :
    (∀ {σ : Type} (b : Backend σ) (st : σ) (n : Nat) (hs : List (NamedLock.Happening σ)),
        let ens := (Run.of b st n hs).ensemble
        (∀ e key, (ens.moment b e).failed? = some key →
          let ens' := (step b ens e).2
          ens' = { ens with world := ens'.world, calls := ens.callsLeft e } ∧
            ens'.world.metrics = ens.world.metrics ++ [.counted (Metrics.labelsOf key.lockClass .lockError)] ∧
            ∃ err s g turn r, (step b ens e).1 = .lockError err ∧ g.key = key ∧ ens.Looks s g e turn r ∧
              Refused b key s turn r ens.world.sessions err ens'.world.sessions (ens.moment b e).traffic ∧
              .asked s .commit ∉ ens'.world.traffic ∧
              (.dropped s ∈ (ens.moment b e).traffic ∨
                r = .begin ∧ b.answer turn s .begin ens.world.sessions = (.ready (.error err), ens'.world.sessions)) ∧
              ((∀ turn s st e st', b.answer turn s .begin st = (.ready (.error e), st') → ∃ source, e = .session source) →
                err.isRetryable = true ∧ ∀ reason, err ≠ .invalidState reason)) ∧
          ((∀ turn s st e st', b.answer turn s .begin st ≠ (.ready (.error e), st')) →
            (∀ turn s pair st e st', b.answer turn s (.lock pair) st ≠ (.ready (.error e), st')) →
              ∀ e, (ens.moment b e).failed? = none)) ∧
      ∀ (n : Nat) (hs : List Happening) (e : Event) (key : LockKey),
        let ens := (run n hs).ensemble
        let ens' := (step backend ens e).2
        (ens.moment backend e).failed? = some key →
          (∀ pair, ens.world.sessions.AgreeOn ens'.world.sessions pair) ∧
            (ens.world.sessions.failNextBegin = true → ens'.world.sessions.begun = ens.world.sessions.begun ∧
              ens'.world.sessions.lastTransactionId = ens.world.sessions.lastTransactionId) ∧
            (Situation.free.Fits ens key.hashes →
              ∀ name token i, i < n → ens'.calls.get? name = none →
                (step backend (run n (hs ++ [.event e, .switch (.locks false)])).ensemble
                  (.acquire name token key i)).1 = .token name token) := by
  constructor
  · intro σ b st n hs ens
    have hattributed : (Run.of b st n hs).Attributed := .of_run b st n hs
    have htidy : ens.Tidy := hattributed.tidy
    constructor
    · intro e key failed ens'
      obtain ⟨err, reply⟩ := Ensemble.lockError_of_failed failed
      have hleft := Ensemble.leftover_of_failed htidy failed reply
      obtain ⟨s, g, turn, r, hkey, hi, looks, told, hrefused, htold⟩ := hleft.requests
      have htraffic : (ens.moment b e).traffic = told := Ensemble.moment_traffic htold
      subst htraffic
      exact ⟨hleft.rest, Ensemble.metrics_of_failed htidy failed, err, s, g, turn, r, reply, hkey, looks, hrefused,
        hattributed.uncommitted_of_failed looks hi, hrefused.dropped, hrefused.retryable⟩
    · intro hbegins hlocks e
      rw [Option.eq_none_iff_forall_ne_some]
      intro key failed
      obtain ⟨err, reply⟩ := Ensemble.lockError_of_failed failed
      obtain ⟨s, g, turn, r, -, -, -, told, hrefused, -⟩ := (Ensemble.leftover_of_failed htidy failed reply).requests
      rcases hrefused.cause with ⟨turn, st₁, st₂, answer⟩ | ⟨source, turn, st₁, st₂, -, answer⟩
      · exact hbegins _ _ _ _ _ answer
      · exact hlocks _ _ _ _ _ _ answer
  · intro n hs e key ens ens' failed
    have h : ens.Linked := run_linked n hs
    obtain ⟨err, reply⟩ := Ensemble.lockError_of_failed failed
    -- nothing that waits is refused later, so the event is a new acquisition
    obtain ⟨name₀, token₀, i₀, told, he, -, hrefused⟩ := Ensemble.starts_of_failed h.orderly.tidy failed reply
    refine ⟨fun pair => h.agreeOn_step e (h.desk_of_failed failed reply pair), (counts_of_refused hrefused).2, ?_⟩
    intro hfree _ token _ hi hname
    exact granted_after_failed failed hfree token hi hname

/-- The lock of the flock is held and waited for, and then the connection is cut. -/
def cutOff : List Happening :=
  [.event (.acquire "a" "first" { resourceId := "flock", lockClass := .dinosaurs } 0),
    .event (.acquire "b" "second" { resourceId := "flock", lockClass := .dinosaurs } 0),
    .switch (.locks true)]

/-- With the connection cut nobody gets the lock of the herd. The tables are as before, and whoever holds the lock of
the flock and waits for it is not touched. As soon as the connection is back the next caller gets the lock of the
herd. -/
theorem failed_acquire_leaves_nothing_cut_off :
    let e : Event := .acquire "c" "third" { resourceId := "herd", lockClass := .dinosaurs } 0
    let flock := LockKey.hashes { resourceId := "flock", lockClass := .dinosaurs }
    (∃ ens', step backend (run 1 cutOff).ensemble e =
        (.lockError (.acquire "herd-dinosaurs" (.io "connection reset while waiting for lock")), ens') ∧
      ens'.registries = (run 1 cutOff).ensemble.registries ∧
      ens'.world.sessions.holder? flock = some 1 ∧ ens'.world.sessions.queue flock = [2]) ∧
      (step backend (run 1 (cutOff ++ [.event e, .switch (.locks false)])).ensemble
        (.acquire "d" "fourth" { resourceId := "herd", lockClass := .dinosaurs } 0)).1 = .token "d" "fourth" := by
  intro e flock
  have failed : ((run 1 cutOff).ensemble.moment backend e).failed? =
      some { resourceId := "herd", lockClass := .dinosaurs } := by decide +kernel
  have hfree : Situation.free.Fits (run 1 cutOff).ensemble
      (LockKey.hashes { resourceId := "herd", lockClass := .dinosaurs }) := by
    rw [free_fits_iff (run_linked 1 cutOff)]
    decide +kernel
  obtain ⟨hleaves, hmemory⟩ := failed_acquire_leaves_nothing
  obtain ⟨hrest, -⟩ := (hleaves backend {} 1 (cutOff.map Happening.general)).1 e _ failed
  have hregistries := congrArg Ensemble.registries hrest
  obtain ⟨hagree, -, hagain⟩ := hmemory 1 cutOff e _ failed
  have hreply : (step backend (run 1 cutOff).ensemble e).1 =
      .lockError (.acquire "herd-dinosaurs" (.io "connection reset while waiting for lock")) := by decide +kernel
  have hholder : (run 1 cutOff).ensemble.world.sessions.holder? flock = some 1 := by decide +kernel
  have hqueue : (run 1 cutOff).ensemble.world.sessions.queue flock = [2] := by decide +kernel
  refine ⟨⟨(step backend (run 1 cutOff).ensemble e).2, Prod.ext hreply rfl, hregistries,
    (hagree flock).holder.trans hholder, (hagree flock).queue.trans hqueue⟩, ?_⟩
  exact hagain hfree "d" "fourth" 0 Nat.one_pos (by decide +kernel)

end Memory

end NamedLock
