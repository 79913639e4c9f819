import Mathlib.Algebra.GroupWithZero.Nat
import NamedLock.Proofs.Ensemble.Ledger
import NamedLock.Proofs.Ensemble.Recording
import NamedLock.Session.Scripted

/-!
# Accounts — metrics and what they count

What happened in a run is counted from its events, and compared with what the metrics recorded. Two balances carry the
comparison, each kept by every event and for every backend:

* a lock that was granted is in a table, was pushed out of it, or its release has started;
* a release that started has ended, or waits in a call, or was given up.
-/

namespace NamedLock

variable {σ : Type}

/-! ## Counting events of a run -/

namespace Run

/-- A sum over the events of a run. -/
def sum (b : Backend σ) (f : Ensemble σ → Event → Nat) (r : Run σ) : List (Happening σ) → Nat
  | [] => 0
  | .event e :: hs => f r.ensemble e + sum b f (r.advance b (.event e)) hs
  | .outside g :: hs => sum b f (r.advance b (.outside g)) hs

/-- How many events of a run are of a kind. -/
def times (b : Backend σ) (p : Ensemble σ → Event → Bool) (r : Run σ) (hs : List (Happening σ)) : Nat :=
  r.sum b (fun ens e => (p ens e).toNat) hs

section Sum

variable (b : Backend σ) (f g : Ensemble σ → Event → Nat) (p : Ensemble σ → Event → Bool) (r : Run σ)
  (hs : List (Happening σ))

theorem sum_add : r.sum b (fun ens e => f ens e + g ens e) hs = r.sum b f hs + r.sum b g hs := by
  induction hs generalizing r with
  | nil => rfl
  | cons h hs ih =>
    cases h with
    | event e =>
      simp only [sum, ih]
      omega
    | outside k => exact ih _

/-- An event of a kind never happens when it happens after no beginning of the run. -/
theorem times_eq_zero_iff : r.times b p hs = 0 ↔ ∀ before e after, hs = before ++ .event e :: after →
    p (before.foldl (advance b) r).ensemble e = false := by
  induction hs generalizing r with
  | nil => simp [times, sum]
  | cons k hs ih =>
    -- a happening is the first one, or it comes after a beginning of the rest
    have hsplit : (∀ before e after, k :: hs = before ++ .event e :: after →
          p (before.foldl (advance b) r).ensemble e = false) ↔
        (∀ e, k = .event e → p r.ensemble e = false) ∧ (r.advance b k).times b p hs = 0 := by
      rw [ih]
      constructor
      · intro h
        refine ⟨fun e he => h [] e hs (by rw [he]; rfl), ?_⟩
        rintro before e after rfl
        exact h (k :: before) e after rfl
      · rintro ⟨hfirst, hrest⟩ before e after heq
        cases before with
        | nil => exact hfirst e (List.cons.inj heq).1
        | cons k' before =>
          obtain ⟨rfl, htail⟩ := List.cons.inj heq
          exact hrest before e after htail
    rw [hsplit]
    cases k with
    | event e => simp [times, sum]
    | outside g => simp [times, sum]

variable {b r}

/-- What every event keeps in balance is in balance after a run. -/
theorem sum_balance {P : Ensemble σ → Prop} {level : Ensemble σ → Nat} {out into : Ensemble σ → Event → Nat}
    (outside : ∀ ens g, P ens → P (ens.adjustSessions g)) (still : ∀ ens g, level (ens.adjustSessions g) = level ens)
    (event : ∀ ens e, P ens → P (ens.step b e).2)
    (balance : ∀ ens e, P ens → level (ens.step b e).2 + out ens e = level ens + into ens e) (hr : P r.ensemble)
    (hs : List (Happening σ)) :
    level (hs.foldl (advance b) r).ensemble + r.sum b out hs = level r.ensemble + r.sum b into hs := by
  induction hs generalizing r with
  | nil => rfl
  | cons h hs ih =>
    cases h with
    | event e =>
      have hrest : level (hs.foldl (advance b) (r.advance b (.event e))).ensemble +
          (r.advance b (.event e)).sum b out hs =
          level (r.ensemble.step b e).2 + (r.advance b (.event e)).sum b into hs := ih (event _ e hr)
      have hfirst := balance r.ensemble e hr
      simp only [sum, List.foldl_cons]
      omega
    | outside g =>
      have hrest := ih (r := r.advance b (.outside g)) (outside _ g hr)
      rw [show level (r.advance b (.outside g)).ensemble = level r.ensemble from still r.ensemble g] at hrest
      exact hrest

end Sum

end Run

/-! ## What is counted -/

/-- Whether a handle is of a class. -/
def LockHandle.isOf (c : LockClass) (h : LockHandle) : Bool := h.key.any (·.lockClass = c)

/-- How many entries of a class a table has. -/
def Registry.entriesOf (c : LockClass) (reg : Registry) : Nat := reg.entries.values.countP (LockHandle.isOf c)

/-- Whether a release of a class waits in a call. -/
def Call.releases (c : LockClass) (call : Call) : Bool := call.unlocking?.any (·.lockClass = c)

namespace Ensemble

/-- How many entries of a class all tables have. -/
def entriesOf (c : LockClass) (ens : Ensemble σ) : Nat := (ens.registries.map (Registry.entriesOf c)).sum

/-- How many releases of a class wait in calls. -/
def waitingOf (c : LockClass) (ens : Ensemble σ) : Nat := ens.calls.values.countP (Call.releases c)

variable (b : Backend σ) (c : LockClass) (ens : Ensemble σ) (e : Event)

/-- The entry that an event pushes out of its table: it stood where the lock that was granted is filed. -/
def displaced? : Option LockHandle :=
  (ens.moment b e).grant?.bind fun g => (ens.registries[g.registry]?).bind fun reg => reg.entries.get? g.key.encoded

/-- An acquisition of a class ends with an error. -/
def fails : Bool := (ens.moment b e).failed?.any (·.lockClass = c)

/-- An acquisition of a class yields its lock. -/
def grants : Bool := (ens.moment b e).grant?.any (·.key.lockClass = c)

/-- An entry of a class is pushed out of its table. -/
def displaces : Bool := (ens.displaced? b e).any (LockHandle.isOf c)

/-- A release takes an entry of a class out of its table. -/
def starts : Bool := (ens.starts? e).any (·.lockClass = c)

/-- A release of a class ends, and its commit had this outcome. -/
def ends (o : Metrics.Outcome) : Bool := (ens.ends? b e).any fun x => x.1.lockClass = c ∧ .ofCommit x.2 = o

/-- A release of a class is given up while it waits. -/
def forsakes : Bool := (ens.givenUp? b e).any (Call.releases c)

end Ensemble

/-! ## What is recorded -/

namespace Metrics

theorem label_injective {c c' : LockClass} (h : c.label = c'.label) : c = c' := by
  revert h
  cases c <;> cases c' <;> decide

theorem outcome_label_injective {o o' : Outcome} (h : o.label = o'.label) : o = o' := by
  revert h
  cases o <;> cases o' <;> decide

theorem labelsOf_eq_iff {c c' : LockClass} {o o' : Outcome} : labelsOf c o = labelsOf c' o' ↔ c = c' ∧ o = o' := by
  constructor
  · intro h
    injection h with hc ho
    exact ⟨label_injective hc, outcome_label_injective ho⟩
  · rintro ⟨rfl, rfl⟩
    rfl

variable (c : LockClass) (o : Outcome)

theorem count_append (r r' : Recording) (l : Labels) : count (r ++ r') l = count r l + count r' l := by
  simp [count]

theorem durations_append (r r' : Recording) (l : Labels) : durations (r ++ r') l = durations r l ++ durations r' l := by
  simp [durations]

theorem count_failed (k? : Option LockKey) :
    count (failed k?) (labelsOf c o) = if .lockError = o then (k?.any (·.lockClass = c)).toNat else 0 := by
  cases k? with
  | none => simp [failed, count]
  | some key =>
    by_cases ho : .lockError = o <;> by_cases hc : key.lockClass = c <;>
      simp [failed, lockFailed, count, labelsOf_eq_iff, ho, hc]

theorem count_ended (now : Nanos) (x? : Option (Registry.Unlocking × Except DatabaseError Unit)) :
    count (ended now x?) (labelsOf c o) =
      (x?.any fun x => decide (x.1.lockClass = c ∧ Outcome.ofCommit x.2 = o)).toNat := by
  cases x? with
  | none => simp [ended, count]
  | some x =>
    by_cases hc : x.1.lockClass = c <;> by_cases ho : Outcome.ofCommit x.2 = o <;>
      simp [ended, lockEnded, count, labelsOf_eq_iff, hc, ho]

/-- Whatever ends is measured when it is counted, and what failed is not measured. -/
theorem length_durations_ended (now : Nanos) (x? : Option (Registry.Unlocking × Except DatabaseError Unit))
    (l : Labels) :
    (durations (ended now x?) l).length = count (ended now x?) l := by
  cases x? with
  | none => rfl
  | some x =>
    by_cases h : labelsOf x.1.lockClass (.ofCommit x.2) = l <;> simp [ended, lockEnded, durations, count, h]

theorem durations_failed (k? : Option LockKey) (l : Labels) : durations (failed k?) l = [] := by
  cases k? <;> rfl

end Metrics

/-! ## Entries -/

/-- One item of a list is replaced in a sum. -/
theorem sum_map_set {α : Type} (f : α → Nat) {l : List α} {i : Nat} {x : α} (h : l[i]? = some x) (y : α) :
    ((l.set i y).map f).sum + f x = (l.map f).sum + f y := by
  induction l generalizing i with
  | nil => simp at h
  | cons z l ih =>
    cases i with
    | zero =>
      cases Option.some.inj h
      simp only [List.set_cons_zero, List.map_cons, List.sum_cons]
      omega
    | succ i =>
      have hrest := ih (i := i) (by simpa using h)
      simp only [List.set_cons_succ, List.map_cons, List.sum_cons]
      omega

namespace Ensemble

section Entries

variable {b : Backend σ} {ens ens' : Ensemble σ} {e : Event} (c : LockClass)

theorem entriesOf_of_set {i : Nat} {reg reg' : Registry} (here : ens.registries[i]? = some reg)
    (h : ens'.registries = ens.registries.set i reg') :
    ens'.entriesOf c + reg.entriesOf c = ens.entriesOf c + reg'.entriesOf c := by
  unfold entriesOf
  rw [h]
  exact sum_map_set (Registry.entriesOf c) here reg'

/-- A release that starts takes its entry out of the table. -/
theorem entries_unlock (hens : ens.Tidy) (name token : String) (i : Nat) :
    (step b ens (.unlock name token i)).2.entriesOf c + (starts c ens (.unlock name token i)).toNat =
      ens.entriesOf c := by
  cases hreg : ens.registries[i]? with
  | none =>
    have hstep : step b ens (.unlock name token i) = (.refused .noRegistry, ens) := by simp [step, hreg]
    simp [hstep, starts, starts?, hreg]
  | some reg =>
    have hstep : step b ens (.unlock name token i) =
        unlocked b (ens.setRegistry i (Registry.unlock b token reg ens.world).2.1) name i
          ((Registry.unlock b token reg ens.world).1, (Registry.unlock b token reg ens.world).2.2) := by
      simp [step, hreg]
    have haside : (step b ens (.unlock name token i)).2.registries =
        ens.registries.set i (Registry.unlock b token reg ens.world).2.1 := by
      rw [hstep]
      exact (Aside.unlocked (P := fun _ => False) b _ name i _).registries
    rcases Registry.unlock_cases b (hens.registries i reg hreg) token ens.world with
      ⟨hnone, hunlock⟩ | ⟨u, h, hsome, hid, hclass, hunlock⟩
    · rw [hunlock] at haside
      have hset : (step b ens (.unlock name token i)).2.entriesOf c + reg.entriesOf c =
          ens.entriesOf c + reg.entriesOf c :=
        entriesOf_of_set c hreg haside
      simp only [starts, starts?, hreg, Option.bind_some, hnone, Option.any_none, Bool.toNat_false]
      omega
    · rw [hunlock] at haside
      have hset := entriesOf_of_set c hreg haside
      have hcount :=
        Keyed.countP_values_erase (LockHandle.isOf c) reg.entries u.lockId (hens.registries i reg hreg).nodup
      have hof : h.isOf c = decide (u.lockClass = c) := by
        obtain ⟨key, hk, hc⟩ := Option.map_eq_some_iff.1 hclass
        simp [LockHandle.isOf, hk, hc]
      rw [hid, Option.any_some, hof] at hcount
      simp only [starts, starts?, hreg, Option.bind_some, hsome, Option.any_some]
      simp only [Registry.entriesOf] at hset
      omega

/-- A lock that is granted comes to a table, and may push out the entry that stood in its place. -/
theorem entries_turn {m : Moment} (t : ens.Turns ens' m) (hm : ∀ name token i, m.event ≠ .unlock name token i) :
    ens'.entriesOf c + ((m.grant?.bind fun g => (ens.registries[g.registry]?).bind fun reg =>
      reg.entries.get? g.key.encoded).any (LockHandle.isOf c)).toNat =
        ens.entriesOf c + (m.grant?.any (·.key.lockClass = c)).toNat := by
  cases t with
  | rests registries grant _ _ _ => simp [entriesOf, registries, grant]
  | waits name s g _ _ registries grant _ _ => simp [entriesOf, registries, grant]
  | files name s g reg h _ _ here filed registries _ grant _ _ =>
    have hset := entriesOf_of_set c here registries
    have hcount := Keyed.countP_values_set (LockHandle.isOf c) reg.entries g.key.encoded h
    have hof : h.isOf c = decide (g.key.lockClass = c) := by
      simp [LockHandle.isOf, (LockHandle.filed?_eq_some_iff.1 filed).2.2.1]
    rw [hof] at hcount
    simp only [grant, Option.bind_some, here, Option.any_some]
    simp only [Registry.entriesOf] at hset
    omega
  | takes name s g reg id event _ _ _ _ _ => exact absurd event (hm name _ _)

/-- A lock that is granted is in a table, until another one takes its place there or its release starts. -/
theorem step_entries (hens : ens.Tidy) (e : Event) :
    (step b ens e).2.entriesOf c + ((starts c ens e).toNat + (displaces b c ens e).toNat) =
      ens.entriesOf c + (grants b c ens e).toNat := by
  by_cases hunlock : ∃ name token i, e = .unlock name token i
  · obtain ⟨name, token, i, rfl⟩ := hunlock
    have hentries := entries_unlock (b := b) c hens name token i
    have hgrant : (ens.moment b (.unlock name token i)).grant? = none := rfl
    simp only [displaces, displaced?, grants, hgrant, Option.bind_none, Option.any_none, Bool.toNat_false]
    omega
  · have hturn :=
      entries_turn c (step_turnover (b := b) hens e).turns fun name token i he => hunlock ⟨name, token, i, he⟩
    have hstarts : ens.starts? e = none := by
      cases e <;> first | rfl | exact absurd ⟨_, _, _, rfl⟩ hunlock
    simp only [starts, hstarts, displaces, displaced?, grants, Option.any_none, Bool.toNat_false]
    omega

end Entries

/-! ## Releases -/

section Releases

variable {b : Backend σ} {ens ens' : Ensemble σ} {e : Event} (c : LockClass)

/-- A release whose commit is asked for or looked at again ends or goes on waiting. -/
theorem ends_add_defers (b : Backend σ) (ens : Ensemble σ) (e : Event) :
    (ends b c ens e .ok).toNat + (ends b c ens e .unlockError).toNat + ((ens.defers? b e).any (·.lockClass = c)).toNat =
      ((ens.commits? b e).any (·.1.lockClass = c)).toNat := by
  cases hcommits : ens.commits? b e with
  | none => simp [ends, ends?, defers?, hcommits]
  | some x =>
    rcases x with ⟨u, p⟩
    cases p with
    | pending => simp [ends, ends?, defers?, hcommits]
    | ready answer =>
      cases answer <;> by_cases hc : u.lockClass = c <;>
        simp [ends, ends?, defers?, hcommits, Metrics.Outcome.ofCommit, hc]

/-- Unless a call is looked at again, a commit that is asked for is the one of a release that starts. -/
theorem commits_of_not_called (h : e.called? = none) :
    (ens.commits? b e).any (·.1.lockClass = c) = starts c ens e := by
  cases e with
  | poll name => cases h
  | cancel name => cases h
  | unlock name token i => cases hs : ens.starts? (.unlock name token i) <;> simp [commits?, starts, hs]
  | _ => rfl

theorem commits_poll (name : String) :
    (ens.commits? b (.poll name)).any (·.1.lockClass = c) = (ens.calls.get? name).any (Call.releases c) := by
  cases hc : ens.calls.get? name with
  | none => simp [commits?, hc]
  | some call => cases hu : call.unlocking? <;> simp [commits?, hc, hu, Call.releases]

/-- A release that starts ends, or waits in a call until it ends or is given up. -/
theorem step_releases (hens : ens.Tidy) (hnodup : (Keyed.keys ens.calls).Nodup) (e : Event) :
    (step b ens e).2.waitingOf c +
        ((ends b c ens e .ok).toNat + (ends b c ens e .unlockError).toNat + (forsakes b c ens e).toNat) =
      ens.waitingOf c + (starts c ens e).toNat := by
  have hcommits := ends_add_defers c b ens e
  have hshifts := step_calls b hens e
  -- a commit that is asked for ends or is deferred; a deferred one is in the call that is kept
  cases hshifts with
  | rests called ends calls defers =>
    have hgiven := givenUp?_of_ends called ends
    rw [commits_of_not_called c called, defers] at hcommits
    simp only [waitingOf, calls, forsakes, hgiven, Option.any_none, Bool.toNat_false] at hcommits ⊢
    omega
  | @keeps _ name call name? called waits calls defers =>
    have hgiven : ens.givenUp? b e = ens.calls.get? name := by
      rw [givenUp?_of_waits called waits, name?, Option.bind_some]
    have hcount := Keyed.countP_values_set (Call.releases c) ens.calls name call
    have hcall : call.releases c = (ens.defers? b e).any (·.lockClass = c) := by rw [Call.releases, defers]
    rw [commits_of_not_called c called] at hcommits
    simp only [waitingOf, calls, forsakes, hgiven]
    rw [hcall] at hcount
    omega
  | @leaves name ends calls defers =>
    have hgiven : ens.givenUp? b (.poll name) = none := by simp [givenUp?, Event.name?]
    have hcount := Keyed.countP_values_erase (Call.releases c) ens.calls name hnodup
    rw [commits_poll, defers] at hcommits
    simp only [waitingOf, calls, forsakes, hgiven, starts, starts?, Option.any_none, Bool.toNat_false] at hcommits ⊢
    omega
  | @again name call call' here waits calls defers =>
    have hgiven : ens.givenUp? b (.poll name) = none := by simp [givenUp?, Event.name?]
    have hcount := Keyed.countP_values_erase (Call.releases c) ens.calls name hnodup
    have hcount' := Keyed.countP_values_set (Call.releases c) (ens.calls.erase name) name call'
    have hcall : call'.releases c = (ens.defers? b (.poll name)).any (·.lockClass = c) := by rw [Call.releases, defers]
    rw [commits_poll] at hcommits
    rw [hcall, Keyed.get?_erase_self] at hcount'
    simp only [waitingOf, calls, forsakes, hgiven, starts, starts?, Option.any_none, Bool.toNat_false] at hcount' ⊢
    omega
  | @cancels name ends calls =>
    have hgiven : ens.givenUp? b (.cancel name) = ens.calls.get? name := rfl
    have hcount := Keyed.countP_values_erase (Call.releases c) ens.calls name hnodup
    have hnone : ens.commits? b (.cancel name) = none := rfl
    rw [hnone] at hcommits
    simp only [waitingOf, calls, forsakes, hgiven, starts, starts?, Option.any_none, Bool.toNat_false] at hcommits ⊢
    omega

/-- No two calls wait under one name. -/
theorem nodup_calls_step (hens : ens.Tidy) (hnodup : (Keyed.keys ens.calls).Nodup) (e : Event) :
    (Keyed.keys (step b ens e).2.calls).Nodup := by
  have hshifts := step_calls b hens e
  cases hshifts with
  | rests _ _ calls _ => exact calls ▸ hnodup
  | keeps _ _ _ calls _ => exact calls ▸ Keyed.nodup_keys_set hnodup _ _
  | leaves _ calls _ => exact calls ▸ Keyed.nodup_keys_erase hnodup _
  | again _ _ calls _ => exact calls ▸ Keyed.nodup_keys_set (Keyed.nodup_keys_erase hnodup _) _ _
  | cancels _ calls => exact calls ▸ Keyed.nodup_keys_erase hnodup _

end Releases

end Ensemble

/-! ## Accounts of a run -/

/-- Tables are tidy, and no two calls wait under one name. -/
structure Ensemble.Neat (ens : Ensemble σ) : Prop where
  tidy : ens.Tidy
  nodup : (Keyed.keys ens.calls).Nodup

namespace Run

open Ensemble Metrics

variable (b : Backend σ) (st : σ) (n : Nat) (hs : List (Happening σ)) (c : LockClass)

/-- A run before anything happened. -/
def start (st : σ) (n : Nat) : Run σ := { ensemble := .ofBackend st n }

theorem neat_start : (start st n).ensemble.Neat := ⟨tidy_ofBackend st n, List.nodup_nil⟩

theorem neat_step {ens : Ensemble σ} (h : ens.Neat) (e : Event) : (ens.step b e).2.Neat :=
  ⟨(step_turnover h.tidy e).tidy, nodup_calls_step h.tidy h.nodup e⟩

theorem neat_outside {ens : Ensemble σ} (h : ens.Neat) (g : σ → σ) : (ens.adjustSessions g).Neat :=
  ⟨h.tidy.same rfl fun _ _ _ => id, h.nodup⟩

theorem neat_of (hs : List (Happening σ)) : (of b st n hs).ensemble.Neat := by
  refine of_induction (P := fun r => r.ensemble.Neat) (neat_start st n) ?_ hs
  intro r h hr
  cases h with
  | event e => exact neat_step b hr e
  | outside f => exact neat_outside hr f

/-- What every event of a run adds to a level that changes from outside do not touch. -/
theorem level_eq (level : Ensemble σ → Nat) {into : Ensemble σ → Event → Nat}
    (still : ∀ ens g, level (ens.adjustSessions g) = level ens)
    (growth : ∀ ens e, ens.Neat → level (ens.step b e).2 = level ens + into ens e)
    (empty : level (start st n).ensemble = 0) : level (of b st n hs).ensemble = (start st n).sum b into hs := by
  have hzero : (start st n).times b (fun _ _ => false) hs = 0 := (times_eq_zero_iff b _ _ _).2 fun _ _ _ _ => rfl
  have hbalance : level (of b st n hs).ensemble + (start st n).times b (fun _ _ => false) hs =
      level (start st n).ensemble + (start st n).sum b into hs :=
    sum_balance (fun _ g h => neat_outside h g) still (fun _ e h => neat_step b h e) (fun ens e h => growth ens e h)
      (neat_start st n) hs
  omega

/-- What the metrics count under a class and an outcome. -/
theorem count_of (o : Outcome) :
    count (of b st n hs).ensemble.world.metrics (labelsOf c o) = (start st n).sum b (fun ens e =>
      (if .lockError = o then (fails b c ens e).toNat else 0) + (Ensemble.ends b c ens e o).toNat) hs := by
  refine level_eq b st n hs (fun ens => count ens.world.metrics (labelsOf c o)) (fun _ _ => rfl) ?_ rfl
  intro ens e h
  simp only [step_metrics b h.tidy, count_append, recorded, count_failed, count_ended, fails, Ensemble.ends]

/-- How many durations the metrics have under a class and an outcome. -/
theorem length_durations_of (o : Outcome) :
    (durations (of b st n hs).ensemble.world.metrics (labelsOf c o)).length =
      (start st n).times b (fun ens e => Ensemble.ends b c ens e o) hs := by
  refine level_eq b st n hs (fun ens => (durations ens.world.metrics (labelsOf c o)).length) (fun _ _ => rfl) ?_ rfl
  intro ens e h
  simp only [step_metrics b h.tidy, durations_append, List.length_append, recorded, durations_failed,
    List.length_nil, Nat.zero_add, length_durations_ended, count_ended, Ensemble.ends]

theorem count_eq_times_of_ne {o : Outcome} (ho : .lockError ≠ o) :
    count (of b st n hs).ensemble.world.metrics (labelsOf c o) =
      (start st n).times b (fun ens e => Ensemble.ends b c ens e o) hs := by
  rw [count_of]
  simp only [if_neg ho, Nat.zero_add]
  rfl

/-- No release ends as an acquisition that failed does. -/
theorem times_ends_lockError : (start st n).times b (fun ens e => Ensemble.ends b c ens e .lockError) hs = 0 := by
  refine (times_eq_zero_iff b _ _ _).2 ?_
  intro before e after _
  cases hx : (before.foldl (advance b) (start st n)).ensemble.ends? b e with
  | none => simp [Ensemble.ends, hx]
  | some x => cases hanswer : x.2 <;> simp [Ensemble.ends, hx, hanswer, Outcome.ofCommit]

theorem count_lockError :
    count (of b st n hs).ensemble.world.metrics (labelsOf c .lockError) = (start st n).times b (fails b c) hs := by
  have hnone := times_ends_lockError b st n hs c
  rw [count_of]
  simp only [times] at hnone ⊢
  simp only [if_true, sum_add]
  omega

/-- Where the locks are that were granted. -/
theorem granted_balance :
    (of b st n hs).ensemble.entriesOf c +
        ((start st n).times b (starts c) hs + (start st n).times b (displaces b c) hs) =
      (start st n).times b (grants b c) hs := by
  have hbalance : (of b st n hs).ensemble.entriesOf c + _ = (start st n).ensemble.entriesOf c + _ :=
    sum_balance (fun _ g h => neat_outside h g) (fun _ _ => rfl) (fun _ e h => neat_step b h e)
      (fun _ e h => step_entries c h.tidy e) (neat_start st n) hs
  have hempty : (start st n).ensemble.entriesOf c = 0 := by
    simp [start, ofBackend, entriesOf, Registry.entriesOf, Keyed.values]
  rw [sum_add, hempty, Nat.zero_add] at hbalance
  exact hbalance

/-- What became of the releases that started. -/
theorem started_balance :
    (of b st n hs).ensemble.waitingOf c + ((start st n).times b (fun ens e => Ensemble.ends b c ens e .ok) hs +
        (start st n).times b (fun ens e => Ensemble.ends b c ens e .unlockError) hs +
        (start st n).times b (forsakes b c) hs) = (start st n).times b (starts c) hs := by
  have hbalance : (of b st n hs).ensemble.waitingOf c + _ = (start st n).ensemble.waitingOf c + _ :=
    sum_balance (fun _ g h => neat_outside h g) (fun _ _ => rfl) (fun _ e h => neat_step b h e)
      (fun _ e h => step_releases c h.tidy h.nodup e) (neat_start st n) hs
  have hempty : (start st n).ensemble.waitingOf c = 0 := rfl
  rw [sum_add, sum_add, hempty, Nat.zero_add] at hbalance
  exact hbalance

/-- Every release that started has ended: none waits, and none was given up on the way. -/
structure Released (b : Backend σ) (st : σ) (n : Nat) (hs : List (Happening σ)) : Prop where
  waits : ∀ name i u, (of b st n hs).ensemble.calls.get? name ≠ some (.unlock i u)
  givenUp : ∀ before e after, hs = before ++ .event e :: after →
    ∀ i u, (of b st n before).ensemble.givenUp? b e ≠ some (.unlock i u)

theorem releases_eq_false {call : Call} (h : ∀ i u, call ≠ .unlock i u) : call.releases c = false := by
  cases call with
  | unlock i u => exact absurd rfl (h i u)
  | _ => rfl

variable {b st n hs} in
theorem Released.waitingOf (h : Released b st n hs) : (of b st n hs).ensemble.waitingOf c = 0 := by
  rw [Ensemble.waitingOf, List.countP_eq_zero]
  intro call hcall
  obtain ⟨name, hname⟩ := (Keyed.mem_values_iff (neat_of b st n hs).nodup call).1 hcall
  rw [releases_eq_false c fun i u hu => h.waits name i u (hu ▸ hname)]
  simp

variable {b st n hs} in
theorem Released.forsakes (h : Released b st n hs) : (start st n).times b (forsakes b c) hs = 0 := by
  refine (times_eq_zero_iff b _ _ _).2 ?_
  intro before e after hhs
  have hnone := h.givenUp before e after hhs
  cases hg : (of b st n before).ensemble.givenUp? b e with
  | none =>
    have hfold : (before.foldl (advance b) (start st n)).ensemble.givenUp? b e = none := hg
    simp [Ensemble.forsakes, hfold]
  | some call =>
    have hfold : (before.foldl (advance b) (start st n)).ensemble.givenUp? b e = some call := hg
    simp only [Ensemble.forsakes, hfold, Option.any_some]
    exact releases_eq_false c fun i u hu => hnone i u (hu ▸ hg)

end Run

open Ensemble Metrics Run in
/-- The metrics account for every acquisition, whatever the backend answers. For each class they count the acquisitions
that failed, and the releases that ended by the outcome of their commit; each release that is counted is measured, and
nothing else is; who waits, is cancelled or presents a token of no entry leaves no record. Once every release that
started has ended, the locks that were granted are the ones released, with success or not, and those that are in a table
or were pushed out of it. -/
theorem metrics_account_for_acquisitions (b : Backend σ) (st : σ) (n : Nat) (hs : List (Happening σ)) (c : LockClass) :
    let ens := (Run.of b st n hs).ensemble
    let times := fun p => (Run.start st n).times b p hs
    let counted := fun o => count ens.world.metrics (labelsOf c o)
    counted .lockError = times (fails b c) ∧
      counted .ok = times (fun ens e => Ensemble.ends b c ens e .ok) ∧
      counted .unlockError = times (fun ens e => Ensemble.ends b c ens e .unlockError) ∧
      (durations ens.world.metrics (labelsOf c .ok)).length = counted .ok ∧
      (durations ens.world.metrics (labelsOf c .unlockError)).length = counted .unlockError ∧
      durations ens.world.metrics (labelsOf c .lockError) = [] ∧
      (∀ e, Idle b ens e → (step b ens e).2.world.metrics = ens.world.metrics) ∧
      (Run.Released b st n hs →
        counted .ok + counted .unlockError + ens.entriesOf c + times (displaces b c) = times (grants b c)) := by
  intro ens times counted
  have hok : counted .ok = _ := count_eq_times_of_ne b st n hs c (o := .ok) (by simp)
  have herror : counted .unlockError = _ := count_eq_times_of_ne b st n hs c (o := .unlockError) (by simp)
  refine ⟨count_lockError b st n hs c, hok, herror, ?_, ?_, ?_, ?_, ?_⟩
  · exact (length_durations_of b st n hs c .ok).trans hok.symm
  · exact (length_durations_of b st n hs c .unlockError).trans herror.symm
  · have hlength := length_durations_of b st n hs c .lockError
    rw [times_ends_lockError] at hlength
    exact List.length_eq_zero_iff.1 hlength
  · exact fun e he => he.metrics (neat_of b st n hs).tidy
  · intro hreleased
    have hgranted := granted_balance b st n hs c
    have hstarted := started_balance b st n hs c
    rw [hreleased.waitingOf c, hreleased.forsakes c] at hstarted
    rw [hok, herror]
    simp only [ens, times]
    omega

/-- Four locks of one key are granted, and a fifth one fails: the second one pushes the first one out and is released,
the third one is released with an error, and the last one stays. -/
def mixedRun : List (Happening Scripted.State) :=
  [.event (.acquire "a" "first" { resourceId := "herd", lockClass := .dinosaurs } 0),
    .event (.acquire "b" "second" { resourceId := "herd", lockClass := .dinosaurs } 0),
    .event (.unlock "c" "second" 0),
    .event (.acquire "d" "third" { resourceId := "herd", lockClass := .dinosaurs } 0),
    .event (.unlock "e" "third" 0),
    .event (.acquire "f" "fourth" { resourceId := "herd", lockClass := .dinosaurs } 0),
    .event (.acquire "g" "fifth" { resourceId := "herd", lockClass := .dinosaurs } 0)]

/-- The third session cannot be committed, and the fourth one gets no lock. -/
def mixedScripts : Scripted.State where
  upcoming := [{}, {}, { commits := [.error (.io "cut")] }, { locks := [.error (.io "cut")] }]

/-- After this run one lock was released and one with an error, one is in the table and one was pushed out of it. -/
theorem metrics_account_for_mixed_run :
    Run.Released Scripted.backend mixedScripts 1 mixedRun ∧
      Metrics.count (Run.of Scripted.backend mixedScripts 1 mixedRun).ensemble.world.metrics
          (Metrics.labelsOf .dinosaurs .ok) +
        Metrics.count (Run.of Scripted.backend mixedScripts 1 mixedRun).ensemble.world.metrics
          (Metrics.labelsOf .dinosaurs .unlockError) +
        (Run.of Scripted.backend mixedScripts 1 mixedRun).ensemble.entriesOf .dinosaurs +
        (Run.start mixedScripts 1).times Scripted.backend (Ensemble.displaces Scripted.backend .dinosaurs) mixedRun = 4 := by
  have hcalls : (Run.of Scripted.backend mixedScripts 1 mixedRun).ensemble.calls = [] := by decide +kernel
  have hnever : (Run.start mixedScripts 1).times Scripted.backend
      (fun ens e => (ens.givenUp? Scripted.backend e).isSome) mixedRun = 0 := by decide +kernel
  have hgranted : (Run.start mixedScripts 1).times Scripted.backend
      (Ensemble.grants Scripted.backend .dinosaurs) mixedRun = 4 := by decide +kernel
  have hreleased : Run.Released Scripted.backend mixedScripts 1 mixedRun := by
    refine ⟨fun name i u h => by simp [hcalls] at h, ?_⟩
    intro before e after h i u hg
    have hfalse := (Run.times_eq_zero_iff _ _ _ _).1 hnever before e after h
    have hsome : ((before.foldl (Run.advance Scripted.backend) (Run.start mixedScripts 1)).ensemble.givenUp?
        Scripted.backend e).isSome = true := by
      rw [show (before.foldl _ (Run.start mixedScripts 1)).ensemble.givenUp? Scripted.backend e = _ from hg]
      rfl
    rw [hsome] at hfalse
    cases hfalse
  obtain ⟨-, -, -, -, -, -, -, hlaw⟩ :=
    metrics_account_for_acquisitions Scripted.backend mixedScripts 1 mixedRun .dinosaurs
  exact ⟨hreleased, (hlaw hreleased).trans hgranted⟩

end NamedLock
