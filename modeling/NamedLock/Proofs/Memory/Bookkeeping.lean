import NamedLock.Proofs.Memory.Accounting
import NamedLock.Proofs.Memory.Numbers

/-!
# Bookkeeping — counts and numbers of the sessions in memory

In every run, however beginnings are refused, commits fail or are repeated, and acquisitions are given up, the counts of
the sessions are those of the journal, and the number of a session is its place among the sessions that were opened.
Tables of registries show these numbers, so that no two locks that are held share one.
-/

namespace NamedLock

open Memory (State backend)

/-! ## Locks that are shown -/

namespace Registry

theorem transactionId_of_held? {h : LockHandle} {x : HeldLock} (hx : held? h = some x) :
    x.transactionId = h.transactionId := by
  unfold held? at hx
  split at hx
  next =>
    cases hx
    rfl
  next => cases hx

/-- A lock that is shown stands in the table, with its number. -/
theorem Tidy.entry_of_heldLock {reg : Registry} (hreg : reg.Tidy) {x : HeldLock} (hx : x ∈ reg.heldLocks) :
    ∃ id h, reg.entries.get? id = some h ∧ x.transactionId = h.transactionId := by
  obtain ⟨h, hmem, hheld⟩ := List.mem_filterMap.1 hx
  obtain ⟨⟨id, h'⟩, he, rfl⟩ := List.mem_map.1 hmem
  exact ⟨id, h', (Keyed.get?_eq_some_iff hreg.nodup).2 he, transactionId_of_held? hheld⟩

end Registry

/-- Where entries with one number are one entry, the locks that all tables show have different numbers. -/
theorem Ensemble.Tidy.nodup_transactionIds {σ : Type} {ens : Ensemble σ} (hens : ens.Tidy)
    (apart : ∀ (i j : Nat) (reg reg' : Registry) id id' h h', ens.registries[i]? = some reg →
      ens.registries[j]? = some reg' → reg.entries.get? id = some h → reg'.entries.get? id' = some h' →
      h.transactionId = h'.transactionId → i = j ∧ id = id') :
    ((ens.registries.flatMap Registry.heldLocks).map HeldLock.transactionId).Nodup := by
  rw [List.Nodup, List.pairwise_map, List.pairwise_flatMap]
  constructor
  · -- within one table the entries have different names
    intro reg hmem
    obtain ⟨i, hreg⟩ := List.mem_iff_getElem?.1 hmem
    have htidy := hens.registries i reg hreg
    rw [Registry.heldLocks, List.pairwise_filterMap, Keyed.values, List.pairwise_map]
    refine (List.pairwise_map.1 htidy.nodup).imp_of_mem ?_
    rintro ⟨id, h⟩ ⟨id', h'⟩ he he' hne x hx y hy hsame
    rw [Registry.transactionId_of_held? hx, Registry.transactionId_of_held? hy] at hsame
    exact hne (apart i i reg reg id id' h h' hreg hreg ((Keyed.get?_eq_some_iff htidy.nodup).2 he)
      ((Keyed.get?_eq_some_iff htidy.nodup).2 he') hsame).2
  · -- two tables may use one name, but they have different places
    refine List.pairwise_iff_getElem.2 ?_
    intro i j hi hj hlt x hx y hy hsame
    have hreg := List.getElem?_eq_getElem hi
    have hreg' := List.getElem?_eq_getElem hj
    obtain ⟨id, h, hid, hxh⟩ := (hens.registries i _ hreg).entry_of_heldLock hx
    obtain ⟨id', h', hid', hyh⟩ := (hens.registries j _ hreg').entry_of_heldLock hy
    rw [hxh, hyh] at hsame
    exact absurd (apart i j _ _ id id' h h' hreg hreg' hid hid' hsame).1 (Nat.ne_of_lt hlt)

namespace Memory

/-! ## The journal of a run -/

theorem Journal.switches_noted (j : Journal) (s : SessionId) {r : Request} (p : Poll r.Answer) :
    Journal.switches (j ++ p.noted (.answered s r)) = j.switches := by
  cases p with
  | pending => rw [Poll.noted, List.append_nil]
  | ready a => simp [Poll.noted, Report.switch?]

/-- Nobody but the one who flips switches reports one. -/
theorem switches_kept (switches : List Switch) :
    (backend.watched Report.answered .dropped).Keeps fun _ st => Journal.switches st.2 = switches where
  opens := by
    rintro n ⟨st, j⟩ h
    exact (Journal.switches_noted j (n + 1) _).trans h
  asks := by
    rintro n ⟨st, j⟩ h s r -
    exact (Journal.switches_noted j s _).trans h
  looks := by
    rintro n ⟨st, j⟩ h s r
    exact (Journal.switches_noted j s _).trans h
  abandons h _ := h
  drops := by
    rintro n ⟨st, j⟩ h s
    simpa [Backend.watched, Report.switch?] using h

/-- The switches in a journal are those that were flipped in the run. -/
theorem switches_journal (n : Nat) (hs : List Happening) :
    (journal n hs).switches = hs.filterMap Happening.switch? := by
  induction hs using List.reverseRecOn with
  | nil => rfl
  | append_singleton hs x ih =>
    have hwatched : watched n (hs ++ [x]) = (watched n hs).advance (backend.watched .answered .dropped) x.watched := by
      simp [watched, Run.of_concat]
    rw [journal, hwatched, List.filterMap_append]
    cases x with
    | event e =>
      have hstep : Journal.switches
          ((watched n hs).ensemble.step (backend.watched .answered .dropped) e).2.world.sessions.2 =
            hs.filterMap Happening.switch? := (switches_kept _).step ih e
      exact hstep.trans (List.append_nil _).symm
    | switch sw =>
      have hflipped : Journal.switches (journal n hs ++ [.switched sw]) = (journal n hs).switches ++ [sw] := by
        simp [Report.switch?]
      exact hflipped.trans (congrArg (· ++ [sw]) ih)
    | probe pair => exact ih.trans (List.append_nil _).symm

/-! ## Entries -/

section Entries

variable {n : Nat} {hs : List Happening} {i : Nat} {reg : Registry} {id : String} {h : LockHandle}

/-- An entry of a table shows the number of its session. -/
theorem numbers_of_entry (hreg : (run n hs).ensemble.registries[i]? = some reg) (hid : reg.entries.get? id = some h) :
    ∃ s g, (run n hs).ensemble.filed (.entry i id) = some (s, g) ∧ (journal n hs).Numbers s h.transactionId := by
  have hlinked := run_linked n hs
  obtain ⟨s, g, hline, hs', -, -, rfl, rfl⟩ := hlinked.orderly.tidy.filed_entry hreg hid
  obtain ⟨x, hx, -⟩ := hlinked.session_of_filed hline
  have hcard : (run n hs).ensemble.world.sessions.card? s = some x.card := by rw [State.card?, hx, Option.map_some]
  obtain ⟨-, hlabel⟩ := run_labelled n hs h (.entry _ reg _ hreg hid) s hs'
  have hnumber : x.transactionId = h.transactionId := hlabel _ (by rw [State.number?, hcard]; rfl)
  exact ⟨s, g, hline, hnumber ▸ ((watched_accounted n hs).1.live s x.transactionId x.finished hcard).1⟩

/-- Entries with one number are one entry. -/
theorem entry_of_number {j : Nat} {reg' : Registry} {id' : String} {h' : LockHandle}
    (hreg : (run n hs).ensemble.registries[i]? = some reg) (hreg' : (run n hs).ensemble.registries[j]? = some reg')
    (hid : reg.entries.get? id = some h) (hid' : reg'.entries.get? id' = some h')
    (hsame : h.transactionId = h'.transactionId) : i = j ∧ id = id' := by
  have hattributed : (run n hs).Attributed := .of_run backend {} n _
  obtain ⟨s, g, hline, hnumber⟩ := numbers_of_entry hreg hid
  obtain ⟨s', g', hline', hnumber'⟩ := numbers_of_entry hreg' hid'
  have hsession : s = s' := hnumber.session_eq (hsame ▸ hnumber')
  exact Place.entry.inj (hattributed.apart _ _ _ _ hline hline' hsession)

end Entries

/-! ## Bookkeeping -/

/-- The books of the sessions in memory, in every run. The journal belongs to the same run, names every session that was
asked for, once and in its order, and every switch that was flipped. There are as many sessions begun as the journal has
beginnings that succeeded, and as the last number says. A session that was opened is there until it is dropped, and its
number is its place among those that were opened; so numbers are never zero, differ, and grow in the order of
beginnings. The sessions committed are those whose commit succeeded, each once. A beginning is refused just when the
switch for it was flipped since the last one. The locks that all registries show have numbers that differ and lie between
one and the number of sessions begun. -/
theorem sessions_accounted (n : Nat) (hs : List Happening) :
    let r := run n hs
    let st := r.ensemble.world.sessions
    let j := journal n hs
    ((watched n hs).history = r.history ∧ (watched n hs).ensemble.world.sessions.1 = st ∧
        j.asked = List.range' 1 r.ensemble.world.begins ∧ j.switches = hs.filterMap Happening.switch?) ∧
      (st.begun = j.opened.length ∧ st.lastTransactionId = j.opened.length) ∧
      (∀ s x, st.sessions.get? s = some x → j.Numbers s x.transactionId) ∧
      (∀ s id, .answered s .transactionId (.ok id) ∈ j → j.Numbers s id) ∧
      (∀ s ∈ j.opened, .dropped s ∉ j → ∃ x, st.sessions.get? s = some x) ∧
      (∀ s t id id', j.Numbers s id → j.Numbers t id' →
        1 ≤ id ∧ id ≤ st.begun ∧ (s = t ↔ id = id') ∧ (s < t ↔ id < id')) ∧
      (st.committed = j.committed.length ∧ j.committed.Nodup ∧ ∀ s ∈ j.committed, s ∈ j.opened) ∧
      (∀ before s a after, j = before ++ .answered s .begin a :: after →
        (a = .error (.session (State.connectionError "begin refused")) ↔ Journal.Armed before) ∧
          (a = .ok () ↔ ¬Journal.Armed before)) ∧
      ((r.ensemble.registries.flatMap Registry.heldLocks).map HeldLock.transactionId).Nodup ∧
        ∀ x ∈ r.ensemble.registries.flatMap Registry.heldLocks, 1 ≤ x.transactionId ∧ x.transactionId ≤ st.begun := by
  intro r st j
  obtain ⟨haccounted, hasked⟩ : Accounted st j ∧ j.asked = List.range' 1 r.ensemble.world.begins :=
    watched_accounted n hs
  have hlike := watched_like n hs
  have htidy : r.ensemble.Tidy := (run_linked n hs).orderly.tidy
  have hbounds : ∀ s id, j.Numbers s id → 1 ≤ id ∧ id ≤ st.begun := fun s id hid => haccounted.begun ▸ hid.bounds
  have hsorted : j.asked.Pairwise (· < ·) := hasked ▸ List.pairwise_lt_range'
  refine ⟨⟨hlike.history.symm, (congrArg World.sessions hlike.ensemble.world).symm, hasked, switches_journal n hs⟩,
    ⟨haccounted.begun, haccounted.last⟩, ?_, haccounted.told, ?_, ?_,
    ⟨haccounted.committed, haccounted.once, haccounted.opened⟩, haccounted.decided, ?_, ?_⟩
  · intro s x hx
    exact (haccounted.live s x.transactionId x.finished (by rw [State.card?, hx]; rfl)).1
  · intro s hs' hdropped
    obtain ⟨c, hc⟩ := haccounted.stays s hs' hdropped
    obtain ⟨x, hx, -⟩ := Option.map_eq_some_iff.1 hc
    exact ⟨x, hx⟩
  · intro s t id id' h h'
    obtain ⟨hge, hle⟩ := hbounds s id h
    refine ⟨hge, hle, ?_, h.lt_iff hsorted h'⟩
    constructor
    · rintro rfl
      exact h.number_eq hsorted h'
    · rintro rfl
      exact h.session_eq h'
  · exact htidy.nodup_transactionIds fun _ _ _ _ _ _ _ _ => entry_of_number
  · intro x hx
    obtain ⟨reg, hmem, hshown⟩ := List.mem_flatMap.1 hx
    obtain ⟨i, hreg⟩ := List.mem_iff_getElem?.1 hmem
    obtain ⟨id, h, hid, hxh⟩ := (htidy.registries i reg hreg).entry_of_heldLock hshown
    obtain ⟨s, g, -, hnumber⟩ := numbers_of_entry hreg hid
    exact hxh ▸ hbounds s h.transactionId hnumber

/-- The switch is flipped twice and refuses one beginning; a commit that is repeated is counted once. -/
example :
    let hs : List Happening := [.event (.begin "a"), .switch .nextBegin, .switch .nextBegin, .event (.begin "b"),
      .event (.begin "c"), .event (.commit "d" "a"), .event (.commit "e" "a")]
    (journal 1 hs).asked = [1, 2, 3] ∧ (journal 1 hs).opened = [1, 3] ∧ (journal 1 hs).committed = [1] := by
  decide +kernel

end Memory

end NamedLock
