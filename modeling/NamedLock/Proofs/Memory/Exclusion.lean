import NamedLock.Proofs.Ensemble.Authority
import NamedLock.Proofs.Ensemble.Ledger
import NamedLock.Proofs.Memory.Runs

/-!
# Exclusion — one owner for each pair

On this backend a pair is never held by two sessions, so no acquisition can push an entry out of a table. With that,
tables and history agree: what was yielded and not given back is what the tables hold, and its locks are held.
-/

namespace NamedLock

open Memory (State)

namespace Ensemble

variable {ens : Ensemble State} {g g' : Grant} {s s' : SessionId}

theorem posting_of_filed (hline : ens.filed g.place = some (s, g)) :
    ens.posting g.place = some (s, { holds := some g.key.hashes }) := by
  rw [Grant.place] at hline ⊢
  simp [posting, hline]

/-- The session of an entry holds the pair of its key, and is not finished. -/
theorem Linked.session_of_filed (h : ens.Linked) (hline : ens.filed g.place = some (s, g)) :
    ∃ x, ens.world.sessions.sessions.get? s = some x ∧ x.finished = false ∧ x.held.contains g.key.hashes = true := by
  obtain ⟨x, hx, hof⟩ := h.kept.keeps.get? (posting_of_filed hline)
  exact ⟨x, hx, hof.unfinished rfl, hof.holds _ rfl⟩

/-- Entries whose keys have the same hashes are one entry. -/
theorem Linked.place_of_hashes (h : ens.Linked) (hline : ens.filed g.place = some (s, g))
    (hline' : ens.filed g'.place = some (s', g')) (hashes : g.key.hashes = g'.key.hashes) : g.place = g'.place :=
  h.kept.keeps.exclusive (posting_of_filed hline) (posting_of_filed hline') rfl (congrArg some hashes.symm)

end Ensemble

/-! ## Runs -/

namespace Memory

/-- In every run, what is outstanding is in the tables. -/
theorem run_covered (n : Nat) (hs : List Happening) : (run n hs).Covered := by
  induction hs using List.reverseRecOn with
  | nil => exact .start ({} : State) n
  | append_singleton hs h ih =>
    -- no entry was pushed out, up to this moment and at it
    have hlog := (run_linked n (hs ++ [h])).kept.undisturbed
    rw [run_concat] at hlog ⊢
    cases h with
    | event e => exact ih.turn (Ensemble.step_turnover (run_linked n hs).orderly.tidy e).turns hlog
    | switch sw => exact ih.outside _
    | probe pair => exact ih.outside _

/-- In every run that asks for no token twice, nothing else is in the tables. -/
theorem run_listed (n : Nat) (hs : List Happening) (fresh : (hs.filterMap Happening.asked?).Nodup) :
    (run n hs).Listed := by
  rw [← asked_general] at fresh
  exact .of_run backend {} n fresh

/-- The key of an outstanding grant is the one that its acquisition was started with. -/
theorem key_of_outstanding (n : Nat) (hs : List Happening) {g : Grant} (hg : g ∈ outstanding (run n hs).history) :
    ∃ m ∈ (run n hs).history, ∃ name, m.event = .acquire name g.token g.key g.registry := by
  obtain ⟨s, hline⟩ := (run_covered n hs).filed g hg
  have hattributed : (run n hs).Attributed := .of_run backend {} n _
  obtain ⟨⟨m, hm, hopens, -⟩, -⟩ := hattributed.lines _ s g hline
  exact ⟨m, hm, hopens⟩

/-! ## Mutual exclusion -/

/-- In every run, each pair is held by one session at most, and no two locks that were yielded and not given back
since have keys with the same hashes. -/
theorem held_by_one_session (n : Nat) (hs : List Happening) :
    let r := run n hs
    (∀ s s' pair, r.ensemble.world.sessions.Holds s pair → r.ensemble.world.sessions.Holds s' pair → s = s') ∧
      (outstanding r.history).Pairwise fun g g' => g.key.hashes ≠ g'.key.hashes := by
  intro r
  have hlinked : r.ensemble.Linked := run_linked n hs
  have hcovered : r.Covered := run_covered n hs
  refine ⟨fun s s' pair => hlinked.kept.keeps.balanced.exclusive, ?_⟩
  have hplaces : (outstanding r.history).Pairwise fun g g' => g.place ≠ g'.place := List.pairwise_map.1 hcovered.nodup
  -- two entries for one pair would be one entry, but no two grants share a place
  refine hplaces.imp_of_mem ?_
  intro g g' hg hg' hne hashes
  obtain ⟨s, hline⟩ := hcovered.filed g hg
  obtain ⟨s', hline'⟩ := hcovered.filed g' hg'
  exact hne (hlinked.place_of_hashes hline hline' hashes)

/-! ## Tables -/

/-- In every run that asks for no token twice, a table holds one entry for each lock that its registry yielded and
was not asked to unlock since, under the key that it was asked for, and nothing else. The session of an entry is not
finished and holds the pair of the key. No entry is ever pushed out of a table, and when nothing is outstanding the
tables are empty. -/
theorem tables_hold_outstanding (n : Nat) (hs : List Happening) (fresh : (hs.filterMap Happening.asked?).Nodup) :
    let r := run n hs
    (∀ i < n, ∃ reg, r.ensemble.registries[i]? = some reg ∧
        reg.listing.Perm (((outstanding r.history).filter (·.registry = i)).map Grant.listing)) ∧
      (∀ g ∈ outstanding r.history, g.registry < n ∧
        ∃ m ∈ r.history, ∃ name, m.event = .acquire name g.token g.key g.registry) ∧
      (∀ (i : Nat) (reg : Registry) id h, r.ensemble.registries[i]? = some reg → reg.entries.get? id = some h →
        ∃ s key x, h.session = some s ∧ h.key = some key ∧ r.ensemble.world.sessions.sessions.get? s = some x ∧
          x.finished = false ∧ x.held.contains key.hashes = true) ∧
      (∀ e ∈ r.ensemble.world.log, e.message ≠ Registry.displacedMessage) ∧
      (outstanding r.history = [] → ∀ (i : Nat) (reg : Registry), r.ensemble.registries[i]? = some reg →
        reg.entries = []) := by
  intro r
  have hlinked : r.ensemble.Linked := run_linked n hs
  have hcovered : r.Covered := run_covered n hs
  have hlisted : r.Listed := run_listed n hs fresh
  have hlength : r.ensemble.registries.length = n := Run.length_registries backend {} n _
  refine ⟨?_, ?_, ?_, hlinked.kept.undisturbed, ?_⟩
  · intro i hi
    obtain ⟨reg, hreg⟩ : ∃ reg, r.ensemble.registries[i]? = some reg := ⟨_, List.getElem?_eq_getElem (hlength ▸ hi)⟩
    exact ⟨reg, hreg, Run.listing_perm hcovered hlisted hreg⟩
  · intro g hg
    obtain ⟨s, hline⟩ := hcovered.filed g hg
    obtain ⟨reg, e, hreg, -, -⟩ := Ensemble.filed_entry_eq_some_iff.1 hline
    obtain ⟨hlt, -⟩ := List.getElem?_eq_some_iff.1 hreg
    exact ⟨hlength ▸ hlt, key_of_outstanding n hs hg⟩
  · intro i reg id h hreg hid
    obtain ⟨s, g, hline, hs, -, hk, rfl, rfl⟩ := hlinked.orderly.tidy.filed_entry hreg hid
    obtain ⟨x, hx, hfinished, hheld⟩ := hlinked.session_of_filed hline
    exact ⟨s, g.key, x, hs, hk, hx, hfinished, hheld⟩
  · intro hnone i reg hreg
    have hperm := Run.listing_perm hcovered hlisted hreg
    rw [hnone] at hperm
    exact List.map_eq_nil_iff.1 hperm.eq_nil

/-- The second caller waits until the lock of the first one is given back, and looks again. -/
def handover : List Happening :=
  [.event (.acquire "a" "first" { resourceId := "herd", lockClass := .dinosaurs } 0),
    .event (.acquire "b" "second" { resourceId := "herd", lockClass := .dinosaurs } 0),
    .event (.unlock "c" "first" 0),
    .event (.poll "b")]

/-- After a handover the table holds the lock of the second caller. -/
theorem tables_hold_outstanding_handover :
    (handover.filterMap Happening.asked?).Nodup ∧
      ∃ reg, (run 1 handover).ensemble.registries[0]? = some reg ∧
        reg.listing = [("herd-dinosaurs", some "second", some { resourceId := "herd", lockClass := .dinosaurs })] := by
  have fresh : (handover.filterMap Happening.asked?).Nodup := by decide
  have howed : outstanding (run 1 handover).history =
      [{ registry := 0, token := "second", key := { resourceId := "herd", lockClass := .dinosaurs } }] := by
    decide +kernel
  obtain ⟨reg, hreg, hperm⟩ := (tables_hold_outstanding 1 handover fresh).1 0 (by decide)
  rw [howed] at hperm
  exact ⟨fresh, reg, hreg, List.perm_singleton.1 hperm⟩

end Memory

end NamedLock
