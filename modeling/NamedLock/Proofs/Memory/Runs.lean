import NamedLock.Proofs.Ensemble.Turnover
import NamedLock.Proofs.Memory.Keeping

/-!
# Runs — ensembles on sessions in memory

Between two events someone may flip a switch, or ask whether a pair is held. Asking takes the permit and gives it
back, which leaves everything as it was.
-/

namespace NamedLock

namespace Memory

namespace State

variable {st : State} {pair : HashPair}

theorem setGate_gate (st : State) {g : GateId} (h : g < st.gates.length) : st.setGate g (st.gate g) = st := by
  simp [setGate, gate, List.getD_eq_getElem?_getD, List.getElem?_eq_getElem h]

/-- Asking whether a pair is held changes nothing. -/
theorem Balanced.probe (h : st.Balanced []) (pair : HashPair) : (st.probe pair).2 = st := by
  cases hg : st.slots.get? pair with
  | none => simp [State.probe, hg]
  | some g =>
    have hlt := h.slot_lt pair g hg
    cases hfree : (st.gate g).free with
    | false => simp [State.probe, hg, tryTake, hfree]
    | true =>
      -- nobody waits for a permit that is there, so giving it back hands it to no one
      have hgate : st.gate g = { free := true, queue := [] } := by
        rw [← (h.fair g).free_queue hfree, ← hfree]
      have htaken : (st.setGate g { free := false, queue := [] }).gate g = { free := false, queue := [] } := by
        rw [gate_setGate, if_pos ⟨rfl, hlt⟩]
      have hprobe : (st.probe pair).2 = (st.setGate g { free := false, queue := [] }).release g := by
        simp [State.probe, hg, tryTake, hgate]
      have hrelease : (st.setGate g { free := false, queue := [] }).release g =
          (st.setGate g { free := false, queue := [] }).setGate g { free := true, queue := [] } := by
        simp [State.release, htaken]
      calc
        (st.probe pair).2
            = (st.setGate g { free := false, queue := [] }).setGate g { free := true, queue := [] } := by
              rw [hprobe, hrelease]
        _ = st.setGate g (st.gate g) := by simp [setGate, hgate]
        _ = st := setGate_gate st hlt

end State

/-- Something that happens around an ensemble on this backend. -/
inductive Happening
  | event (e : Event)
  | switch (sw : Switch)
  /-- Someone asks whether a pair is held. -/
  | probe (pair : HashPair)
  deriving DecidableEq, Repr

namespace Happening

/-- A happening, for any backend. -/
def general : Happening → NamedLock.Happening State
  | event e => .event e
  | switch sw => .outside fun st => st.switch sw
  | probe pair => .outside fun st => (st.probe pair).2

/-- The token of a new acquisition. -/
def asked? : Happening → Option String
  | event e => e.asked?
  | _ => none

end Happening

/-- The run of `n` registries on sessions in memory. -/
def run (n : Nat) (hs : List Happening) : Run State := Run.of backend {} n (hs.map Happening.general)

theorem run_concat (n : Nat) (hs : List Happening) (h : Happening) :
    run n (hs ++ [h]) = (run n hs).advance backend h.general := by
  simp [run, Run.of_concat]

theorem run_event (n : Nat) (hs : List Happening) (e : Event) :
    (run n (hs ++ [.event e])).ensemble = (Ensemble.step backend (run n hs).ensemble e).2 := by
  rw [run_concat]
  rfl

/-- The tokens that are asked for are the same for any backend. -/
theorem asked_general (hs : List Happening) :
    (hs.map Happening.general).filterMap NamedLock.Happening.asked? = hs.filterMap Happening.asked? := by
  rw [List.filterMap_map]
  apply List.filterMap_congr
  rintro (e | sw | pair) - <;> rfl

/-- The sessions change, but for nothing that the roster is about. -/
theorem adjustSessions_linked {ens : Ensemble State} (h : ens.Linked) {f : State → State}
    (hf : (f ens.world.sessions).Keeps ens.posting) : (ens.adjustSessions f).Linked :=
  h.world ⟨hf, h.kept.bounded, h.kept.undisturbed⟩

theorem advance_linked {r : Run State} (hr : r.ensemble.Linked) (h : Happening) :
    (r.advance backend h.general).ensemble.Linked := by
  cases h with
  | event e => exact Ensemble.step_linked hr e
  | switch sw =>
    refine adjustSessions_linked (f := fun st => st.switch sw) hr ?_
    cases sw <;> exact hr.kept.keeps.congr rfl rfl rfl
  | probe pair =>
    refine adjustSessions_linked (f := fun st => (st.probe pair).2) hr ?_
    rw [hr.kept.keeps.balanced.probe]
    exact hr.kept.keeps

/-- In every run the roster is right. -/
theorem run_linked (n : Nat) (hs : List Happening) : (run n hs).ensemble.Linked := by
  induction hs using List.reverseRecOn with
  | nil => exact Ensemble.linked_start n
  | append_singleton hs h ih =>
    rw [run_concat]
    exact advance_linked ih h

end Memory

end NamedLock
