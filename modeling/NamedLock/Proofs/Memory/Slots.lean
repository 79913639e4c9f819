import NamedLock.Proofs.Memory.Order

/-!
# Slots — keys that are not in use

A pair that is in use has a slot. The other way round there is one exception: slots are removed when a session gives
back what it holds, and a call that is given up holds nothing. When the permit has been handed to such a call and
nobody stands behind it, its pair keeps a slot that is of no use, until someone comes for the pair and gives it back.
-/

namespace NamedLock

open Memory (State backend Desk deskOf)

namespace Memory

/-! ## Desks out of use -/

namespace Desk

variable {asked left : SessionId → Prop} {d d' : Desk} {s : SessionId}

/-- After tidying up, there is no slot out of use. -/
theorem inUse_of_slot_tidy (h : d.tidy.slot = true) : d.tidy.InUse := by
  unfold tidy at h ⊢
  split at h
  next hin =>
    rw [if_pos hin]
    exact hin
  next => cases h

theorem slot_serve (d : Desk) (s : SessionId) : (d.serve s).slot = d.slot := by
  unfold serve
  split
  next => rfl
  next => rfl

/-- A slot gets out of use when the last one in line leaves without having held the pair. -/
theorem Goes.leftover (h : d.Goes left d') (slot : d'.slot = true) (hout : ¬d'.InUse) :
    d.slot = true ∧ d.holder = none ∧ (d.line = [] ∨ ∃ s, left s ∧ d.line = [s]) := by
  cases h with
  | rests =>
    obtain ⟨hholder, hline⟩ := not_inUse.1 hout
    exact ⟨slot, hholder, .inl hline⟩
  | @leaves s hs line =>
    obtain ⟨hholder, hline⟩ := not_inUse.1 hout
    rcases List.erase_eq_nil_iff.1 hline with hnil | hlast
    · exact ⟨slot, hholder, .inl hnil⟩
    · exact ⟨slot, hholder, .inr ⟨s, hs, hlast⟩⟩
  | frees holder =>
    -- giving the pair up tidies the desk
    unfold free at slot hout
    rw [if_pos holder] at slot hout
    exact absurd (inUse_of_slot_tidy slot) hout

theorem Goes.keeps_slot (h : d.Goes left d') (slot : d.slot = true) (holder : d.holder = none) : d'.slot = true := by
  cases h with
  | rests => exact slot
  | leaves => exact slot
  | frees hs =>
    rw [holder] at hs
    cases hs

/-- When a slot is out of use, it was out of use before, or the last one in line has left it. -/
theorem Change.leftover (h : d.Change asked left d') (slot : d'.slot = true) (hout : ¬d'.InUse) :
    d.slot = true ∧ d.holder = none ∧ (d.line = [] ∨ ∃ s, left s ∧ d.line = [s]) := by
  cases h with
  | serves s =>
    unfold serve at slot hout
    split at hout
    next => exact absurd (.inl (by simp)) hout
    next hnot =>
      rw [if_neg hnot] at slot
      obtain ⟨hholder, hline⟩ := not_inUse.1 hout
      exact ⟨slot, hholder, .inl hline⟩
  | goes goes => exact goes.leftover slot hout
  -- whoever comes uses the slot
  | comes hs holder line goes stays => exact absurd stays.inUse hout

/-- No slot is removed while nobody holds the pair. -/
theorem Change.keeps_slot (h : d.Change asked left d') (slot : d.slot = true) (holder : d.holder = none)
    (hout : ¬d'.InUse) : d'.slot = true := by
  cases h with
  | serves s => rw [slot_serve, slot]
  | goes goes => exact goes.keeps_slot slot holder
  | comes hs holder line goes stays => exact absurd stays.inUse hout

end Desk

/-! ## Forsaken pairs -/

/-- The happening number `k` of a run gave up a call that had been handed the permit of a pair, and nobody has come for
the pair since. -/
structure ForsakenSince (n : Nat) (hs : List Happening) (pair : HashPair) (k : Nat) : Prop where
  last : ∃ h s, hs[k]? = some h ∧ GivesUp (run n (hs.take k)).ensemble h s pair ∧
    (run n (hs.take k)).ensemble.world.sessions.isWoken s = true
  since : ∀ j, k < j → j ≤ hs.length → Situation.free.Fits (run n (hs.take j)).ensemble pair

section Forsaken

variable {n k : Nat} {hs : List Happening} {h : Happening} {s : SessionId} {pair : HashPair}

theorem ForsakenSince.lt (hk : ForsakenSince n hs pair k) : k < hs.length := by
  obtain ⟨h, s, hh, -, -⟩ := hk.last
  exact (List.getElem?_eq_some_iff.1 hh).1

/-- A pair stays forsaken as long as it is free. -/
theorem forsakenSince_concat (hlt : k < hs.length) : ForsakenSince n (hs ++ [h]) pair k ↔
    ForsakenSince n hs pair k ∧ Situation.free.Fits (run n (hs ++ [h])).ensemble pair := by
  have hle := Nat.le_of_lt hlt
  have htake : (hs ++ [h]).take k = hs.take k := List.take_append_of_le_length hle
  have hget : (hs ++ [h])[k]? = hs[k]? := List.getElem?_append_left hlt
  have hsince := since_concat (P := fun hs => Situation.free.Fits (run n hs).ensemble pair) hle h
  constructor
  · rintro ⟨hlast, hfree⟩
    rw [htake, hget] at hlast
    obtain ⟨hold, hnow⟩ := hsince.1 hfree
    exact ⟨⟨hlast, hold⟩, hnow⟩
  · rintro ⟨⟨hlast, hold⟩, hnow⟩
    rw [← htake, ← hget] at hlast
    exact ⟨hlast, hsince.2 ⟨hold, hnow⟩⟩

/-- A pair is forsaken by a happening. -/
theorem forsakenSince_last : ForsakenSince n (hs ++ [h]) pair hs.length ↔
    (∃ s, GivesUp (run n hs).ensemble h s pair ∧ (run n hs).ensemble.world.sessions.isWoken s = true) ∧
      Situation.free.Fits (run n (hs ++ [h])).ensemble pair := by
  have hget : (hs ++ [h])[hs.length]? = some h := List.getElem?_concat_length
  have htake : (hs ++ [h]).take hs.length = hs := List.take_left
  constructor
  · rintro ⟨⟨h', s, hh, hgone, hwoken⟩, hfree⟩
    rw [hget] at hh
    cases hh
    rw [htake] at hgone hwoken
    exact ⟨⟨s, hgone, hwoken⟩, (since_last (P := fun hs => Situation.free.Fits (run n hs).ensemble pair) h).1 hfree⟩
  · rintro ⟨⟨s, hgone, hwoken⟩, hnow⟩
    refine ⟨⟨h, s, hget, by rwa [htake], by rwa [htake]⟩, ?_⟩
    exact (since_last (P := fun hs => Situation.free.Fits (run n hs).ensemble pair) h).2 hnow

/-- The desk of a pair has a slot that is out of use. -/
def Leftover (ens : Ensemble State) (pair : HashPair) : Prop :=
  (deskOf ens.world pair).slot = true ∧ ¬(deskOf ens.world pair).InUse

/-- A slot out of use stays there, or was left by the last call in line, while the pair remains free. -/
theorem leftover_concat (h : Happening) : Leftover (run n (hs ++ [h])).ensemble pair ↔
    Situation.free.Fits (run n (hs ++ [h])).ensemble pair ∧ (Leftover (run n hs).ensemble pair ∨
      ∃ s, GivesUp (run n hs).ensemble h s pair ∧ (run n hs).ensemble.world.sessions.isWoken s = true) := by
  have hlinked := run_linked n hs
  have hchange := run_change n hs h pair
  rw [free_fits_iff_not_inUse (run_linked n (hs ++ [h]))]
  constructor
  · rintro ⟨slot', hout'⟩
    refine ⟨hout', ?_⟩
    obtain ⟨slot, hholder, hline | ⟨s, ⟨p, hgone⟩, hline⟩⟩ := hchange.leftover slot' hout'
    · exact .inl ⟨slot, Desk.not_inUse.2 ⟨hholder, hline⟩⟩
    · -- whoever was alone in line, while nobody held the pair, had been handed the permit
      obtain ⟨hw, hwoken⟩ := hlinked.woken_iff_first.2 ⟨hholder, by rw [hline, List.head?_cons]⟩
      exact .inr ⟨s, hgone.of_waits hlinked hw, hwoken⟩
  · rintro ⟨hout', ⟨slot, hout⟩ | ⟨s, hgone, hwoken⟩⟩
    · obtain ⟨hholder, -⟩ := Desk.not_inUse.1 hout
      exact ⟨hchange.keeps_slot slot hholder hout', hout'⟩
    · -- nobody held the pair, so nobody gave it up, and the slot was not looked at
      obtain ⟨hholder, hfirst⟩ := hlinked.woken_iff_first.1 ⟨hgone.waits, hwoken⟩
      have hin : (deskOf (run n hs).ensemble.world pair).InUse :=
        .inr (List.ne_nil_of_mem (List.mem_of_mem_head? hfirst))
      obtain ⟨g, hg⟩ := hlinked.kept.keeps.balanced.slot_of_inUse hin
      have slot : (deskOf (run n hs).ensemble.world pair).slot = true := by simp [State.desk, Keyed.contains, hg]
      exact ⟨hchange.keeps_slot slot hholder hout', hout'⟩

/-- In every run, a pair has a slot that is out of use when it is forsaken, and only then. -/
theorem run_leftover_iff (n : Nat) (hs : List Happening) (pair : HashPair) :
    Leftover (run n hs).ensemble pair ↔ ∃ k, ForsakenSince n hs pair k := by
  -- on the run, from its end: a leftover slot is an old one, or the last happening has left it
  induction hs using List.reverseRecOn with
  | nil =>
    refine iff_of_false ?_ ?_
    · rintro ⟨slot, -⟩
      cases slot
    · rintro ⟨k, hk⟩
      exact absurd hk.lt (Nat.not_lt_zero k)
  | append_singleton hs h ih =>
    rw [leftover_concat, ih]
    constructor
    · rintro ⟨hfree, ⟨k, hk⟩ | hgone⟩
      · exact ⟨k, (forsakenSince_concat hk.lt).2 ⟨hk, hfree⟩⟩
      · exact ⟨hs.length, forsakenSince_last.2 ⟨hgone, hfree⟩⟩
    · rintro ⟨k, hk⟩
      rcases Nat.lt_or_ge k hs.length with hlt | hge
      · obtain ⟨hold, hfree⟩ := (forsakenSince_concat hlt).1 hk
        exact ⟨hfree, .inl ⟨k, hold⟩⟩
      · have hlast : k = hs.length := Nat.le_antisymm (Nat.le_of_lt_succ (by simpa using hk.lt)) hge
        subst hlast
        obtain ⟨hgone, hfree⟩ := forsakenSince_last.1 hk
        exact ⟨hfree, .inr hgone⟩

end Forsaken

/-- In every run, a pair has a slot when a session holds it or a call waits for it, and otherwise only when it is
forsaken: the last one who could have had it was given up after the permit had been handed over, and since then nobody
has held the pair or waited for it. -/
theorem slot_iff_in_use_or_forsaken (n : Nat) (hs : List Happening) (pair : HashPair) :
    let ens := (run n hs).ensemble
    ens.world.sessions.slots.contains pair = true ↔
      (∃ s, ens.world.sessions.Holds s pair) ∨ (∃ s, ens.Waits s pair) ∨ ∃ k, ForsakenSince n hs pair k := by
  intro ens
  have h : ens.Linked := run_linked n hs
  have hb := h.kept.keeps.balanced
  have hin : (deskOf ens.world pair).InUse ↔ (∃ s, ens.world.sessions.Holds s pair) ∨ ∃ s, ens.Waits s pair := by
    simp only [h.waits_iff, hb.inUse_iff, exists_or]
  have hslot : (deskOf ens.world pair).InUse → ens.world.sessions.slots.contains pair = true := by
    intro hin
    obtain ⟨g, hg⟩ := hb.slot_of_inUse hin
    simp [Keyed.contains, hg]
  calc
    ens.world.sessions.slots.contains pair = true ↔ (deskOf ens.world pair).InUse ∨ Leftover ens pair := by
      constructor
      · intro slot
        by_cases hin : (deskOf ens.world pair).InUse
        · exact .inl hin
        · exact .inr ⟨slot, hin⟩
      · rintro (hin | ⟨slot, -⟩)
        · exact hslot hin
        · exact slot
    _ ↔ ((∃ s, ens.world.sessions.Holds s pair) ∨ ∃ s, ens.Waits s pair) ∨ ∃ k, ForsakenSince n hs pair k := by
      rw [hin, run_leftover_iff]
    _ ↔ _ := or_assoc

/-- The second caller is handed the lock of the first one, and is cancelled before it looks again. -/
def desertion : List Happening :=
  [.event (.acquire "a" "first" { resourceId := "herd", lockClass := .dinosaurs } 0),
    .event (.acquire "b" "second" { resourceId := "herd", lockClass := .dinosaurs } 0),
    .event (.unlock "c" "first" 0),
    .event (.cancel "b")]

/-- After a desertion nobody holds the pair and no call waits for it, but its slot is still there. -/
theorem slot_left_after_desertion :
    let ens := (run 1 desertion).ensemble
    let pair := LockKey.hashes { resourceId := "herd", lockClass := .dinosaurs }
    (∀ s, ¬ens.world.sessions.Holds s pair) ∧ (∀ s, ¬ens.Waits s pair) ∧
      ens.world.sessions.slots.contains pair = true := by
  intro ens pair
  have hfree : Situation.free.Fits ens pair := by
    refine (free_fits_iff (run_linked 1 desertion)).2 ?_
    decide +kernel
  obtain ⟨hnone, hno⟩ := hfree
  refine ⟨hnone, ?_, ?_⟩
  · rintro s ⟨name, ha⟩
    exact hno name s ha
  · decide +kernel

end Memory

end NamedLock
