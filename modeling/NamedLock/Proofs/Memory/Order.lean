import Mathlib.Data.List.Pairwise
import NamedLock.Proofs.Memory.Events
import NamedLock.Proofs.Memory.Situation

/-!
# Order — first come, first served

A call that has to wait comes to the desk of its pair when it is first looked at, and stands in line from then on. When
it is looked at again it gets the pair if it was handed the permit, and nothing changes otherwise. The line is the
history of these arrivals, short of those that were served or given up: this is kept by every event, because an event
puts at most one session at the end of the line and lets others only go. That slots are removed and made again makes no
difference, for a pair loses its slot only when nobody is at its desk.
-/

namespace NamedLock

open Memory (State backend Desk deskOf)

namespace Ensemble

/-- A call waits for a pair on a session. -/
def Waits {σ : Type} (ens : Ensemble σ) (s : SessionId) (pair : HashPair) : Prop := ∃ name, ens.Asks name s pair

theorem Linked.waits_iff {ens : Ensemble State} (h : ens.Linked) {s : SessionId} {pair : HashPair} :
    ens.Waits s pair ↔ ens.world.sessions.WaitsFor s pair := by
  constructor
  · rintro ⟨name, ha⟩
    exact h.waitsFor_of_asks ha
  · exact h.asks_of_waitsFor

theorem Linked.mem_line {ens : Ensemble State} (h : ens.Linked) {s : SessionId} {pair : HashPair} :
    s ∈ (deskOf ens.world pair).line ↔ ens.Waits s pair :=
  h.kept.keeps.balanced.mem_line.trans h.waits_iff.symm

/-- A call that waits was handed the permit when it is the first one in line and nobody holds the pair. -/
theorem Linked.woken_iff_first {ens : Ensemble State} (h : ens.Linked) {s : SessionId} {pair : HashPair} :
    ens.Waits s pair ∧ ens.world.sessions.isWoken s = true ↔
      (deskOf ens.world pair).holder = none ∧ (deskOf ens.world pair).line.head? = some s := by
  rw [h.waits_iff, ← State.handed_iff]
  exact h.kept.keeps.balanced.handed_iff_first

/-! ## Looking again -/

section LookingAgain

variable {ens : Ensemble State} {name : String} {s : SessionId} {pair : HashPair}

/-- A call that was handed the permit gets its pair when it is looked at again. -/
theorem Linked.held_of_poll (h : ens.Linked) (ha : ens.Asks name s pair)
    (hwoken : ens.world.sessions.isWoken s = true) :
    (Memory.Situation.held s).Fits (step backend ens (.poll name)).2 pair := by
  have hb := (step_linked h (.poll name)).kept.keeps.balanced
  have hfirst := h.woken_iff_first.1 ⟨⟨name, ha⟩, hwoken⟩
  apply hb.unfinished_of_holds
  apply hb.holder_desk.1
  calc
    (deskOf (step backend ens (.poll name)).2.world pair).holder = ((deskOf ens.world pair).serve s).holder := by
      rw [h.poll_serves ha]
    _ = some s := by rw [Desk.serve, if_pos hfirst]

/-- A call that was not handed the permit waits on, and looking at it again changes no desk. -/
theorem Linked.desk_poll_of_not_woken (h : ens.Linked) (ha : ens.Asks name s pair)
    (hno : ens.world.sessions.isWoken s = false) (p : HashPair) :
    deskOf (step backend ens (.poll name)).2.world p = deskOf ens.world p := by
  rw [h.poll_serves ha, Desk.serve_of_not_first]
  intro hfirst
  have hwoken := (h.woken_iff_first.2 hfirst).2
  rw [hno] at hwoken
  cases hwoken

/-- A call that is looked at again gets its pair just when it was handed the permit. -/
theorem Linked.held_poll_iff (h : ens.Linked) (ha : ens.Asks name s pair) :
    (Memory.Situation.held s).Fits (step backend ens (.poll name)).2 pair ↔
      ens.world.sessions.isWoken s = true := by
  refine ⟨?_, h.held_of_poll ha⟩
  rintro ⟨x, hx, -, hp⟩
  have h' := step_linked h (.poll name)
  cases hwoken : ens.world.sessions.isWoken s with
  | true => rfl
  | false =>
    -- it still stands in line, and nobody waits for what it holds
    have hline : s ∈ (deskOf (step backend ens (.poll name)).2.world pair).line := by
      rw [h.desk_poll_of_not_woken ha hwoken]
      exact h.mem_line.2 ⟨name, ha⟩
    exact absurd (h'.waits_iff.1 (h'.mem_line.1 hline)) (h'.kept.keeps.balanced.not_waitsFor_of_holds ⟨x, hx, hp⟩)

/-- Otherwise it waits on. -/
theorem Linked.waits_poll_iff (h : ens.Linked) (ha : ens.Asks name s pair) :
    (step backend ens (.poll name)).2.Waits s pair ↔ ens.world.sessions.isWoken s = false := by
  have h' := step_linked h (.poll name)
  rw [← Bool.not_eq_true, ← h.held_poll_iff ha]
  constructor
  · rintro hw ⟨x, hx, -, hp⟩
    exact h'.kept.keeps.balanced.not_waitsFor_of_holds ⟨x, hx, hp⟩ (h'.waits_iff.1 hw)
  · intro hno
    have hwoken : ens.world.sessions.isWoken s = false := by
      rw [← Bool.not_eq_true]
      exact fun hwoken => hno (h.held_of_poll ha hwoken)
    rw [← h'.mem_line, h.desk_poll_of_not_woken ha hwoken]
    exact h.mem_line.2 ⟨name, ha⟩

end LookingAgain

end Ensemble

namespace Memory

open Ensemble (step)

/-- No permit is lost and nobody waits in vain: in every run each pair is in one situation and no other, it is held
unless it is free, it is never free while a call waits for it, and asking whether it is held changes nothing. Once the
call that was handed the permit is looked at, its session holds the pair. -/
theorem permit_in_one_situation (n : Nat) (hs : List Happening) (pair : HashPair) :
    let ens := (run n hs).ensemble
    (∃! sit : Situation, sit.Fits ens pair) ∧
      (ens.world.sessions.isHeld pair = true ↔
        (∃ s, (Situation.held s).Fits ens pair) ∨ ∃ name, (Situation.handed name).Fits ens pair) ∧
      (∀ name s, ens.Asks name s pair → ens.world.sessions.isHeld pair = true) ∧
      (ens.world.sessions.probe pair).2 = ens.world.sessions ∧
      ∀ name, (Situation.handed name).Fits ens pair →
        ∃ s, ens.Asks name s pair ∧ (Situation.held s).Fits (run n (hs ++ [.event (.poll name)])).ensemble pair := by
  intro ens
  have h : ens.Linked := run_linked n hs
  refine ⟨?_, isHeld_iff_fits h, ?_, h.kept.keeps.balanced.probe pair, ?_⟩
  · obtain ⟨sit, hsit⟩ : ∃ sit : Situation, sit.Fits ens pair := exists_fits h
    exact ⟨sit, hsit, fun sit' hsit' => fits_unique h hsit' hsit⟩
  · intro name s ha
    exact h.kept.keeps.balanced.isHeld_of_waitsFor (h.waitsFor_of_asks ha)
  · rintro name ⟨s, ha, hwoken⟩
    refine ⟨s, ha, ?_⟩
    rw [run_event]
    exact h.held_of_poll ha hwoken

/-- The second caller is handed the lock of the first one, and a third one queues behind it. -/
def succession : List Happening :=
  [.event (.acquire "a" "first" { resourceId := "herd", lockClass := .dinosaurs } 0),
    .event (.acquire "b" "second" { resourceId := "herd", lockClass := .dinosaurs } 0),
    .event (.acquire "c" "third" { resourceId := "herd", lockClass := .dinosaurs } 0),
    .event (.unlock "d" "first" 0)]

/-- In a succession the permit is on its way to the second caller, who has the lock once it is looked at. -/
theorem permit_handed_in_succession :
    let pair := LockKey.hashes { resourceId := "herd", lockClass := .dinosaurs }
    (Situation.handed "b").Fits (run 1 succession).ensemble pair ∧
      ∃ s, (run 1 succession).ensemble.Asks "b" s pair ∧
        (Situation.held s).Fits (run 1 (succession ++ [.event (.poll "b")])).ensemble pair := by
  intro pair
  have ha : (run 1 succession).ensemble.Asks "b" 2 pair := Option.bind_eq_some_iff.1 (by decide +kernel)
  have hhanded : (Situation.handed "b").Fits (run 1 succession).ensemble pair := ⟨2, ha, by decide +kernel⟩
  obtain ⟨-, -, -, -, hgets⟩ := permit_in_one_situation 1 succession pair
  exact ⟨hhanded, hgets "b" hhanded⟩

/-! ## What a change makes of the line and of the holder -/

namespace Desk

variable {asked left : SessionId → Prop} {d d' : Desk} {s : SessionId}

theorem Goes.sublist (h : d.Goes left d') : d'.line.Sublist d.line := by
  cases h with
  | rests => exact .refl _
  | leaves hs line => exact List.erase_sublist
  | frees holder => rw [line_free]

theorem Goes.holder (h : d.Goes left d') (hs : d'.holder = some s) : d.holder = some s := by
  cases h with
  | rests => exact hs
  | leaves => exact hs
  | @frees t holder =>
    rw [free, if_pos holder] at hs
    simp at hs

theorem Goes.stays (h : d.Goes left d') (hs : s ∈ d.line) : s ∈ d'.line ∨ left s := by
  cases h with
  | rests => exact .inl hs
  | @leaves t ht line =>
    by_cases hst : s = t
    · exact .inr (hst ▸ ht)
    · exact .inl ((List.mem_erase_of_ne hst).2 hs)
  | frees holder => exact .inl (by rwa [line_free])

/-- Nobody comes between others: the line gets shorter, but for one session that may come to its end. -/
theorem Change.sublist (h : d.Change asked left d') :
    ∃ new : Option SessionId, d'.line.Sublist (d.line ++ new.toList) ∧ ∀ s ∈ new, asked s ∧ s ∉ d.line := by
  cases h with
  | serves s =>
    refine ⟨none, ?_, by simp⟩
    unfold serve
    split
    next => simpa using List.tail_sublist d.line
    next => simp
  | goes goes => exact ⟨none, by simpa using goes.sublist, by simp⟩
  | @comes s d' hs holder line goes stays =>
    refine ⟨some s, goes.sublist.trans ?_, by simpa using ⟨hs, line⟩⟩
    unfold ask
    split
    next => exact .refl _
    next => simp

/-- Whoever gets the pair found it free, or was the first one in line. -/
theorem Change.gets (h : d.Change asked left d') (hs : d'.holder = some s) (hn : d.holder ≠ some s) :
    ¬d.InUse ∨ d.line.head? = some s := by
  cases h with
  | serves t =>
    unfold serve at hs
    split at hs
    next hfirst => exact .inr (Option.some.inj hs ▸ hfirst.2)
    next => exact absurd hs hn
  | goes goes => exact absurd (goes.holder hs) hn
  | @comes t d' ht holder line goes stays =>
    have hasked := goes.holder hs
    unfold ask at hasked
    split at hasked
    next => exact absurd hasked hn
    next hout => exact .inl hout

/-- Whoever waits goes on waiting, or gets the pair, or leaves. -/
theorem Change.stays (h : d.Change asked left d') (hs : s ∈ d.line) : s ∈ d'.line ∨ d'.holder = some s ∨ left s := by
  cases h with
  | serves t =>
    unfold serve
    split
    next hfirst =>
      obtain ⟨l, hl⟩ := List.head?_eq_some_iff.1 hfirst.2
      rw [hl] at hs ⊢
      rcases List.mem_cons.1 hs with rfl | hs
      · exact .inr (.inl rfl)
      · exact .inl hs
    next => exact .inl hs
  | goes goes => exact (goes.stays hs).imp_right .inr
  | @comes t d' ht holder line goes stays =>
    have hthere : s ∈ (d.ask t).line := by
      unfold ask
      split
      next => exact List.mem_append_left _ hs
      next hout => exact absurd (.inr (List.ne_nil_of_mem hs)) hout
    exact (goes.stays hthere).imp_right .inr

end Desk

/-! ## Arrivals -/

/-- A happening gives up the call that waits for a pair on a session. -/
def GivesUp (ens : Ensemble State) (h : Happening) (s : SessionId) (pair : HashPair) : Prop :=
  ∃ e c, h = .event e ∧ ens.givenUp? backend e = some c ∧ ens.request? c = some (s, pair)

/-- What a happening does to the desk of a pair. -/
theorem advance_change {r : Run State} (hr : r.ensemble.Linked) (h : Happening) (p : HashPair) :
    (deskOf r.ensemble.world p).Change (fun s => ∃ e, h = .event e ∧ r.ensemble.AsksFor e p s)
      (fun s => ∃ pair, GivesUp r.ensemble h s pair) (deskOf (r.advance backend h.general).ensemble.world p) := by
  cases h with
  | event e =>
    refine (Ensemble.step_change hr e p).mono ?_ ?_
    · intro s hs
      exact ⟨e, rfl, hs⟩
    · rintro s ⟨c, pair, hc, hs⟩
      exact ⟨pair, e, c, rfl, hc, hs⟩
  | switch sw => exact Ensemble.change_of_same (by cases sw <;> rfl)
  | probe pair =>
    refine Ensemble.change_of_same (congrArg (State.desk · p) ?_)
    exact hr.kept.keeps.balanced.probe pair

theorem GivesUp.waits {ens : Ensemble State} {h : Happening} {s : SessionId} {pair : HashPair}
    (hgone : GivesUp ens h s pair) : ens.Waits s pair := by
  obtain ⟨e, c, -, hc, hreq⟩ := hgone
  obtain ⟨name, hname⟩ := Ensemble.mem_of_givenUp? hc
  exact ⟨name, c, hname, hreq⟩

/-- A session waits for one pair, so a call that is given up on it waits for that one. -/
theorem GivesUp.of_waits {ens : Ensemble State} (hens : ens.Linked) {h : Happening} {s : SessionId}
    {pair p : HashPair} (hgone : GivesUp ens h s p) (hw : ens.Waits s pair) : GivesUp ens h s pair := by
  have hsame : p = pair := State.waitsFor_unique (hens.waits_iff.1 hgone.waits) (hens.waits_iff.1 hw)
  exact hsame ▸ hgone

/-- What the next happening of a run does to the desk of a pair. -/
theorem run_change (n : Nat) (hs : List Happening) (h : Happening) (p : HashPair) :
    (deskOf (run n hs).ensemble.world p).Change (fun s => ∃ e, h = .event e ∧ (run n hs).ensemble.AsksFor e p s)
      (fun s => ∃ pair, GivesUp (run n hs).ensemble h s pair) (deskOf (run n (hs ++ [h])).ensemble.world p) := by
  have hchange := advance_change (run_linked n hs) h p
  rwa [← run_concat] at hchange

/-- What is so ever since some moment of a run was so up to now, and is so now. -/
theorem since_concat {P : List Happening → Prop} {hs : List Happening} {k : Nat} (hk : k ≤ hs.length)
    (h : Happening) :
    (∀ j, k < j → j ≤ (hs ++ [h]).length → P ((hs ++ [h]).take j)) ↔
      (∀ j, k < j → j ≤ hs.length → P (hs.take j)) ∧ P (hs ++ [h]) := by
  have hlength : (hs ++ [h]).length = hs.length + 1 := by simp
  constructor
  · intro hall
    constructor
    · intro j hj hle
      simpa [List.take_append_of_le_length hle] using hall j hj (by omega)
    · have hnow := hall (hs ++ [h]).length (by omega) (Nat.le_refl _)
      rwa [List.take_length] at hnow
  · rintro ⟨hold, hnow⟩ j hj hle
    rcases Nat.lt_or_ge hs.length j with hgt | hge
    · rwa [List.take_of_length_le (by omega)]
    · rw [List.take_append_of_le_length hge]
      exact hold j hj hge

/-- What is so since the last happening is so now. -/
theorem since_last {P : List Happening → Prop} {hs : List Happening} (h : Happening) :
    (∀ j, hs.length < j → j ≤ (hs ++ [h]).length → P ((hs ++ [h]).take j)) ↔ P (hs ++ [h]) := by
  refine (since_concat (Nat.le_refl _) h).trans (and_iff_right ?_)
  intro j hj hle
  exact absurd hle (Nat.not_le_of_lt hj)

/-- A call waits for a pair on a session since it was first looked at, by the happening number `k` of a run. -/
structure WaitsSince (n : Nat) (hs : List Happening) (s : SessionId) (pair : HashPair) (k : Nat) : Prop where
  first : ∃ e, hs[k]? = some (.event e) ∧ (run n (hs.take k)).ensemble.AsksFor e pair s
  before : ¬(run n (hs.take k)).ensemble.Waits s pair
  since : ∀ j, k < j → j ≤ hs.length → (run n (hs.take j)).ensemble.Waits s pair

/-- Two calls wait for a pair, and the one on the first session came before the other one. -/
def CameBefore (n : Nat) (hs : List Happening) (pair : HashPair) (s t : SessionId) : Prop :=
  ∃ k l, WaitsSince n hs s pair k ∧ WaitsSince n hs t pair l ∧ k < l

/-- The call on a session has waited for the pair longer than all others. -/
def WaitsLongest (n : Nat) (hs : List Happening) (pair : HashPair) (s : SessionId) : Prop :=
  (run n hs).ensemble.Waits s pair ∧ ∀ t, (run n hs).ensemble.Waits t pair → t ≠ s → CameBefore n hs pair s t

section Arrivals

variable {n k l : Nat} {hs : List Happening} {h : Happening} {s t : SessionId} {pair : HashPair}

theorem WaitsSince.lt (hk : WaitsSince n hs s pair k) : k < hs.length := by
  obtain ⟨e, he, -⟩ := hk.first
  exact (List.getElem?_eq_some_iff.1 he).1

theorem WaitsSince.waits (hk : WaitsSince n hs s pair k) : (run n hs).ensemble.Waits s pair := by
  simpa using hk.since hs.length hk.lt (Nat.le_refl _)

theorem WaitsSince.unique (hk : WaitsSince n hs s pair k) (hl : WaitsSince n hs s pair l) : k = l := by
  rcases Nat.lt_trichotomy k l with hlt | heq | hgt
  · exact absurd (hk.since l hlt (Nat.le_of_lt hl.lt)) hl.before
  · exact heq
  · exact absurd (hl.since k hgt (Nat.le_of_lt hk.lt)) hk.before

/-- A call that still waits came when it did. -/
theorem WaitsSince.concat (hk : WaitsSince n hs s pair k) (hw : (run n (hs ++ [h])).ensemble.Waits s pair) :
    WaitsSince n (hs ++ [h]) s pair k := by
  have hle := Nat.le_of_lt hk.lt
  have htake : (hs ++ [h]).take k = hs.take k := List.take_append_of_le_length hle
  obtain ⟨e, he, hasked⟩ := hk.first
  refine ⟨⟨e, ?_, by rwa [htake]⟩, ?_, ?_⟩
  · rw [List.getElem?_append_left hk.lt, he]
  · rw [htake]
    exact hk.before
  · exact (since_concat (P := fun hs => (run n hs).ensemble.Waits s pair) hle h).2 ⟨hk.since, hw⟩

/-- A session that is asked for a pair and has to wait came just now. -/
theorem waitsSince_last {e : Event} (hasked : (run n hs).ensemble.AsksFor e pair s)
    (hno : ¬(run n hs).ensemble.Waits s pair) (hw : (run n (hs ++ [.event e])).ensemble.Waits s pair) :
    WaitsSince n (hs ++ [.event e]) s pair hs.length := by
  refine ⟨⟨e, by simp, by simpa using hasked⟩, by simpa using hno, ?_⟩
  exact (since_last (P := fun hs => (run n hs).ensemble.Waits s pair) (.event e)).2 hw

/-! ## The line of a pair -/

/-- A line in the order in which its calls came. -/
structure InOrder (n : Nat) (hs : List Happening) (pair : HashPair) (line : List SessionId) : Prop where
  came : ∀ s ∈ line, ∃ k, WaitsSince n hs s pair k
  ordered : line.Pairwise (CameBefore n hs pair)

/-- Whoever waited before a happening and still waits, came before it; whoever did not wait before came with it. -/
theorem inOrder_concat {new : Option SessionId} {line line' : List SessionId}
    (waits : ∀ s, s ∈ line ↔ (run n hs).ensemble.Waits s pair)
    (waits' : ∀ s, s ∈ line' ↔ (run n (hs ++ [h])).ensemble.Waits s pair) (hold : InOrder n hs pair line)
    (sublist : line'.Sublist (line ++ new.toList))
    (hnew : ∀ s ∈ new, (∃ e, h = .event e ∧ (run n hs).ensemble.AsksFor e pair s) ∧ s ∉ line) :
    InOrder n (hs ++ [h]) pair line' := by
  -- the moments of old arrivals stay what they were, and the new one is after all of them
  have hcame : ∀ s ∈ line', s ∈ line → ∃ k, k < hs.length ∧ WaitsSince n (hs ++ [h]) s pair k := by
    intro s hmem' hmem
    obtain ⟨k, hk⟩ := hold.came s hmem
    exact ⟨k, hk.lt, hk.concat ((waits' s).1 hmem')⟩
  have hcomes : ∀ s ∈ line', s ∈ new → WaitsSince n (hs ++ [h]) s pair hs.length := by
    intro s hmem' hmem
    obtain ⟨⟨e, rfl, hasked⟩, hno⟩ := hnew s hmem
    exact waitsSince_last hasked (fun hw => hno ((waits s).2 hw)) ((waits' s).1 hmem')
  constructor
  · intro s hmem'
    rcases List.mem_append.1 (sublist.subset hmem') with hmem | hmem
    · obtain ⟨k, -, hk⟩ := hcame s hmem' hmem
      exact ⟨k, hk⟩
    · exact ⟨_, hcomes s hmem' (Option.mem_toList.1 hmem)⟩
  · have hpair : (line ++ new.toList).Pairwise fun s t =>
        s ∈ line' → t ∈ line' → CameBefore n (hs ++ [h]) pair s t := by
      refine List.pairwise_append.2 ⟨?_, ?_, ?_⟩
      · refine hold.ordered.imp ?_
        rintro s t ⟨k, l, hk, hl, hlt⟩ hmem hmem'
        exact ⟨k, l, hk.concat ((waits' s).1 hmem), hl.concat ((waits' t).1 hmem'), hlt⟩
      · cases new <;> simp
      · intro s hold' t hnew' hmem hmem'
        obtain ⟨k, hlt, hk⟩ := hcame s hmem hold'
        exact ⟨k, hs.length, hk, hcomes t hmem' (Option.mem_toList.1 hnew'), hlt⟩
    exact (hpair.sublist sublist).imp_of_mem fun hmem hmem' hst => hst hmem hmem'

/-- In every run, the line of a pair is in the order in which its calls came. -/
theorem run_inOrder (n : Nat) (hs : List Happening) (pair : HashPair) :
    InOrder n hs pair (deskOf (run n hs).ensemble.world pair).line := by
  -- on the run, from its end: a happening adds one session to the end of the line, or none
  induction hs using List.reverseRecOn with
  | nil =>
    have hempty : (deskOf (run n []).ensemble.world pair).line = [] := rfl
    rw [hempty]
    exact ⟨by simp, .nil⟩
  | append_singleton hs h ih =>
    have hlinked := run_linked n hs
    have hlinked' := run_linked n (hs ++ [h])
    obtain ⟨new, sublist, hnew⟩ := (run_change n hs h pair).sublist
    exact inOrder_concat (fun s => hlinked.mem_line) (fun s => hlinked'.mem_line) ih sublist hnew

theorem CameBefore.asymm (hst : CameBefore n hs pair s t) : ¬CameBefore n hs pair t s := by
  rintro ⟨l, k, hl, hk, hlt⟩
  obtain ⟨k', l', hk', hl', hlt'⟩ := hst
  rw [hk.unique hk', hl.unique hl'] at hlt
  exact Nat.lt_asymm hlt hlt'

/-- The first one in line has waited longest. -/
theorem waitsLongest_iff : WaitsLongest n hs pair s ↔ (deskOf (run n hs).ensemble.world pair).line.head? = some s := by
  have hlinked := run_linked n hs
  have horder := (run_inOrder n hs pair).ordered
  generalize hline : (deskOf (run n hs).ensemble.world pair).line = line at horder
  have hmem : ∀ t, t ∈ line ↔ (run n hs).ensemble.Waits t pair := fun t => hline ▸ hlinked.mem_line
  unfold WaitsLongest
  cases line with
  | nil =>
    refine iff_of_false ?_ (by simp)
    rintro ⟨hw, -⟩
    simpa using (hmem s).2 hw
  | cons t line =>
    obtain ⟨hfirst, -⟩ := List.pairwise_cons.1 horder
    constructor
    · rintro ⟨hw, hlongest⟩
      rcases List.mem_cons.1 ((hmem s).2 hw) with rfl | hin
      · rfl
      · -- the first one came before this one, and not the other way
        by_contra hne
        have hts : t ≠ s := fun hts => hne (by rw [hts]; rfl)
        exact (hfirst s hin).asymm (hlongest t ((hmem t).1 List.mem_cons_self) hts)
    · intro hhead
      have hts : t = s := by simpa using hhead
      subst hts
      refine ⟨(hmem t).1 List.mem_cons_self, fun u hu hne => ?_⟩
      rcases List.mem_cons.1 ((hmem u).2 hu) with rfl | hin
      · exact absurd rfl hne
      · exact hfirst u hin

/-! ## Who gets the pair -/

/-- A pair is free when it is not in use. -/
theorem free_fits_iff_not_inUse {ens : Ensemble State} (h : ens.Linked) :
    Situation.free.Fits ens pair ↔ ¬(deskOf ens.world pair).InUse := by
  rw [h.kept.keeps.balanced.inUse_iff]
  constructor
  · rintro ⟨hnone, hno⟩ ⟨s, hs | hs⟩
    · exact hnone s hs
    · obtain ⟨name, ha⟩ := h.asks_of_waitsFor hs
      exact hno name s ha
  · intro hout
    constructor
    · intro s hs
      exact hout ⟨s, .inl hs⟩
    · intro name s ha
      exact hout ⟨s, .inr (h.waitsFor_of_asks ha)⟩

/-- A call that waits came at one moment. -/
theorem existsUnique_waitsSince (hw : (run n hs).ensemble.Waits s pair) : ∃! k, WaitsSince n hs s pair k := by
  obtain ⟨k, hk⟩ := (run_inOrder n hs pair).came s ((run_linked n hs).mem_line.2 hw)
  exact ⟨k, hk, fun l hl => hl.unique hk⟩

/-- Of two calls that wait, one came before the other one. -/
theorem cameBefore_or (hw : (run n hs).ensemble.Waits s pair) (hw' : (run n hs).ensemble.Waits t pair)
    (hne : s ≠ t) : CameBefore n hs pair s t ∨ CameBefore n hs pair t s := by
  have hlinked := run_linked n hs
  have : Std.Symm fun s t => CameBefore n hs pair s t ∨ CameBefore n hs pair t s := ⟨fun _ _ => Or.symm⟩
  have hline : (deskOf (run n hs).ensemble.world pair).line.Pairwise fun s t =>
      CameBefore n hs pair s t ∨ CameBefore n hs pair t s := (run_inOrder n hs pair).ordered.imp Or.inl
  exact hline.forall (hlinked.mem_line.2 hw) (hlinked.mem_line.2 hw') hne

/-- A call that waits can go on when nobody holds the pair and it has waited longest. -/
theorem isWoken_iff_waitsLongest (hw : (run n hs).ensemble.Waits s pair) :
    (run n hs).ensemble.world.sessions.isWoken s = true ↔
      (∀ t, ¬(run n hs).ensemble.world.sessions.Holds t pair) ∧ WaitsLongest n hs pair s := by
  have h := run_linked n hs
  generalize hens : (run n hs).ensemble = ens at h hw ⊢
  calc
    ens.world.sessions.isWoken s = true ↔ ens.Waits s pair ∧ ens.world.sessions.isWoken s = true :=
      (and_iff_right hw).symm
    _ ↔ (deskOf ens.world pair).holder = none ∧ (deskOf ens.world pair).line.head? = some s := h.woken_iff_first
    _ ↔ (∀ t, ¬ens.world.sessions.Holds t pair) ∧ WaitsLongest n hs pair s := by
      rw [waitsLongest_iff, hens, Option.eq_none_iff_forall_ne_some]
      simp only [ne_eq, h.kept.keeps.balanced.holder_desk]

/-- Whoever gets the pair found it free, or had waited for it longest. -/
theorem free_or_waitsLongest_of_gets (hgets : (run n (hs ++ [h])).ensemble.world.sessions.Holds s pair)
    (hno : ¬(run n hs).ensemble.world.sessions.Holds s pair) :
    Situation.free.Fits (run n hs).ensemble pair ∨ WaitsLongest n hs pair s := by
  have hlinked := run_linked n hs
  have hheld : (deskOf (run n (hs ++ [h])).ensemble.world pair).holder = some s :=
    (run_linked n (hs ++ [h])).kept.keeps.balanced.holder_desk.2 hgets
  have hbefore : (deskOf (run n hs).ensemble.world pair).holder ≠ some s := by
    intro hholder
    exact hno (hlinked.kept.keeps.balanced.holder_desk.1 hholder)
  rcases (run_change n hs h pair).gets hheld hbefore with hout | hfirst
  · exact .inl ((free_fits_iff_not_inUse hlinked).2 hout)
  · exact .inr (waitsLongest_iff.2 hfirst)

/-- Whoever waits goes on waiting, or gets the pair, or its call is given up. -/
theorem waits_concat (h : Happening) (hw : (run n hs).ensemble.Waits s pair) :
    (run n (hs ++ [h])).ensemble.Waits s pair ∨ (run n (hs ++ [h])).ensemble.world.sessions.Holds s pair ∨
      GivesUp (run n hs).ensemble h s pair := by
  have hlinked := run_linked n hs
  have hlinked' := run_linked n (hs ++ [h])
  rcases (run_change n hs h pair).stays (hlinked.mem_line.2 hw) with hline | hholder | ⟨p, hgone⟩
  · exact .inl (hlinked'.mem_line.1 hline)
  · exact .inr (.inl (hlinked'.kept.keeps.balanced.holder_desk.1 hholder))
  · exact .inr (.inr (hgone.of_waits hlinked hw))

/-! ## Nobody is overtaken -/

/-- A call on the first session waits for a pair, ahead of whatever is on the second one. -/
structure Ahead (n : Nat) (hs : List Happening) (pair : HashPair) (s t : SessionId) : Prop where
  waits : (run n hs).ensemble.Waits s pair
  holds : ¬(run n hs).ensemble.world.sessions.Holds t pair
  before : (run n hs).ensemble.Waits t pair → CameBefore n hs pair s t

/-- As a run goes on, the call that waits for a pair on a session gets it or is given up. -/
def Settled (n : Nat) (hs more : List Happening) (s : SessionId) (pair : HashPair) : Prop :=
  ∃ now h, now ++ [h] <+: more ∧ ((run n (hs ++ now ++ [h])).ensemble.world.sessions.Holds s pair ∨
    GivesUp (run n (hs ++ now)).ensemble h s pair)

theorem CameBefore.waits (hst : CameBefore n hs pair s t) :
    (run n hs).ensemble.Waits s pair ∧ (run n hs).ensemble.Waits t pair := by
  obtain ⟨k, l, hk, hl, -⟩ := hst
  exact ⟨hk.waits, hl.waits⟩

theorem CameBefore.ne (hst : CameBefore n hs pair s t) : s ≠ t := by
  rintro rfl
  exact hst.asymm hst

theorem CameBefore.ahead (hst : CameBefore n hs pair s t) : Ahead n hs pair s t := by
  obtain ⟨hw, ht⟩ := hst.waits
  have hlinked := run_linked n hs
  refine ⟨hw, ?_, fun _ => hst⟩
  intro hholds
  exact hlinked.kept.keeps.balanced.not_waitsFor_of_holds hholds (hlinked.waits_iff.1 ht)

/-- A call that waits and did not wait a moment ago came just now. -/
theorem WaitsSince.length_le (hk : WaitsSince n (hs ++ [h]) s pair k) (hno : ¬(run n hs).ensemble.Waits s pair) :
    hs.length ≤ k := by
  by_contra hlt
  have hwaited := hk.since hs.length (Nat.lt_of_not_le hlt) (by simp)
  rw [List.take_left] at hwaited
  exact hno hwaited

/-- While a call waits, nobody gets ahead of it. -/
theorem Ahead.concat (hst : Ahead n hs pair s t) (hw : (run n (hs ++ [h])).ensemble.Waits s pair) :
    Ahead n (hs ++ [h]) pair s t := by
  refine ⟨hw, ?_, ?_⟩
  · -- the pair is not free while the first call waits, and the second one has not waited longest
    intro hholds
    rcases free_or_waitsLongest_of_gets hholds hst.holds with ⟨-, hnone⟩ | ⟨ht, hlongest⟩
    · obtain ⟨name, ha⟩ := hst.waits
      exact hnone name s ha
    · have hbefore := hst.before ht
      exact hbefore.asymm (hlongest s hst.waits hbefore.ne)
  · intro ht
    by_cases hold : (run n hs).ensemble.Waits t pair
    · obtain ⟨k, l, hk, hl, hlt⟩ := hst.before hold
      exact ⟨k, l, hk.concat hw, hl.concat ht, hlt⟩
    · -- a new call comes after every call that waits already
      obtain ⟨k, hk, -⟩ := existsUnique_waitsSince hst.waits
      obtain ⟨l, hl, -⟩ := existsUnique_waitsSince ht
      exact ⟨k, l, hk.concat hw, hl, Nat.lt_of_lt_of_le hk.lt (hl.length_le hold)⟩

/-- Nobody gets ahead of a call, until it has got its pair or is given up. -/
theorem Ahead.settled_or (hst : Ahead n hs pair s t) (more : List Happening) :
    Settled n hs more s pair ∨ Ahead n (hs ++ more) pair s t := by
  -- `Ahead` is kept as long as the first call waits; when it stops waiting, it is settled for good
  induction more using List.reverseRecOn with
  | nil => exact .inr (by simpa using hst)
  | append_singleton more h ih =>
    rcases ih with ⟨now, h', hprefix, hdone⟩ | hahead
    · exact .inl ⟨now, h', hprefix.trans (List.prefix_append more [h]), hdone⟩
    rw [← List.append_assoc]
    rcases waits_concat h hahead.waits with hw | hdone
    · exact .inr (hahead.concat hw)
    · exact .inl ⟨more, h, List.prefix_rfl, hdone⟩

end Arrivals

/-- Waiting calls are served in the order in which they came. In every run, each call that waits for a pair came at one
moment, no two came at the same time, and the permit is handed to the one that has waited longest as soon as nobody
holds the pair. A call that is looked at again gets the pair when it was handed the permit, and waits on otherwise.
Whoever gets the pair next found it free, with nobody in line, or had waited for it longest; whoever waits goes on
waiting, unless it gets the pair or its call is given up; and of two calls that wait, the second one gets the pair only
after the first one has got it or was given up. -/
theorem served_in_order (n : Nat) (hs : List Happening) (pair : HashPair) :
    let ens := (run n hs).ensemble
    (∀ s, ens.Waits s pair → ∃! k, WaitsSince n hs s pair k) ∧
      (∀ s t, ens.Waits s pair → ens.Waits t pair → s ≠ t → CameBefore n hs pair s t ∨ CameBefore n hs pair t s) ∧
      (∀ s, ens.Waits s pair → (ens.world.sessions.isWoken s = true ↔
        (∀ t, ¬ens.world.sessions.Holds t pair) ∧ WaitsLongest n hs pair s)) ∧
      (∀ name s, ens.Asks name s pair → let ens' := (run n (hs ++ [.event (.poll name)])).ensemble
        ((Situation.held s).Fits ens' pair ↔ ens.world.sessions.isWoken s = true) ∧
        (ens'.Waits s pair ↔ ens.world.sessions.isWoken s = false)) ∧
      (∀ h s, let ens' := (run n (hs ++ [h])).ensemble
        (ens'.world.sessions.Holds s pair → ¬ens.world.sessions.Holds s pair →
          Situation.free.Fits ens pair ∨ WaitsLongest n hs pair s) ∧
        (ens.Waits s pair → ens'.Waits s pair ∨ ens'.world.sessions.Holds s pair ∨ GivesUp ens h s pair)) ∧
      ∀ s t more, CameBefore n hs pair s t → (run n (hs ++ more)).ensemble.world.sessions.Holds t pair →
        Settled n hs more s pair := by
  intro ens
  refine ⟨?_, ?_, ?_, ?_, ?_, ?_⟩
  · intro s hw
    exact existsUnique_waitsSince hw
  · intro s t hw hw' hne
    exact cameBefore_or hw hw' hne
  · intro s hw
    exact isWoken_iff_waitsLongest hw
  · intro name s ha ens'
    have h : ens.Linked := run_linked n hs
    have hpoll : ens' = (step backend ens (.poll name)).2 := run_event n hs (.poll name)
    rw [hpoll]
    exact ⟨h.held_poll_iff ha, h.waits_poll_iff ha⟩
  · intro h s ens'
    exact ⟨free_or_waitsLongest_of_gets, waits_concat h⟩
  · intro s t more hst ht
    rcases hst.ahead.settled_or more with hdone | hahead
    · exact hdone
    · exact absurd ht hahead.holds

/-- In a succession the third caller comes after the second one; once it has the lock, the second one had it before. -/
theorem served_in_order_in_succession :
    let pair := LockKey.hashes { resourceId := "herd", lockClass := .dinosaurs }
    let more : List Happening := [.event (.poll "b"), .event (.unlock "e" "second" 0), .event (.poll "c")]
    CameBefore 1 succession pair 2 3 ∧ (run 1 (succession ++ more)).ensemble.world.sessions.Holds 3 pair ∧
      Settled 1 succession more 2 pair := by
  intro pair more
  have hline : (deskOf (run 1 succession).ensemble.world pair).line = [2, 3] := by decide +kernel
  have hbefore : CameBefore 1 succession pair 2 3 := by
    have hordered := (run_inOrder 1 succession pair).ordered
    rw [hline] at hordered
    exact (List.pairwise_cons.1 hordered).1 3 List.mem_cons_self
  have hholds : (run 1 (succession ++ more)).ensemble.world.sessions.Holds 3 pair := by
    apply (run_linked 1 (succession ++ more)).kept.keeps.balanced.holder_desk.1
    decide +kernel
  obtain ⟨-, -, -, -, -, hsettled⟩ := served_in_order 1 succession pair
  exact ⟨hbefore, hholds, hsettled 2 3 more hbefore hholds⟩

end Memory

end NamedLock
