import NamedLock.Proofs.Memory.Commuting
import NamedLock.Proofs.Memory.Marks
import NamedLock.Proofs.Memory.Withdrawal

/-!
# Ending — three ways to end a session

A session ends when it is committed, when its commit fails, or when it is dropped. The locks are the same afterwards:
each pair that the session held is handed to the first one in its queue, or is free, and no other pair is touched. What
differs is the answer, the count of commits, and whether the session is still there, finished, or gone.
-/

namespace NamedLock

namespace Memory

namespace State

variable {st st' : State} {s : SessionId} {x : Session} {pair p : HashPair}

/-! ## One way to give back, three endings -/

/-- The state after a session is finished and has given back what it held. -/
def freed (st : State) (s : SessionId) : State := (st.adjust s Session.finish).releaseAll s

theorem counts_freed (st : State) (s : SessionId) : (st.freed s).counts = st.counts := by
  rw [freed, counts_releaseAll, counts_adjust]

theorem freed_under (st c : State) (s : SessionId) : (st.under c).freed s = (st.freed s).under c :=
  releaseAll_under (st.adjust s Session.finish) s c

theorem commit_of_open (hopen : st.openSession? s = some x) :
    st.commit s =
      if st.failCommits then (.error (connectionError "connection lost during commit"), st.freed s)
      else (.ok (), { st.freed s with committed := st.committed + 1 }) := by
  obtain ⟨-, -, hcommitted, -, -, hfail⟩ := counts_eq_iff.1 (counts_freed st s)
  unfold commit
  rw [hopen, ← hfail, ← hcommitted]
  rfl

/-- A commit while commits succeed or fail. -/
theorem commit_switch (hopen : st.openSession? s = some x) (on : Bool) :
    (st.switch (.commits on)).commit s =
      if on then (.error (connectionError "connection lost during commit"), { st.freed s with failCommits := on })
      else (.ok (), { st.freed s with failCommits := on, committed := st.committed + 1 }) := by
  have hopen' : (st.switch (.commits on)).openSession? s = some x := hopen
  -- giving back does not look at the switch, and leaves it
  have hfreed : (st.switch (.commits on)).freed s = { st.freed s with failCommits := on } := by
    obtain ⟨hbegun, hlast, hcommitted, hnext, hlocks, -⟩ := counts_eq_iff.1 (counts_freed st s)
    calc
      (st.switch (.commits on)).freed s = (st.freed s).under (st.switch (.commits on)) :=
        freed_under st (st.switch (.commits on)) s
      _ = { st.freed s with failCommits := on } := by
        simp only [under, switch, hbegun, hlast, hcommitted, hnext, hlocks]
  rw [commit_of_open hopen', hfreed]
  rfl

/-- A session that is dropped leaves what it would leave when it is committed, and is gone. -/
theorem drop_of_not_waiting (hx : st.sessions.get? s = some x) (hw : x.waiting = none) :
    st.drop s = { st.freed s with sessions := (st.freed s).sessions.erase s } := by
  have hsessions : (st.freed s).sessions.erase s = (st.releaseAll s).sessions.erase s := by
    rw [freed, releaseAll_finish]
    exact Keyed.erase_adjust_self ..
  unfold drop
  rw [abandon_of_not_waiting hx hw, hsessions, freed, releaseAll_finish]
  rfl

theorem drop_of_abandon (st : State) (s : SessionId) : (st.abandon s).drop s = st.drop s := by
  have hsame : (st.abandon s).abandon s = st.abandon s := by
    cases hx : (st.abandon s).sessions.get? s with
    | none => exact abandon_of_gone hx
    | some y => exact abandon_of_not_waiting hx (waiting_of_abandon hx)
  simp only [drop, hsame]

/-! ## What is left of the session -/

/-- A session that is gone, or finished and without anything. -/
def Ended (s : SessionId) (st : State) : Prop :=
  ∀ x, st.outline s = some x → x.finished = true ∧ x.held = [] ∧ x.waiting = none

theorem Ended.congr (h : st.Ended s) (same : st'.outline s = st.outline s) : st'.Ended s := by
  intro x hx
  exact h x (same.symm.trans hx)

theorem Ended.openSession?_eq_none (h : st.Ended s) : st.openSession? s = none := by
  refine State.openSession?_eq_none fun hf => ?_
  rw [finished?_eq] at hf
  obtain ⟨x, hx, hopen⟩ := Option.map_eq_some_iff.1 hf
  rw [(h x hx).1] at hopen
  cases hopen

theorem Ended.lockAgain (h : st.Ended s) : (st.lockAgain s).2 = st := by
  unfold State.lockAgain
  split
  next id held w finished hx =>
    obtain ⟨-, -, hw⟩ := h _ (by rw [outline, hx]; rfl)
    cases hw
  next => rfl

/-- Whatever happens afterwards, the session has nothing any more. -/
theorem Ended.goesOn (h : st.Ended s) (hgo : backend.GoesOn Outside s st st') : st'.Ended s := by
  induction hgo with
  | refl => exact h
  | elsewhere _ helse ih => exact ih.congr (outline_elsewhere helse)
  | @answers st₁ _ turn r hr ih =>
    -- the session refuses requests, and has no wait that could be answered
    have hclosed := ih.openSession?_eq_none
    have hsame : (backend.answer turn s r st₁).2 = st₁ := by
      cases turn with
      | first =>
        cases r with
        | begin => exact absurd rfl hr
        | transactionId => rfl
        | lock pair => simp only [Backend.answer, backend, start, lock, hclosed]
        | commit => simp only [Backend.answer, backend, start, commit, hclosed]
      | later =>
        cases r with
        | lock pair => exact ih.lockAgain
        | _ => rfl
    rw [hsame]
    exact ih
  | @abandons st₁ _ ih =>
    intro x hx
    have hleft : (st₁.abandon s).outline s = some x := hx
    rw [outline_abandon, if_pos rfl] at hleft
    obtain ⟨y, hy, rfl⟩ := Option.map_eq_some_iff.1 hleft
    obtain ⟨hf, hheld, -⟩ := ih y hy
    exact ⟨hf, hheld, rfl⟩
  | drops _ ih =>
    intro x hx
    simp [backend, drop, outline] at hx

theorem Ended.not_holds (h : st.Ended s) (pair : HashPair) : ¬st.Holds s pair ∧ ¬st.WaitsFor s pair := by
  constructor
  · rintro ⟨x, hx, hp⟩
    obtain ⟨-, hheld, -⟩ := h x.outline (by rw [outline, hx]; rfl)
    rw [Session.held_outline] at hheld
    simp [hheld, Keyed.contains] at hp
  · rintro ⟨x, hx, hp⟩
    obtain ⟨-, -, hw⟩ := h x.outline (by rw [outline, hx]; rfl)
    have hpair := x.pair_waiting_outline
    rw [hw, hp] at hpair
    cases hpair

/-! ## What becomes of the locks -/

/-- What a session leaves behind that has ended: each pair that it held is with the first one in its queue, or free;
all other pairs are as they were. From then on the session holds nothing and waits for nothing. -/
structure Frees (st st' : State) (s : SessionId) : Prop where
  handed : ∀ p, st.Holds s p →
    st'.holder? p = none ∧ st'.handed? p = (st.queue p).head? ∧ st'.queue p = (st.queue p).tail
  free : ∀ p, st.Holds s p → st.queue p = [] → st'.isHeld p = false
  others : ∀ p, ¬st.Holds s p → st.AgreeOn st' p
  ever : ∀ st'', backend.GoesOn Outside s st' st'' → ∀ p, ¬st''.Holds s p ∧ ¬st''.WaitsFor s p

/-- A session that has ended and freed its desks. -/
theorem Balanced.frees (h : st.Balanced []) (h' : st'.Balanced []) (hdesk : ∀ p, st'.desk p = (st.desk p).free s)
    (hended : st'.Ended s) : st.Frees st' s := by
  have hline : ∀ p, st.Holds s p → (st.desk p).line = st.queue p := by
    intro p hp
    simp only [desk, h.handed_of_holds hp]
    rfl
  have hheld : ∀ p, st.Holds s p →
      (st'.desk p).holder = none ∧ (st'.desk p).line = st.queue p := by
    intro p hp
    have hholder : (st'.desk p).holder = none := by
      rw [hdesk, Desk.free, if_pos (h.holder_desk.2 hp), Desk.holder_tidy]
    exact ⟨hholder, by rw [hdesk, Desk.line_free, hline p hp]⟩
  refine { handed := ?_, free := ?_, others := ?_, ever := fun st'' hgo => (hended.goesOn hgo).not_holds }
  · intro p hp
    obtain ⟨hholder, hqueue⟩ := hheld p hp
    rw [h'.handed?_eq, h'.queue_eq, if_pos hholder, if_pos hholder, hqueue]
    exact ⟨hholder, rfl, rfl⟩
  · -- an owner would hold the pair or stand in its line
    intro p hp hempty
    obtain ⟨hholder, hqueue⟩ := hheld p hp
    rw [← Bool.not_eq_true, h'.isHeld_iff_owner]
    rintro ⟨t, ht | ⟨ht, -⟩⟩
    · rw [h'.holder_desk.2 ht] at hholder
      cases hholder
    · have hmem := h'.mem_line.2 ht
      rw [hqueue, hempty] at hmem
      cases hmem
  · intro p hp
    refine h.agreeOn h' ?_
    rw [hdesk, Desk.free_of_ne fun hno => hp (h.holder_desk.1 hno)]

/-- The session of a state has the same three endings, but for the answer, the count, and itself: what it held is freed
alike, in whichever order this was listed. -/
structure EndsAlike (st : State) (s : SessionId) (held : Keyed HashPair GateId) : Prop where
  succeeds : (st.switch (.commits false)).commit s =
    (.ok (), { st.freed s with failCommits := false, committed := st.committed + 1 })
  fails : (st.switch (.commits true)).commit s =
    (.error (connectionError "connection lost during commit"), { st.freed s with failCommits := true })
  drops : st.drop s = { st.freed s with sessions := (st.freed s).sessions.erase s }
  counts : (st.freed s).counts = st.counts
  frees : ∀ st' ∈ [((st.switch (.commits false)).commit s).2, ((st.switch (.commits true)).commit s).2, st.drop s],
    st.Frees st' s
  anyOrder : ∀ held', held'.Perm held →
    (∀ on, ((st.adjust s fun x => { x with held := held' }).switch (.commits on)).commit s =
      (st.switch (.commits on)).commit s) ∧ (st.adjust s fun x => { x with held := held' }).drop s = st.drop s

theorem ended_freed (hx : st.sessions.get? s = some x) (hw : x.waiting = none) : (st.freed s).Ended s := by
  intro y hy
  rw [freed, outline_releaseAll, if_pos rfl, outline_adjust, if_pos rfl, hx] at hy
  cases hy
  exact ⟨rfl, rfl, by simp [Session.outline, Session.finish, hw]⟩

/-- What a session holds may be listed in any order when it ends. -/
theorem freed_perm (hx : st.sessions.get? s = some x) {held : Keyed HashPair GateId} (h : held.Perm x.held) :
    (st.adjust s fun x => { x with held }).freed s = st.freed s := by
  rw [freed, freed, releaseAll_finish, releaseAll_finish, releaseAll_perm hx h]

theorem Balanced.desk_freed (h : st.Balanced []) (hx : st.sessions.get? s = some x) (hopen : x.finished = false)
    (hw : x.waiting = none) (p : HashPair) : (st.freed s).desk p = (st.desk p).free s := by
  have hcommit := h.desk_commit hx hw p
  rw [commit_of_open (openSession?_eq_some_iff.2 ⟨hx, hopen⟩), hopen] at hcommit
  split at hcommit
  next => exact hcommit
  next => exact hcommit

/-- A commit frees what the session holds, whichever way the switch stands. -/
theorem Balanced.frees_commit (h : st.Balanced []) (hx : st.sessions.get? s = some x) (hopen : x.finished = false)
    (hw : x.waiting = none) (on : Bool) : st.Frees ((st.switch (.commits on)).commit s).2 s := by
  have hbal : (st.freed s).Balanced [] := h.commit hx hw
  have hdesk := h.desk_freed hx hopen hw
  have hended := ended_freed hx hw
  rw [commit_switch (openSession?_eq_some_iff.2 ⟨hx, hopen⟩)]
  cases on with
  | false => exact h.frees (hbal.congr rfl rfl rfl) hdesk hended
  | true => exact h.frees (hbal.congr rfl rfl rfl) hdesk hended

/-- So does the end of a session that was not committed. -/
theorem Balanced.frees_drop (h : st.Balanced []) (hx : st.sessions.get? s = some x) (hw : x.waiting = none) :
    st.Frees (st.drop s) s := by
  refine h.frees (h.drop s) (fun p => ?_) ?_
  · have hno : s ∉ (st.desk p).line := by
      rw [h.mem_line]
      rintro ⟨y, hy, hwp⟩
      rw [hx] at hy
      cases hy
      rw [hw] at hwp
      cases hwp
    rw [h.desk_drop, Desk.leave_of_not_mem hno]
  · intro y hy
    simp [State.drop, outline] at hy

/-- The order in which a session lists what it holds does not show in how it ends. -/
theorem endings_perm (hx : st.sessions.get? s = some x) (hopen : x.finished = false) (hw : x.waiting = none)
    {held : Keyed HashPair GateId} (h : held.Perm x.held) :
    (∀ on, ((st.adjust s fun x => { x with held }).switch (.commits on)).commit s =
      (st.switch (.commits on)).commit s) ∧ (st.adjust s fun x => { x with held }).drop s = st.drop s := by
  have hx' : (st.adjust s fun x => { x with held }).sessions.get? s = some { x with held } := by
    simp [get?_adjust, hx]
  have hfreed := freed_perm hx h
  constructor
  · intro on
    rw [commit_switch (openSession?_eq_some_iff.2 ⟨hx', hopen⟩), commit_switch (openSession?_eq_some_iff.2 ⟨hx, hopen⟩),
      hfreed]
    rfl
  · rw [drop_of_not_waiting hx' hw, drop_of_not_waiting hx hw, hfreed]

theorem Balanced.endsAlike (h : st.Balanced []) (hx : st.sessions.get? s = some x) (hopen : x.finished = false)
    (hw : x.waiting = none) : st.EndsAlike s x.held where
  succeeds := commit_switch (openSession?_eq_some_iff.2 ⟨hx, hopen⟩) false
  fails := commit_switch (openSession?_eq_some_iff.2 ⟨hx, hopen⟩) true
  drops := drop_of_not_waiting hx hw
  counts := counts_freed st s
  frees := by
    simp only [List.forall_mem_cons, List.not_mem_nil, false_imp_iff, implies_true, and_true]
    exact ⟨h.frees_commit hx hopen hw false, h.frees_commit hx hopen hw true, h.frees_drop hx hw⟩
  anyOrder _ hperm := endings_perm hx hopen hw hperm

theorem get?_abandon (hx : st.sessions.get? s = some x) :
    (st.abandon s).sessions.get? s = some { x with waiting := none } := by
  have hleft := outline_abandon st s s
  rw [if_pos rfl, outline, outline, hx] at hleft
  obtain ⟨y, hy, houtline⟩ := Option.map_eq_some_iff.1 hleft
  have hw := waiting_of_abandon hy
  have hsame : y.outline = y := by
    obtain ⟨id, held, waiting, finished⟩ := y
    dsimp only at hw
    rw [hw]
    rfl
  rw [hy, ← hsame, houtline]
  rfl

end State

/-- In every run, for every session that is there and not finished: once it has given up what it waits for, a commit
that succeeds, a commit that fails and a drop come to the same for the locks. Each pair that the session held is handed
to the first one in its queue, or is free, all others keep their holder and their queue, and the session holds nothing
from then on, in whichever order it listed what it held. The three differ in the answer and in the count of commits,
which grows with the one that succeeds. A session that is finished holds nothing. -/
theorem endings_free_alike (n : Nat) (hs : List Happening) :
    let st := (run n hs).ensemble.world.sessions
    (∀ s x, st.sessions.get? s = some x → x.finished = false →
        (st.abandon s).EndsAlike s x.held ∧ (st.abandon s).drop s = st.drop s ∧
          (x.waiting = none → st.abandon s = st)) ∧
      ∀ s x, st.sessions.get? s = some x → x.finished = true → ∀ pair, ¬st.Holds s pair := by
  intro st
  have h : st.Balanced [] := (run_linked n hs).kept.keeps.balanced
  refine ⟨fun s x hx hopen => ⟨?_, State.drop_of_abandon st s, State.abandon_of_not_waiting hx⟩, ?_⟩
  · -- giving up leaves what the session holds
    have hends := (h.abandon s).endsAlike (State.get?_abandon hx) hopen rfl
    exact hends
  · intro s x hx hfinished pair hholds
    obtain ⟨y, hy, hopen, -⟩ := h.unfinished_of_holds hholds
    rw [hx] at hy
    cases hy
    rw [hfinished] at hopen
    cases hopen

/-- One session holds two pairs, and another one waits for each of them. -/
def tenancy : List Happening :=
  [.event (.begin "a"), .event (.begin "b"), .event (.begin "c"), .event (.lock "1" "a" (1, 1)),
    .event (.lock "2" "a" (2, 2)), .event (.lock "3" "b" (1, 1)), .event (.lock "4" "c" (2, 2))]

/-- When the commit of the tenant fails, both pairs are handed on, as if it had been dropped. -/
theorem tenancy_ends_alike :
    let st := (run 0 tenancy).ensemble.world.sessions
    ((st.switch (.commits true)).commit 1).1 = .error (State.connectionError "connection lost during commit") ∧
      ∀ st' ∈ [((st.switch (.commits true)).commit 1).2, st.drop 1],
        st'.handed? (1, 1) = some 2 ∧ st'.handed? (2, 2) = some 3 := by
  intro st
  let x : Session := { transactionId := 1, held := [((1, 1), 0), ((2, 2), 1)] }
  have hx : st.sessions.get? 1 = some x := by decide +kernel
  obtain ⟨hends, -, hidle⟩ := (endings_free_alike 0 tenancy).1 1 x hx rfl
  rw [show State.abandon _ 1 = st from hidle rfl] at hends
  have hfails := hends.fails
  refine ⟨congrArg Prod.fst hfails, fun st' hst' => ?_⟩
  have hfrees := hends.frees st' (List.mem_cons_of_mem _ hst')
  have hfirst : (st.queue (1, 1)).head? = some 2 := by decide +kernel
  have hsecond : (st.queue (2, 2)).head? = some 3 := by decide +kernel
  have hholds : ∀ pair, x.held.contains pair = true → st.Holds 1 pair := by
    intro pair hp
    exact ⟨x, hx, hp⟩
  exact ⟨(hfrees.handed _ (hholds _ (by decide))).2.1.trans hfirst,
    (hfrees.handed _ (hholds _ (by decide))).2.1.trans hsecond⟩

end Memory

end NamedLock
