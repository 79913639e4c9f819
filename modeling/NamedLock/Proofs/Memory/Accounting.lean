import NamedLock.Proofs.Memory.Contention
import NamedLock.Proofs.Memory.Ending
import NamedLock.Proofs.Memory.Journal

/-!
# Accounting — the counts of the sessions in memory and the journal

The sessions in memory count how many of them were opened and how many were committed, and number each one that is
opened. All of these are what the journal says, at every moment: a beginning that is refused counts nowhere, a session
is counted among the committed ones once, and a switch that makes the next beginning fail does so once, however often
it was flipped.
-/

namespace NamedLock

namespace Memory

/-! ## Counts that stay -/

namespace State

theorem counts_lockAgain (st : State) (s : SessionId) : (st.lockAgain s).2.counts = st.counts := by
  rcases lockAgain_changes st s with hsame | ⟨f, -, hnew⟩
  · rw [hsame]
  · rw [hnew, counts_adjust]

theorem counts_probe (st : State) (pair : HashPair) : (st.probe pair).2.counts = st.counts := by
  unfold probe tryTake
  split
  next => rfl
  next g _ =>
    by_cases hfree : (st.gate g).free = true
    · rw [if_pos hfree]
      exact counts_release _ g
    · rw [if_neg hfree]

end State

/-! ## The journal -/

/-- What a beginning is answered after a journal: it is refused when the journal leaves the switch armed. -/
def Journal.Decides (j : Journal) (a : Except LockError Unit) : Prop :=
  (a = .error (.session (State.connectionError "begin refused")) ↔ j.Armed) ∧ (a = .ok () ↔ ¬j.Armed)

/-- The state of the sessions is what the journal says. -/
structure Accounted (st : State) (j : Journal) : Prop where
  begun : st.begun = j.opened.length
  last : st.lastTransactionId = j.opened.length
  committed : st.committed = j.committed.length
  armed : st.failNextBegin = true ↔ j.Armed
  live : ∀ s id finished, st.card? s = some (id, finished) →
    j.Numbers s id ∧ (finished = false → s ∉ j.committed)
  stays : ∀ s ∈ j.opened, .dropped s ∉ j → ∃ c, st.card? s = some c
  told : ∀ s id, .answered s .transactionId (.ok id) ∈ j → j.Numbers s id
  decided : ∀ before s a after, j = before ++ .answered s .begin a :: after → Journal.Decides before a
  once : j.committed.Nodup
  opened : ∀ s ∈ j.committed, s ∈ j.opened

namespace Accounted

variable {st st' : State} {j : Journal} {s : SessionId}

theorem start : Accounted {} [] where
  begun := rfl
  last := rfl
  committed := rfl
  armed := iff_of_false (by decide) Journal.not_armed_nil
  live s id finished h := by cases h
  stays s h := by cases h
  told s id h := by cases h
  decided before s a after h := by cases before <;> cases h
  once := List.nodup_nil
  opened s h := by cases h

/-- Nothing is counted, and all sessions stay. -/
theorem rest (h : Accounted st j) (counts : st'.counts = st.counts) (cards : ∀ s, st'.card? s = st.card? s) :
    Accounted st' j := by
  obtain ⟨hbegun, hlast, hcommitted, harmed, -⟩ := State.counts_eq_iff.1 counts
  exact
    { begun := hbegun.trans h.begun
      last := hlast.trans h.last
      committed := hcommitted.trans h.committed
      armed := harmed ▸ h.armed
      live := fun s id finished hcard => h.live s id finished ((cards s).symm.trans hcard)
      stays := fun s hs hdropped => (h.stays s hs hdropped).imp fun c hc => (cards s).trans hc
      told := h.told
      decided := h.decided
      once := h.once
      opened := h.opened }

/-- What one report has to be counted as. -/
theorem concat (h : Accounted st j) {r : Report} (begun : st'.begun = st.begun + r.opened?.toList.length)
    (last : st'.lastTransactionId = st.lastTransactionId + r.opened?.toList.length)
    (committed : st'.committed = st.committed + r.committed?.toList.length)
    (armed : st'.failNextBegin = true ↔ r = .switched .nextBegin ∨ r.asked? = none ∧ st.failNextBegin = true)
    (live : ∀ s id finished, st'.card? s = some (id, finished) →
      Journal.Numbers (j ++ [r]) s id ∧ (finished = false → s ∉ Journal.committed (j ++ [r])))
    (stays : ∀ s c, st.card? s = some c → r ≠ .dropped s → ∃ c', st'.card? s = some c')
    (comes : ∀ s, r.opened? = some s → ∃ c, st'.card? s = some c)
    (told : ∀ s id, r = .answered s .transactionId (.ok id) → j.Numbers s id)
    (decided : ∀ s a, r = .answered s .begin a → j.Decides a)
    (once : ∀ s, r.committed? = some s → s ∉ j.committed ∧ s ∈ j.opened) : Accounted st' (j ++ [r]) where
  begun := by rw [begun, h.begun, Journal.opened_concat, List.length_append]
  last := by rw [last, h.last, Journal.opened_concat, List.length_append, Int.natCast_add]
  committed := by rw [committed, h.committed, Journal.committed_concat, List.length_append]
  armed := by rw [armed, Journal.armed_concat, h.armed]
  live := live
  stays s hs hdropped := by
    rw [Journal.opened_concat, List.mem_append] at hs
    rw [List.mem_append, not_or] at hdropped
    rcases hs with hs | hs
    · obtain ⟨c, hc⟩ := h.stays s hs hdropped.1
      exact stays s c hc fun hr => hdropped.2 (hr ▸ List.mem_cons_self)
    · exact comes s (Option.mem_toList.1 hs)
  told s id hr := by
    rcases List.mem_append.1 hr with hr | hr
    · exact (h.told s id hr).concat r
    · exact (told s id (List.mem_singleton.1 hr).symm).concat r
  decided before s a after hsplit := by
    -- the beginning is what is reported now, or it stands further back
    rcases Journal.concat_eq_iff.1 hsplit with ⟨rfl, hr, -⟩ | ⟨after', -, hj⟩
    · exact decided s a hr
    · exact h.decided before s a after' hj
  once := by
    rw [Journal.committed_concat]
    cases hr : r.committed? with
    | none => simpa using h.once
    | some s =>
      rw [Option.toList_some, ← List.concat_eq_append]
      exact h.once.concat (once s hr).1
  opened s hs := by
    rw [Journal.committed_concat, List.mem_append] at hs
    rw [Journal.opened_concat]
    rcases hs with hs | hs
    · exact List.mem_append_left _ (h.opened s hs)
    · exact List.mem_append_left _ (once s (Option.mem_toList.1 hs)).2

/-- Sessions that are there are as the journal says, also after a report that is no commit. -/
theorem live_concat (h : Accounted st j) {r : Report} (committed : r.committed? = none) {id : Int} {finished : Bool}
    (hcard : st.card? s = some (id, finished)) :
    Journal.Numbers (j ++ [r]) s id ∧ (finished = false → s ∉ Journal.committed (j ++ [r])) := by
  obtain ⟨hnumber, hopen⟩ := h.live s id finished hcard
  refine ⟨hnumber.concat r, ?_⟩
  simpa [committed] using hopen

/-- A report that nothing is counted as. -/
theorem quiet (h : Accounted st j) {r : Report} (asked : r.asked? = none) (committed : r.committed? = none)
    (switch : r ≠ .switched .nextBegin) (told : ∀ s id, r = .answered s .transactionId (.ok id) → j.Numbers s id) :
    Accounted st (j ++ [r]) := by
  have hopened : r.opened? = none := by
    cases ho : r.opened? with
    | none => rfl
    | some s =>
      rw [Report.asked?_of_opened? ho] at asked
      cases asked
  refine h.concat (by simp [hopened]) (by simp [hopened]) (by simp [committed]) ?_
    (fun _ _ _ => h.live_concat committed) (fun _ c hc _ => ⟨c, hc⟩) ?_ told ?_ ?_
  · simp [asked, switch]
  · intro s hs
    rw [hopened] at hs
    cases hs
  · rintro s a rfl
    cases asked
  · intro s hs
    rw [committed] at hs
    cases hs

/-! ## Requests -/

/-- A beginning is refused when the switch is armed, and disarms it; otherwise the session gets the next number. -/
theorem begin (h : Accounted st j) (hs : s ∉ j.opened) :
    Accounted (st.begin s).2 (j ++ [.answered s .begin (st.begin s).1]) := by
  have hnot : s ∉ j.committed := fun hmem => hs (h.opened s hmem)
  cases hfail : st.failNextBegin with
  | true =>
    have harmed : j.Armed := h.armed.1 hfail
    have hbegin : st.begin s = (.error (.session (State.connectionError "begin refused")),
        { st with failNextBegin := false }) := if_pos hfail
    rw [hbegin]
    refine h.concat rfl (by simp [Report.opened?]) rfl ?_ (fun _ _ _ => h.live_concat rfl) (fun _ c hc _ => ⟨c, hc⟩)
      ?_ ?_ ?_ ?_
    · simp [Report.asked?]
    · rintro t ⟨⟩
    · rintro t id ⟨⟩
    · rintro t a ⟨⟩
      exact ⟨iff_of_true rfl harmed, iff_of_false (by simp) (not_not_intro harmed)⟩
    · rintro t ⟨⟩
  | false =>
    have harmed : ¬j.Armed := fun ha => by simp [h.armed.2 ha] at hfail
    have hcards := fun t => State.card?_begin (s := s) (t := t) hfail
    have hbegin : st.begin s = (.ok (), { st with
        begun := st.begun + 1
        lastTransactionId := st.lastTransactionId + 1
        sessions := st.sessions.set s { transactionId := st.lastTransactionId + 1 } }) := by
      simp [State.begin, hfail]
    rw [hbegin] at hcards ⊢
    refine h.concat rfl rfl rfl ?_ ?_ ?_ ?_ ?_ ?_ ?_
    · simp [Report.asked?, hfail]
    · intro t id finished hcard
      rw [hcards] at hcard
      split at hcard
      next ht =>
        -- the last number so far is the number of sessions opened so far
        cases hcard
        rw [ht, h.last]
        exact ⟨.next rfl, fun _ => by simpa [Report.committed?] using hnot⟩
      next => exact h.live_concat rfl hcard
    · intro t c hc _
      rw [hcards]
      split
      next => exact ⟨_, rfl⟩
      next => exact ⟨c, hc⟩
    · rintro t ⟨⟩
      exact ⟨_, by rw [hcards, if_pos rfl]⟩
    · rintro t id ⟨⟩
    · rintro t a ⟨⟩
      exact ⟨iff_of_false (by simp) harmed, iff_of_true rfl harmed⟩
    · rintro t ⟨⟩

/-- The number that a session tells is the one that it was opened with. -/
theorem transactionId (h : Accounted st j) (s : SessionId) :
    Accounted st (j ++ [.answered s .transactionId (st.transactionId s)]) := by
  refine h.quiet rfl rfl (by simp) ?_
  intro t id hr
  obtain ⟨rfl, hanswer⟩ : s = t ∧ st.transactionId s = .ok id := by simpa using hr
  unfold State.transactionId at hanswer
  split at hanswer
  next x hx =>
    cases hanswer
    obtain ⟨hget, hopen⟩ := State.openSession?_eq_some_iff.1 hx
    exact (h.live s x.transactionId x.finished (by simp [State.card?, hget, Session.card])).1
  next => cases hanswer

/-- A request for a pair is counted nowhere, answered or not. -/
theorem lock (h : Accounted st j) (s : SessionId) (pair : HashPair) (p : Poll (Except DatabaseError Unit))
    (counts : st'.counts = st.counts) (cards : ∀ t, st'.card? t = st.card? t) :
    Accounted st' (j ++ p.noted (.answered s (.lock pair))) := by
  have hrest : Accounted st' j := h.rest counts cards
  cases p with
  | pending => simpa [Poll.noted] using hrest
  | ready a => exact hrest.quiet rfl rfl (by simp) (by simp)

/-- A commit that succeeds is counted, and none succeeds twice. -/
theorem commit (h : Accounted st j) (s : SessionId) :
    Accounted (st.commit s).2 (j ++ [.answered s .commit (st.commit s).1]) := by
  cases hx : st.openSession? s with
  | none =>
    have hcommit : st.commit s = (.error .transactionFinished, st) := by simp only [State.commit, hx]
    rw [hcommit]
    exact h.quiet rfl rfl (by simp) (by simp)
  | some x =>
    obtain ⟨hget, hfinished⟩ := State.openSession?_eq_some_iff.1 hx
    obtain ⟨hnumber, hopen⟩ := h.live s x.transactionId false (by simp [State.card?, hget, Session.card, hfinished])
    have hcards := fun t => State.card?_commit (t := t) hx
    -- the session is finished now, all others are as they were
    have hlive : ∀ t id finished, (st.commit s).2.card? t = some (id, finished) →
        j.Numbers t id ∧ (finished = false → t ≠ s ∧ t ∉ j.committed) := by
      intro t id finished hcard
      rw [hcards] at hcard
      split at hcard
      next ht =>
        cases hcard
        exact ⟨ht ▸ hnumber, by simp⟩
      next ht =>
        obtain ⟨hnumber', hopen'⟩ := h.live t id finished hcard
        exact ⟨hnumber', fun hf => ⟨ht, hopen' hf⟩⟩
    have hstays : ∀ t c, st.card? t = some c → ∃ c', (st.commit s).2.card? t = some c' := by
      intro t c hc
      rw [hcards]
      split
      next => exact ⟨_, rfl⟩
      next => exact ⟨c, hc⟩
    obtain ⟨hbegun, hlast, hcommitted, harmed, -⟩ := State.counts_eq_iff.1 (State.counts_freed st s)
    have hcommit := State.commit_of_open hx
    by_cases hfail : st.failCommits = true
    · rw [if_pos hfail] at hcommit
      rw [hcommit] at hlive hstays ⊢
      refine h.concat (by simpa [Report.opened?] using hbegun) (by simpa [Report.opened?] using hlast) hcommitted
        ?_ ?_ (fun t c hc _ => hstays t c hc) (by simp [Report.opened?]) (by simp) (by simp) (by simp [Report.committed?])
      · simp [Report.asked?, harmed]
      · intro t id finished hcard
        obtain ⟨hnumber', hopen'⟩ := hlive t id finished hcard
        exact ⟨hnumber'.concat _, fun hf => by simpa [Report.committed?] using (hopen' hf).2⟩
    · rw [if_neg hfail] at hcommit
      rw [hcommit] at hlive hstays ⊢
      refine h.concat (by simpa [Report.opened?] using hbegun) (by simpa [Report.opened?] using hlast) rfl ?_ ?_
        (fun t c hc _ => hstays t c hc) (by simp [Report.opened?]) (by simp) (by simp) ?_
      · simp [Report.asked?, harmed]
      · intro t id finished hcard
        obtain ⟨hnumber', hopen'⟩ := hlive t id finished hcard
        refine ⟨hnumber'.concat _, fun hf => ?_⟩
        obtain ⟨hne, hnot⟩ := hopen' hf
        simp [Report.committed?, hne, hnot]
      · -- it was not finished before, and only finished sessions are counted
        intro t ht
        obtain rfl : s = t := Option.some.inj ht
        exact ⟨hopen rfl, hnumber.mem⟩

theorem abandon (h : Accounted st j) (s : SessionId) : Accounted (st.abandon s) j :=
  h.rest (State.counts_abandon st s) fun _ => State.card?_abandon st s

/-- A session that is dropped is gone; what was counted stays. -/
theorem drop (h : Accounted st j) (s : SessionId) : Accounted (st.drop s) (j ++ [.dropped s]) := by
  obtain ⟨hbegun, hlast, hcommitted, harmed, -⟩ := State.counts_eq_iff.1 (State.counts_drop st s)
  refine h.concat (by simpa [Report.opened?] using hbegun) (by simpa [Report.opened?] using hlast) hcommitted ?_ ?_ ?_
    (by simp [Report.opened?]) (by simp) (by simp) (by simp [Report.committed?])
  · simp [Report.asked?, harmed]
  · intro t id finished hcard
    rw [State.card?_drop] at hcard
    split at hcard
    next => cases hcard
    next => exact h.live_concat rfl hcard
  · intro t c hc hne
    have hts : t ≠ s := fun ht => hne (congrArg Report.dropped ht.symm)
    exact ⟨c, by rw [State.card?_drop, if_neg hts, hc]⟩

/-! ## From outside -/

theorem switch (h : Accounted st j) (sw : Switch) : Accounted (st.switch sw) (j ++ [.switched sw]) := by
  have hlast : (st.switch sw).lastTransactionId = st.lastTransactionId := by cases sw <;> rfl
  have hcards : ∀ t, (st.switch sw).card? t = st.card? t := by
    intro t
    cases sw <;> rfl
  refine h.concat (by cases sw <;> rfl) ?_ (by cases sw <;> rfl) ?_ ?_ ?_ (by simp [Report.opened?]) (by simp) (by simp)
    (by simp [Report.committed?])
  · simpa [Report.opened?] using hlast
  · cases sw <;> simp [State.switch, Report.asked?]
  · intro t id finished hcard
    exact h.live_concat rfl ((hcards t).symm.trans hcard)
  · exact fun t c hc _ => ⟨c, (hcards t).trans hc⟩

theorem probe (h : Accounted st j) (pair : HashPair) : Accounted (st.probe pair).2 j := by
  refine h.rest (State.counts_probe st pair) fun t => ?_
  rw [State.card?_eq, State.outline_probe, ← State.card?_eq]

end Accounted

/-! ## Runs -/

/-- No session is opened twice: the next one was not asked to begin yet. -/
theorem Journal.next_not_opened {j : Journal} {n : Nat} (asked : j.asked = List.range' 1 n) : n + 1 ∉ j.opened := by
  intro hmem
  have hasked := j.opened_sublist_asked.subset hmem
  rw [asked, List.mem_range'_1] at hasked
  omega

theorem Journal.asked_noted (j : Journal) (s : SessionId) {r : Request} (hr : r ≠ .begin) (p : Poll r.Answer) :
    Journal.asked (j ++ p.noted (.answered s r)) = j.asked := by
  cases p with
  | pending => rw [Poll.noted, List.append_nil]
  | ready a =>
    rw [Poll.noted, Journal.asked_concat]
    cases r with
    | begin => exact absurd rfl hr
    | _ => exact List.append_nil _

/-- Every request is accounted for, and sessions are asked to begin once each, in their order. -/
theorem watched_keeps :
    (backend.watched Report.answered .dropped).Keeps fun n st =>
      Accounted st.1 st.2 ∧ Journal.asked st.2 = List.range' 1 n where
  opens := by
    rintro n ⟨st, j⟩ ⟨h, asked⟩
    refine ⟨h.begin (Journal.next_not_opened asked), ?_⟩
    have hasked : Journal.asked (j ++ [.answered (n + 1) .begin (st.begin (n + 1)).1]) = Journal.asked j ++ [n + 1] := by
      rw [Journal.asked_concat]
      rfl
    calc
      _ = Journal.asked j ++ [n + 1] := hasked
      _ = List.range' 1 (n + 1) := by rw [asked, List.range'_1_concat, Nat.add_comm 1 n]
  asks := by
    rintro n ⟨st, j⟩ ⟨h, asked⟩ s r hr
    refine ⟨?_, (Journal.asked_noted j s hr _).trans asked⟩
    cases r with
    | begin => exact absurd rfl hr
    | transactionId => exact h.transactionId s
    | lock pair =>
      exact h.lock s pair _ (State.counts_lock st s pair) fun t =>
        State.card?_answer .first s (.lock pair) st (by simp) (by simp)
    | commit => exact h.commit s
  looks := by
    rintro n ⟨st, j⟩ ⟨h, asked⟩ s r
    cases r with
    | lock pair =>
      refine ⟨?_, (Journal.asked_noted j s (by simp) _).trans asked⟩
      exact h.lock s pair _ (State.counts_lockAgain st s) fun t =>
        State.card?_answer .later s (.lock pair) st (by simp) (by simp)
    | _ =>
      -- nothing but a request for a pair ever waits
      simpa [Backend.watched, backend, State.resume, Poll.noted] using And.intro h asked
  abandons := by
    rintro n ⟨st, j⟩ ⟨h, asked⟩ s
    exact ⟨h.abandon s, asked⟩
  drops := by
    rintro n ⟨st, j⟩ ⟨h, asked⟩ s
    exact ⟨h.drop s, by simpa [Backend.watched, Report.asked?] using asked⟩

/-- In every run the state of the sessions is accounted for by the journal. -/
theorem watched_accounted (n : Nat) (hs : List Happening) :
    Accounted (run n hs).ensemble.world.sessions (journal n hs) ∧
      (journal n hs).asked = List.range' 1 (run n hs).ensemble.world.begins := by
  have houtside : ∀ f, .outside f ∈ hs.map Happening.watched → ∀ {k : Nat} {st : State × Journal},
      Accounted st.1 st.2 ∧ Journal.asked st.2 = List.range' 1 k →
        Accounted (f st).1 (f st).2 ∧ Journal.asked (f st).2 = List.range' 1 k := by
    intro f hf k st ⟨h, asked⟩
    obtain ⟨x, -, hx⟩ := List.mem_map.1 hf
    cases x with
    | event e => cases hx
    | switch sw =>
      cases hx
      refine ⟨h.switch sw, ?_⟩
      simpa [Report.asked?] using asked
    | probe pair =>
      cases hx
      exact ⟨h.probe pair, asked⟩
  have hkeeps : Accounted (watched n hs).ensemble.world.sessions.1 (journal n hs) ∧
      (journal n hs).asked = List.range' 1 (watched n hs).ensemble.world.begins :=
    watched_keeps.run ⟨.start, rfl⟩ n houtside
  rw [(watched_like n hs).ensemble.world]
  exact hkeeps

end Memory

end NamedLock
