import NamedLock.Proofs.Ensemble.Watch
import NamedLock.Proofs.Memory.Runs

/-!
# Journal — what sessions in memory answered

The journal of a run lists every answer that a session gave, every session that was dropped and every switch that was
flipped, in the order in which this happened. It tells which sessions were opened, which of them were committed, and
whether the next beginning is to fail; none of this is taken from the state of the sessions.
-/

namespace NamedLock

namespace Memory

/-- An entry of a journal: an answer, the end of a session, or a switch that was flipped. -/
inductive Report
  | answered (s : SessionId) (r : Request) (a : r.Answer)
  | dropped (s : SessionId)
  | switched (sw : Switch)

namespace Report

/-- The session that was asked to begin, whatever it answered. -/
def asked? : Report → Option SessionId
  | answered s .begin _ => some s
  | _ => none

/-- The session that was opened. -/
def opened? : Report → Option SessionId
  | answered s .begin (.ok ()) => some s
  | _ => none

/-- The session whose commit succeeded. -/
def committed? : Report → Option SessionId
  | answered s .commit (.ok ()) => some s
  | _ => none

/-- The switch that was flipped. -/
def switch? : Report → Option Switch
  | switched sw => some sw
  | _ => none

/-- A session that was opened was asked to begin. -/
theorem asked?_of_opened? {r : Report} {s : SessionId} (h : r.opened? = some s) : r.asked? = some s := by
  unfold opened? at h
  split at h
  next => exact h
  next => cases h

end Report

/-- Everything that was reported, oldest first. -/
abbrev Journal := List Report

namespace Journal

variable (j : Journal) (r : Report)

/-- The sessions that were asked to begin, oldest first. -/
def asked : List SessionId := j.filterMap Report.asked?

/-- The sessions that were opened, oldest first. -/
def opened : List SessionId := j.filterMap Report.opened?

/-- The sessions that were committed with success, oldest first. -/
def committed : List SessionId := j.filterMap Report.committed?

/-- The switches that were flipped, oldest first. -/
def switches : List Switch := j.filterMap Report.switch?

/-- Sessions are numbered in the order in which they were opened, from one. -/
def Numbers (s : SessionId) (id : Int) : Prop := ∃ k : Nat, j.opened[k]? = some s ∧ id = k + 1

/-- The next beginning was to fail, and there was none since. -/
def Armed : Prop := ∃ before after, j = before ++ .switched .nextBegin :: after ∧ ∀ r ∈ after, r.asked? = none

section Concat

@[simp] theorem asked_concat : asked (j ++ [r]) = j.asked ++ r.asked?.toList := by
  cases h : r.asked? <;> simp [asked, h]

@[simp] theorem opened_concat : opened (j ++ [r]) = j.opened ++ r.opened?.toList := by
  cases h : r.opened? <;> simp [opened, h]

@[simp] theorem committed_concat : committed (j ++ [r]) = j.committed ++ r.committed?.toList := by
  cases h : r.committed? <;> simp [committed, h]

@[simp] theorem switches_concat : switches (j ++ [r]) = j.switches ++ r.switch?.toList := by
  cases h : r.switch? <;> simp [switches, h]

variable {j r}

/-- An entry of a longer journal is the last one, or it was there before. -/
theorem concat_eq_iff {before after : Journal} {x : Report} :
    j ++ [r] = before ++ x :: after ↔
      j = before ∧ r = x ∧ after = [] ∨ ∃ after', after = after' ++ [r] ∧ j = before ++ x :: after' := by
  constructor
  · intro h
    rcases List.eq_nil_or_concat after with rfl | ⟨after', y, rfl⟩
    · obtain ⟨hj, hr⟩ := List.append_inj' h rfl
      exact .inl ⟨hj, (List.cons.inj hr).1, rfl⟩
    · have hsplit : j ++ [r] = (before ++ x :: after') ++ [y] := by simpa using h
      obtain ⟨hj, hr⟩ := List.append_inj' hsplit rfl
      obtain rfl := (List.cons.inj hr).1
      exact .inr ⟨after', List.concat_eq_append, hj⟩
  · rintro (⟨rfl, rfl, rfl⟩ | ⟨after', rfl, rfl⟩)
    · rfl
    · simp

/-- A beginning disarms, and nothing but the switch arms. -/
theorem armed_concat : Armed (j ++ [r]) ↔ r = .switched .nextBegin ∨ r.asked? = none ∧ j.Armed := by
  constructor
  · rintro ⟨before, after, hsplit, hquiet⟩
    rcases concat_eq_iff.1 hsplit with ⟨-, hr, -⟩ | ⟨after', rfl, hj⟩
    · exact .inl hr
    · refine .inr ⟨hquiet r (by simp), before, after', hj, ?_⟩
      exact fun x hx => hquiet x (List.mem_append_left _ hx)
  · rintro (rfl | ⟨hr, before, after, rfl, hquiet⟩)
    · exact ⟨j, [], rfl, by simp⟩
    · refine ⟨before, after ++ [r], by simp, ?_⟩
      intro x hx
      rcases List.mem_append.1 hx with hx | hx
      · exact hquiet x hx
      · rw [List.mem_singleton.1 hx]
        exact hr

theorem not_armed_nil : ¬Armed [] := by
  rintro ⟨before, after, h, -⟩
  cases before <;> cases h

end Concat

/-! ## Sessions that were opened -/

/-- Sessions are opened in the order in which they are asked to begin. -/
theorem opened_sublist_asked : j.opened.Sublist j.asked := by
  induction j with
  | nil => exact .slnil
  | cons r j ih =>
    cases ho : r.opened? with
    | some s => simpa [opened, asked, ho, Report.asked?_of_opened? ho] using ih
    | none =>
      cases ha : r.asked? with
      | some s =>
        have hskip := ih.cons s
        simpa [opened, asked, ho, ha] using hskip
      | none => simpa [opened, asked, ho, ha] using ih

variable {j}

/-- What is reported later changes no number. -/
theorem Numbers.concat {s : SessionId} {id : Int} (h : j.Numbers s id) (r : Report) : Numbers (j ++ [r]) s id := by
  obtain ⟨k, hk, hid⟩ := h
  obtain ⟨hlt, -⟩ := List.getElem?_eq_some_iff.1 hk
  refine ⟨k, ?_, hid⟩
  rw [opened_concat, List.getElem?_append_left hlt, hk]

/-- The session that is opened gets the next number. -/
theorem Numbers.next {s : SessionId} {r : Report} (h : r.opened? = some s) :
    Numbers (j ++ [r]) s (j.opened.length + 1) :=
  ⟨j.opened.length, by simp [h], rfl⟩

theorem Numbers.mem {s : SessionId} {id : Int} (h : j.Numbers s id) : s ∈ j.opened := by
  obtain ⟨k, hk, -⟩ := h
  exact List.mem_of_getElem? hk

/-- Numbers lie between one and the number of sessions that were opened. -/
theorem Numbers.bounds {s : SessionId} {id : Int} (h : j.Numbers s id) : 1 ≤ id ∧ id ≤ j.opened.length := by
  obtain ⟨k, hk, rfl⟩ := h
  obtain ⟨hlt, -⟩ := List.getElem?_eq_some_iff.1 hk
  omega

/-- Sessions with one number are one session. -/
theorem Numbers.session_eq {s t : SessionId} {id : Int} (h : j.Numbers s id) (h' : j.Numbers t id) : s = t := by
  obtain ⟨k, hk, rfl⟩ := h
  obtain ⟨l, hl, heq⟩ := h'
  obtain rfl : k = l := by omega
  rw [hk] at hl
  exact Option.some.inj hl

/-- When sessions are asked to begin in their order, they are numbered in it. -/
theorem Numbers.lt_iff (hj : j.asked.Pairwise (· < ·)) {s t : SessionId} {id id' : Int} (h : j.Numbers s id)
    (h' : j.Numbers t id') : s < t ↔ id < id' := by
  obtain ⟨k, hk, rfl⟩ := h
  obtain ⟨l, hl, rfl⟩ := h'
  obtain ⟨hk', rfl⟩ := List.getElem?_eq_some_iff.1 hk
  obtain ⟨hl', rfl⟩ := List.getElem?_eq_some_iff.1 hl
  -- a session may be refused, but none overtakes another
  have hsorted : j.opened.Pairwise (· < ·) := hj.sublist j.opened_sublist_asked
  have hmono := List.pairwise_iff_getElem.1 hsorted
  constructor
  · intro hst
    by_contra hle
    rcases Nat.lt_or_ge l k with hlt | hge
    · exact absurd hst (Nat.lt_asymm (hmono l k hl' hk' hlt))
    · obtain rfl : k = l := by omega
      exact absurd hst (Nat.lt_irrefl _)
  · intro hid
    exact hmono k l hk' hl' (by omega)

/-- Then each of them has one number. -/
theorem Numbers.number_eq (hj : j.asked.Pairwise (· < ·)) {s : SessionId} {id id' : Int} (h : j.Numbers s id)
    (h' : j.Numbers s id') : id = id' := by
  have hge : ¬id < id' := fun hlt => Nat.lt_irrefl s ((h.lt_iff hj h').2 hlt)
  have hle : ¬id' < id := fun hlt => Nat.lt_irrefl s ((h'.lt_iff hj h).2 hlt)
  omega

end Journal

/-! ## Runs with a journal -/

namespace Happening

/-- A happening, for the backend with a journal. -/
def watched : Happening → NamedLock.Happening (State × Journal)
  | event e => .event e
  | switch sw => .outside fun st => (st.1.switch sw, st.2 ++ [.switched sw])
  | probe pair => .outside fun st => ((st.1.probe pair).2, st.2)

/-- The switch that is flipped. -/
def switch? : Happening → Option Switch
  | switch sw => some sw
  | _ => none

end Happening

/-- The run of `n` registries on sessions in memory, with its journal. -/
def watched (n : Nat) (hs : List Happening) : Run (State × Journal) :=
  Run.of (backend.watched .answered .dropped) ({}, []) n (hs.map Happening.watched)

/-- Everything that was reported in a run. -/
def journal (n : Nat) (hs : List Happening) : Journal := (watched n hs).ensemble.world.sessions.2

/-- A run is the same with a journal and without. -/
theorem watched_like (n : Nat) (hs : List Happening) :
    (watched n hs).Like (fun w v => v = World.unwatched w) (run n hs) := by
  refine (Tracks.unwatched backend Report.answered .dropped).run ?_ rfl n hs
  intro h
  cases h with
  | event e => exact .event e
  | switch sw =>
    refine .outside ?_
    rintro w _ rfl
    rfl
  | probe pair =>
    refine .outside ?_
    rintro w _ rfl
    rfl

end Memory

end NamedLock
