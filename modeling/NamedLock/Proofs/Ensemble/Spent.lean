import NamedLock.Proofs.Ensemble.Ledger
import NamedLock.Session.Scripted

/-!
# Spent — tokens that match no entry

A token that no entry of a registry has changes nothing there. A token that was yielded and then passed to its
registry is spent: no acquisition and no entry has it any more, and as long as no token is asked for twice none ever
will, whoever takes the same lock again.
-/

namespace NamedLock

open Ensemble

variable {σ : Type}

/-- The event of a release with a token that no entry has. -/
def Registry.strangerEvent (token : String) : Log.Event :=
  unlockEvent token .info "Caller not lock owner" [("owner", .text token)]

/-- A registry that is asked to unlock with a token of no entry says so, and that is all that happens. -/
theorem Ensemble.unlock_of_unmatched (b : Backend σ) {ens : Ensemble σ} (hens : ens.Tidy) (name : String)
    {token : String} {i : Nat} {reg : Registry} (hreg : ens.registries[i]? = some reg)
    (unmatched : ∀ id h, reg.entries.get? id = some h → h.ownerToken ≠ some token) :
    step b ens (.unlock name token i) =
      (.done, { ens with world := ens.world.tell (Registry.strangerEvent token) }) := by
  rcases Registry.takeOwned_cases (hens.registries i reg hreg) token ens.world with
    ⟨htake, -⟩ | ⟨id, h, hid, ht, -⟩
  · have hunlock : Registry.unlock b token reg ens.world =
        (.finished (), reg, ens.world.tell (Registry.strangerEvent token)) := by
      rw [Registry.unlock, htake]
      rfl
    simp [step, hreg, hunlock, unlocked, setRegistry_self hreg]
  · exact absurd ht (unmatched id h hid)

/-! ## Tokens that were yielded -/

/-- The tokens of grants were asked for, and where one of them still is, there stands the entry of its grant. -/
structure Run.Issued (r : Run σ) : Prop where
  listed : r.Listed
  asked : ∀ g ∈ granted r.history, g.token ∈ r.history.filterMap (·.event.asked?)
  placed : ∀ g ∈ granted r.history, ∀ p s g', r.ensemble.filed p = some (s, g') → g'.token = g.token → p = g.place

namespace Run.Issued

variable {r : Run σ} {ens' : Ensemble σ} {m : Moment} {name : String} {s : SessionId} {g : Grant}

theorem start (st : σ) (n : Nat) : Run.Issued { ensemble := .ofBackend st n } where
  listed := .start st n
  asked := by simp [granted]
  placed := by simp [granted]

theorem outside {b : Backend σ} (h : r.Issued) (f : σ → σ) : (r.advance b (.outside f)).Issued where
  listed := h.listed.outside f
  asked := h.asked
  placed g hg p s g' hp := h.placed g hg p s g' ((filed_outside r f p).symm.trans hp)

/-- An acquisition that is carried on has a token of its own: no grant has it, and nothing else has it either. -/
theorem token_of_carries (h : r.Issued) (carries : r.ensemble.Carries name s g m.event)
    (fresh : ∀ token, m.event.asked? = some token → token ∉ r.history.filterMap (·.event.asked?)) :
    (∀ g' ∈ granted r.history, g.token ≠ g'.token) ∧
      ∀ q s' g', r.ensemble.filed q = some (s', g') → (m.event = .poll name → q ≠ .call name) →
        g'.token ≠ g.token := by
  generalize m.event = e at carries fresh
  cases carries with
  | starts hs =>
    -- a new token was not asked for before, and all others were
    have hnew := fresh g.token rfl
    refine ⟨fun g' hg' hsame => hnew (hsame ▸ h.asked g' hg'), ?_⟩
    exact fun q s' g' hq _ hsame => hnew (hsame ▸ h.listed.asked q s' g' hq)
  | goesOn line =>
    refine ⟨?_, fun q s' g' hq hleft hsame => hleft rfl (h.listed.apart q _ _ _ hq line hsame)⟩
    intro g' hg' hsame
    cases h.placed g' hg' _ s g line hsame

/-- Where lines stand after an acquisition came to a place. -/
theorem placed_moves {e : Event} {p : Place} (h : r.Issued) (lines : r.ensemble.Moves ens' e name p (s, g))
    (other : ∀ g' ∈ granted r.history, g.token ≠ g'.token) {g' : Grant} (hg' : g' ∈ granted r.history) {q : Place}
    {s' : SessionId} {g'' : Grant} (hq : ens'.filed q = some (s', g'')) (hsame : g''.token = g'.token) :
    q = g'.place := by
  rcases lines q _ hq with ⟨-, he⟩ | ⟨hline, -⟩
  · cases he
    exact absurd hsame (other g' hg')
  · exact h.placed g' hg' q s' g'' hline hsame

/-- An event that asks for no token a second time. -/
theorem turn (h : r.Issued) (tidy : ens'.Tidy) (t : r.ensemble.Turns ens' m)
    (fresh : ∀ token, m.event.asked? = some token → token ∉ r.history.filterMap (·.event.asked?)) :
    Run.Issued { ensemble := ens', history := r.history ++ [m] } where
  listed := h.listed.turn tidy t fresh
  asked g hg := by
    rw [granted_concat, List.mem_append, Option.mem_toList] at hg
    rcases hg with hg | hg
    · rw [List.filterMap_append]
      exact List.mem_append_left _ (h.asked g hg)
    · cases t with
      | rests _ grant _ _ _ => simp [grant] at hg
      | waits _ _ _ _ _ _ grant _ _ => simp [grant] at hg
      | files name s₀ g₀ reg e carries _ _ _ _ _ grant _ _ =>
        rw [grant] at hg
        cases hg
        exact h.listed.asked_of_carries carries
      | takes _ _ _ _ _ event _ _ _ _ _ =>
        rw [Moment.grant?_of_unlock event] at hg
        cases hg
  placed g hg p s g' hp hsame := by
    rw [granted_concat, List.mem_append, Option.mem_toList] at hg
    cases t with
    | rests _ grant lines _ _ =>
      simp only [grant, reduceCtorEq, or_false] at hg
      exact h.placed g hg p s g' (lines p _ hp) hsame
    | waits name s₀ g₀ carries _ _ grant lines _ =>
      simp only [grant, reduceCtorEq, or_false] at hg
      exact h.placed_moves lines (h.token_of_carries carries fresh).1 hg hp hsame
    | files name s₀ g₀ reg e carries _ _ _ _ _ grant lines _ =>
      obtain ⟨hgrants, hlines⟩ := h.token_of_carries carries fresh
      rw [grant, Option.some.injEq] at hg
      rcases hg with hg | rfl
      · exact h.placed_moves lines hgrants hg hp hsame
      · rcases lines p _ hp with ⟨rfl, -⟩ | ⟨hline, hleft⟩
        · rfl
        · exact absurd hsame (hlines p s g' hline hleft)
    | takes name s₀ g₀ reg id event _ _ _ lines _ =>
      rw [Moment.grant?_of_unlock event] at hg
      simp only [reduceCtorEq, or_false] at hg
      exact h.placed g hg p s g' (lines p _ hp).2 hsame

theorem of_run (b : Backend σ) (st : σ) (n : Nat) {hs : List (Happening σ)}
    (fresh : (hs.filterMap Happening.asked?).Nodup) : (Run.of b st n hs).Issued := by
  refine Run.fresh_induction [] (start st n) (fun r f h => h.outside f) ?_ fresh
  intro r e h hfresh
  have t := step_turnover (b := b) h.listed.tidy e
  exact h.turn t.tidy t.turns hfresh

end Run.Issued

/-! ## Tokens that were given back -/

/-- A token that was asked for once, and that nothing has any more. -/
structure Run.Spent (r : Run σ) (token : String) : Prop where
  tidy : r.ensemble.Tidy
  asked : token ∈ r.history.filterMap (·.event.asked?)
  nowhere : ∀ p s g, r.ensemble.filed p = some (s, g) → g.token ≠ token

namespace Run.Spent

variable {r : Run σ} {ens' : Ensemble σ} {m : Moment} {token : String}

/-- A token that was yielded is spent when it is passed to its registry. -/
theorem of_unlock {name : String} {g : Grant} (h : r.Issued) (hg : g ∈ granted r.history) (tidy : ens'.Tidy)
    (t : r.ensemble.Turns ens' m) (event : m.event = .unlock name g.token g.registry) :
    Run.Spent { ensemble := ens', history := r.history ++ [m] } g.token where
  tidy := tidy
  asked := by
    rw [List.filterMap_append]
    exact List.mem_append_left _ (h.asked g hg)
  nowhere p s g' hp hsame := by
    cases t with
    | rests _ _ lines nothing _ =>
      -- the line would be the entry of the grant, but no entry matched
      have hline := lines p _ hp
      have hplace := h.placed g hg p s g' hline hsame
      subst hplace
      exact nothing name _ _ event _ s g' hline hsame
    | waits name' s₀ g₀ carries _ _ _ _ _ => exact carries.not_unlock name event
    | files name' s₀ g₀ reg e carries _ _ _ _ _ _ _ _ => exact carries.not_unlock name event
    | takes name' s₀ g₀ reg id event' _ line _ lines _ =>
      -- both the line and what was taken out would be the entry of the grant
      obtain ⟨hne, hline⟩ := lines p _ hp
      have htoken : g₀.token = g.token := (Event.unlock.inj (event'.symm.trans event)).2.1
      have hplace := h.placed g hg _ s₀ g₀ line htoken
      exact hne ((h.placed g hg p s g' hline hsame).trans hplace.symm)

theorem outside {b : Backend σ} (h : r.Spent token) (f : σ → σ) : (r.advance b (.outside f)).Spent token where
  tidy := h.tidy.same rfl fun _ _ _ => id
  asked := h.asked
  nowhere p s g hp := h.nowhere p s g ((filed_outside r f p).symm.trans hp)

/-- An acquisition that is carried on has another token. -/
theorem ne_of_carries (h : r.Spent token) {name : String} {s : SessionId} {g : Grant}
    (carries : r.ensemble.Carries name s g m.event)
    (fresh : ∀ token, m.event.asked? = some token → token ∉ r.history.filterMap (·.event.asked?)) :
    g.token ≠ token := by
  generalize m.event = e at carries fresh
  cases carries with
  | starts hs =>
    rintro rfl
    exact fresh g.token rfl h.asked
  | goesOn line => exact h.nowhere _ s g line

/-- A spent token stays spent. -/
theorem turn (h : r.Spent token) (tidy : ens'.Tidy) (t : r.ensemble.Turns ens' m)
    (fresh : ∀ token, m.event.asked? = some token → token ∉ r.history.filterMap (·.event.asked?)) :
    Run.Spent { ensemble := ens', history := r.history ++ [m] } token where
  tidy := tidy
  asked := by
    rw [List.filterMap_append]
    exact List.mem_append_left _ h.asked
  nowhere p s g hp := by
    rcases t.line hp with hline | ⟨name, carries⟩
    · exact h.nowhere p s g hline
    · exact h.ne_of_carries carries fresh

/-- No entry of any table has a spent token. -/
theorem unmatched (h : r.Spent token) {i : Nat} {reg : Registry} (hreg : r.ensemble.registries[i]? = some reg)
    {id : String} {e : LockHandle} (he : reg.entries.get? id = some e) : e.ownerToken ≠ some token := by
  obtain ⟨s, g, hline, -, ht, -⟩ := h.tidy.filed_entry hreg he
  rw [ht]
  intro hsame
  exact h.nowhere _ s g hline (Option.some.inj hsame)

/-- From the unlock of a token that was yielded, the token is spent, however the run goes on. -/
theorem of_run (b : Backend σ) (st : σ) (n : Nat) {before later : List (Happening σ)} {name : String} {g : Grant}
    (fresh : ((before ++ .event (.unlock name g.token g.registry) :: later).filterMap Happening.asked?).Nodup)
    (hg : g ∈ granted (Run.of b st n before).history) :
    (Run.of b st n (before ++ .event (.unlock name g.token g.registry) :: later)).Spent g.token := by
  have hsplit : before ++ .event (.unlock name g.token g.registry) :: later =
      (before ++ [.event (.unlock name g.token g.registry)]) ++ later := by simp
  have hbefore : (before.filterMap Happening.asked?).Nodup := by
    rw [List.filterMap_append] at fresh
    exact (List.nodup_append.1 fresh).1
  have hissued : (Run.of b st n before).Issued := .of_run b st n hbefore
  have t := step_turnover (b := b) hissued.listed.tidy (.unlock name g.token g.registry)
  rw [hsplit] at fresh ⊢
  refine Run.fresh_induction (P := fun r => r.Spent g.token) _ ?_ (fun r f h => h.outside f) ?_ fresh
  · rw [Run.of_concat]
    exact of_unlock hissued hg t.tidy t.turns rfl
  · intro r e h hfresh
    have t := step_turnover (b := b) h.tidy e
    exact h.turn t.tidy t.turns hfresh

end Run.Spent

/-! ## Powerless tokens -/

/-- A token that no entry of a registry has is powerless there: asked to unlock with it, the registry says that the
caller does not own a lock, and nothing else changes, neither a table, nor a session, nor anything that was recorded.
And when a token was yielded and its registry was asked to unlock with it, then it has no entry any more, however the
run goes on, as long as no token is asked for twice. This holds for every backend. -/
theorem spent_token_powerless (b : Backend σ) (st : σ) (n : Nat) :
    (∀ (hs : List (Happening σ)) (name token : String) (i : Nat) (reg : Registry),
        (Run.of b st n hs).ensemble.registries[i]? = some reg →
        (∀ id h, reg.entries.get? id = some h → h.ownerToken ≠ some token) →
          step b (Run.of b st n hs).ensemble (.unlock name token i) =
            (.done, { (Run.of b st n hs).ensemble with
              world := (Run.of b st n hs).ensemble.world.tell (Registry.strangerEvent token) })) ∧
      ∀ (before later : List (Happening σ)) (name : String) (g : Grant),
        ((before ++ .event (.unlock name g.token g.registry) :: later).filterMap Happening.asked?).Nodup →
        g ∈ granted (Run.of b st n before).history →
          ∀ (i : Nat) (reg : Registry) id h,
            (Run.of b st n (before ++ .event (.unlock name g.token g.registry) :: later)).ensemble.registries[i]? =
              some reg →
            reg.entries.get? id = some h → h.ownerToken ≠ some g.token := by
  constructor
  · intro hs name token i reg hreg unmatched
    exact unlock_of_unmatched b (Run.tidy_of b st n hs) name hreg unmatched
  · intro before later name g fresh hg i reg id h hreg hid
    exact (Run.Spent.of_run b st n fresh hg).unmatched hreg hid

/-- A lock is given back, and taken again with another token. -/
def takenAgain : List (Happening Scripted.State) :=
  [.event (.acquire "a" "first" { resourceId := "herd", lockClass := .dinosaurs } 0),
    .event (.unlock "b" "first" 0),
    .event (.acquire "c" "second" { resourceId := "herd", lockClass := .dinosaurs } 0)]

/-- After a lock was taken again, its first token is powerless, and the lock is still held. -/
theorem spent_token_powerless_taken_again :
    let ens := (Run.of Scripted.backend {} 1 takenAgain).ensemble
    ens.registries.map Registry.listing =
        [[("herd-dinosaurs", some "second", some { resourceId := "herd", lockClass := .dinosaurs })]] ∧
      step Scripted.backend ens (.unlock "d" "first" 0) =
        (.done, { ens with world := ens.world.tell (Registry.strangerEvent "first") }) := by
  intro ens
  have hlisting : ens.registries.map Registry.listing =
      [[("herd-dinosaurs", some "second", some { resourceId := "herd", lockClass := .dinosaurs })]] := by
    decide +kernel
  have hlength : ens.registries.length = 1 := Run.length_registries Scripted.backend {} 1 takenAgain
  have hreg : ens.registries[0]? = some ens.registries[0] := List.getElem?_eq_getElem _
  obtain ⟨hpowerless, hforever⟩ := spent_token_powerless Scripted.backend {} 1
  have hgone := hforever [takenAgain[0]] [takenAgain[2]] "b"
    { registry := 0, token := "first", key := { resourceId := "herd", lockClass := .dinosaurs } } (by decide)
    (by decide +kernel) 0 ens.registries[0]
  exact ⟨hlisting, hpowerless takenAgain "d" "first" 0 _ hreg fun id h => hgone id h hreg⟩

end NamedLock
