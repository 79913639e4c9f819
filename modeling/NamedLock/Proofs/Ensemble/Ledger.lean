import Mathlib.Data.List.Nodup
import NamedLock.Proofs.Ensemble.Turnover

/-!
# Ledger — tables and outstanding grants

What the tables hold is compared with what the history owes. Two halves are kept apart, since they rest on different
assumptions: no outstanding grant is missing as long as no entry was pushed out of a table, and nothing else is there
as long as no token is asked for twice. Both hold for every backend.
-/

namespace NamedLock

open Ensemble

variable {σ : Type}

/-! ## What is outstanding -/

section Settle

variable {m : Moment} {owing : List Grant} {g : Grant}

/-- What an unlock settles, a grant does not add to. -/
theorem Moment.grant?_of_unlock {name token : String} {i : Nat} (h : m.event = .unlock name token i) :
    m.grant? = none := by
  simp [grant?, h]

theorem Moment.settle_of_grant? (h : m.grant? = some g) : m.settle owing = owing ++ [g] := by
  unfold settle
  split
  next name token i he =>
    rw [grant?_of_unlock he] at h
    cases h
  next => rw [h, Option.toList_some]

theorem Moment.settle_sublist (h : m.grant? = none) : (m.settle owing).Sublist owing := by
  unfold settle
  split
  next => exact List.filter_sublist
  next => rw [h, Option.toList_none, List.append_nil]

/-- A grant is owed after a moment when it was before and its token is not passed to its registry, or when the moment
yields it. -/
theorem Moment.mem_settle :
    g ∈ m.settle owing ↔ (g ∈ owing ∧ ∀ name, m.event ≠ .unlock name g.token g.registry) ∨ m.grant? = some g := by
  unfold settle
  split
  next name token i he =>
    have hother : (∀ name, m.event ≠ .unlock name g.token g.registry) ↔ ¬(g.registry = i ∧ g.token = token) := by
      rw [he]
      constructor
      · rintro h ⟨rfl, rfl⟩
        exact h name rfl
      · rintro h name' ⟨⟩
        exact h ⟨rfl, rfl⟩
    rw [grant?_of_unlock he, hother, List.mem_filter, decide_eq_true_iff]
    simp
  next hno =>
    rw [List.mem_append, Option.mem_toList]
    constructor
    · rintro (hg | hg)
      · exact .inl ⟨hg, fun name => hno name _ _⟩
      · exact .inr hg
    · rintro (⟨hg, -⟩ | hg)
      · exact .inl hg
      · exact .inr hg

/-- A grant is outstanding when some moment yielded it, and its token was not passed to its registry later. -/
theorem mem_outstanding_iff {history : List Moment} :
    g ∈ outstanding history ↔ ∃ before m after, history = before ++ m :: after ∧ m.grant? = some g ∧
      ∀ m' ∈ after, ∀ name, m'.event ≠ .unlock name g.token g.registry := by
  induction history using List.reverseRecOn with
  | nil => simp [outstanding]
  | append_singleton history last ih =>
    rw [outstanding_concat, Moment.mem_settle, ih]
    constructor
    · rintro (⟨⟨before, m, after, rfl, hm, hafter⟩, hlast⟩ | hlast)
      · refine ⟨before, m, after ++ [last], by simp, hm, ?_⟩
        intro m' hm'
        rcases List.mem_append.1 hm' with hm' | hm'
        · exact hafter m' hm'
        · rw [List.mem_singleton.1 hm']
          exact hlast
      · exact ⟨history, last, [], rfl, hlast, by simp⟩
    · rintro ⟨before, m, after, hhistory, hm, hafter⟩
      rcases List.eq_nil_or_concat after with rfl | ⟨after, last', rfl⟩
      · obtain ⟨-, hlast⟩ := List.append_inj' hhistory rfl
        cases hlast
        exact .inr hm
      · have hsplit : history ++ [last] = (before ++ m :: after) ++ [last'] := by simpa using hhistory
        obtain ⟨rfl, hlast⟩ := List.append_inj' hsplit rfl
        cases hlast
        exact .inl ⟨⟨before, m, after, rfl, hm, fun m' hm' => hafter m' (by simp [hm'])⟩, hafter last (by simp)⟩

end Settle

/-! ## Entries after an event -/

/-- The place of a grant in the table of its registry. -/
def Grant.place (g : Grant) : Place := .entry g.registry g.key.encoded

namespace Ensemble

variable {ens ens' : Ensemble σ} {m : Moment} {i : Nat} {id : String} {s : SessionId} {g : Grant}

theorem filed_of_registries (h : ens'.registries = ens.registries) (i : Nat) (id : String) :
    ens'.filed (.entry i id) = ens.filed (.entry i id) := by
  simp only [filed, h]

/-- Entries stand where their grants say. -/
theorem Tidy.place_eq (h : ens.Tidy) (hline : ens.filed (.entry i id) = some (s, g)) : .entry i id = g.place := by
  obtain ⟨reg, e, hreg, he, hf⟩ := filed_entry_eq_some_iff.1 hline
  obtain ⟨s', g', hline', -, -, -, rfl, rfl⟩ := h.filed_entry hreg he
  rw [hline] at hline'
  cases hline'
  rfl


/-- One entry of one table was changed. -/
theorem filed_of_set {reg reg' : Registry} (here : ens.registries[i]? = some reg)
    (h : ens'.registries = ens.registries.set i reg')
    (others : ∀ id', id' ≠ id → reg'.entries.get? id' = reg.entries.get? id') (j : Nat) (id' : String) :
    ens'.filed (.entry j id') =
      Function.update ens.filed (.entry i id) ((reg'.entries.get? id).bind (LockHandle.filed? i)) (.entry j id') := by
  have hset : ens'.registries = (ens.setRegistry i reg').registries := h
  rw [filed_of_registries hset, filed_registry ens here reg' id others]

theorem Turns.length_registries (t : ens.Turns ens' m) : ens'.registries.length = ens.registries.length := by
  cases t with
  | rests registries _ _ _ _ => rw [registries]
  | waits name s g _ _ registries _ _ _ => rw [registries]
  | files name s g reg e _ _ _ _ registries _ _ _ _ => rw [registries, List.length_set]
  | takes name s g reg id _ _ _ registries _ _ => rw [registries, List.length_set]

/-- No entry is pushed out of a table. -/
def Undisturbed (ens : Ensemble σ) : Prop := ∀ e ∈ ens.world.log, e.message ≠ Registry.displacedMessage

theorem Undisturbed.alone {reg : Registry} (h : ens'.Undisturbed) (here : ens.registries[g.registry]? = some reg)
    (alone : reg.entries.get? g.key.encoded = none ∨ ∃ e ∈ ens'.world.log, e.message = Registry.displacedMessage) :
    ens.filed g.place = none := by
  rcases alone with hnone | ⟨e, he, hm⟩
  · simp [filed, Grant.place, here, hnone]
  · exact absurd hm (h e he)

/-- An entry stays where it is until its token is passed to its registry. -/
theorem Turns.stays (t : ens.Turns ens' m) (h : ens'.Undisturbed) (hline : ens.filed (.entry i id) = some (s, g))
    (hm : ∀ name, m.event ≠ .unlock name g.token g.registry) : ens'.filed (.entry i id) = some (s, g) := by
  cases t with
  | rests registries _ _ _ _ => rwa [filed_of_registries registries]
  | waits name s₀ g₀ _ _ registries _ _ _ => rwa [filed_of_registries registries]
  | files name s₀ g₀ reg e _ _ here _ registries alone _ _ _ =>
    -- the place of the new entry was free, so it is another one
    have hfree : ens.filed (.entry g₀.registry g₀.key.encoded) = none := h.alone here alone
    have hne : Place.entry i id ≠ .entry g₀.registry g₀.key.encoded := by
      intro he
      rw [he, hfree] at hline
      cases hline
    rw [filed_of_set here registries (fun _ => Keyed.get?_set_ne _ _), Function.update_of_ne hne]
    exact hline
  | takes name s₀ g₀ reg id₀ event here line registries _ _ =>
    -- what is taken out has the token that is passed
    have hne : Place.entry i id ≠ .entry g₀.registry id₀ := by
      intro he
      rw [he, line] at hline
      cases hline
      exact hm name event
    rw [filed_of_set here registries (fun _ => Keyed.get?_erase_ne _), Function.update_of_ne hne]
    exact hline

/-- A grant is filed when it is yielded, at a place that was free. -/
theorem Turns.comes (t : ens.Turns ens' m) (h : ens'.Undisturbed) (hg : m.grant? = some g) :
    (∃ s, ens'.filed g.place = some (s, g)) ∧ ens.filed g.place = none := by
  cases t with
  | rests _ grant _ _ _ => simp [grant] at hg
  | waits name s₀ g₀ _ _ _ grant _ _ => simp [grant] at hg
  | files name s₀ g₀ reg e _ _ here filed registries alone grant _ _ =>
    rw [grant] at hg
    cases hg
    refine ⟨⟨s₀, ?_⟩, h.alone here alone⟩
    rw [Grant.place, filed_of_set here registries (fun _ => Keyed.get?_set_ne _ _), Function.update_self,
      Keyed.get?_set_self]
    exact filed
  | takes name s₀ g₀ reg id₀ event _ _ _ _ _ =>
    rw [Moment.grant?_of_unlock event] at hg
    cases hg

end Ensemble

/-! ## Nothing is missing -/

/-- Every outstanding grant stands in the table of its registry, at a place of its own. -/
structure Run.Covered (r : Run σ) : Prop where
  filed : ∀ g ∈ outstanding r.history, ∃ s, r.ensemble.filed g.place = some (s, g)
  nodup : ((outstanding r.history).map Grant.place).Nodup

namespace Run.Covered

variable {r : Run σ} {ens' : Ensemble σ} {m : Moment}

theorem start (st : σ) (n : Nat) : Run.Covered { ensemble := .ofBackend st n } where
  filed := by simp [outstanding]
  nodup := List.nodup_nil

theorem outside {b : Backend σ} (h : r.Covered) (f : σ → σ) : (r.advance b (.outside f)).Covered where
  filed g hg := by
    obtain ⟨s, hs⟩ := h.filed g hg
    exact ⟨s, (filed_outside r f g.place).trans hs⟩
  nodup := h.nodup

/-- An event that pushes no entry out of a table. -/
theorem turn (h : r.Covered) (t : r.ensemble.Turns ens' m) (hlog : ens'.Undisturbed) :
    Run.Covered { ensemble := ens', history := r.history ++ [m] } where
  filed g hg := by
    rw [outstanding_concat, Moment.mem_settle] at hg
    rcases hg with ⟨hg, hm⟩ | hg
    · obtain ⟨s, hs⟩ := h.filed g hg
      exact ⟨s, t.stays hlog hs hm⟩
    · exact (t.comes hlog hg).1
  nodup := by
    rw [outstanding_concat]
    cases hg : m.grant? with
    | none => exact h.nodup.sublist ((Moment.settle_sublist hg).map _)
    | some g =>
      rw [Moment.settle_of_grant? hg, List.map_append, List.nodup_append]
      refine ⟨h.nodup, List.pairwise_singleton _ _, ?_⟩
      -- the place of the new grant was free, and those of the others were not
      intro p hp q hq hpq
      obtain ⟨g', hg', rfl⟩ := List.mem_map.1 hp
      have hplace : g'.place = g.place := hpq.trans (List.mem_singleton.1 hq)
      obtain ⟨s, hs⟩ := h.filed g' hg'
      rw [hplace, (t.comes hlog hg).2] at hs
      cases hs

end Run.Covered

/-! ## Nothing else is there -/

/-- Lines are told apart by tokens that were asked for, and every entry is of an outstanding grant. -/
structure Run.Listed (r : Run σ) : Prop where
  tidy : r.ensemble.Tidy
  asked : ∀ p s g, r.ensemble.filed p = some (s, g) → g.token ∈ r.history.filterMap (·.event.asked?)
  apart : r.ensemble.LinesApart (·.2.token)
  entries : ∀ i id s g, r.ensemble.filed (.entry i id) = some (s, g) → g ∈ outstanding r.history

namespace Run.Listed

variable {r : Run σ} {ens' : Ensemble σ} {m : Moment} {i : Nat} {id : String} {s : SessionId} {g : Grant}

theorem start (st : σ) (n : Nat) : Run.Listed { ensemble := .ofBackend st n } where
  tidy := tidy_ofBackend st n
  asked := by simp
  apart := by simp [LinesApart]
  entries := by simp

theorem outside {b : Backend σ} (h : r.Listed) (f : σ → σ) : (r.advance b (.outside f)).Listed where
  tidy := h.tidy.same rfl fun _ _ _ => id
  asked p s g hp := h.asked p s g ((filed_outside r f p).symm.trans hp)
  apart p q x y hp hq := h.apart p q x y ((filed_outside r f p).symm.trans hp) ((filed_outside r f q).symm.trans hq)
  entries i id s g hp := h.entries i id s g ((filed_outside r f _).symm.trans hp)

/-- The token of an acquisition that is carried on was asked for, now or earlier. -/
theorem asked_of_carries (h : r.Listed) {name : String} (hc : r.ensemble.Carries name s g m.event) :
    g.token ∈ (r.history ++ [m]).filterMap (·.event.asked?) := by
  rw [List.filterMap_append, List.mem_append]
  generalize he : m.event = e at hc
  cases hc with
  | starts hs => exact .inr (by simp [he, Event.asked?])
  | goesOn line => exact .inl (h.asked _ s g line)

theorem asked_turn (h : r.Listed) (t : r.ensemble.Turns ens' m) {p : Place} (hp : ens'.filed p = some (s, g)) :
    g.token ∈ (r.history ++ [m]).filterMap (·.event.asked?) := by
  rcases t.line hp with hline | ⟨name, carries⟩
  · rw [List.filterMap_append]
    exact List.mem_append_left _ (h.asked p s g hline)
  · exact h.asked_of_carries carries

/-- Entries after an event are of grants that are owed. -/
theorem entries_turn (h : r.Listed) (t : r.ensemble.Turns ens' m) (hp : ens'.filed (.entry i id) = some (s, g)) :
    g ∈ outstanding (r.history ++ [m]) := by
  have hold : r.ensemble.filed (.entry i id) = some (s, g) → (∀ name, m.event ≠ .unlock name g.token g.registry) →
      g ∈ outstanding (r.history ++ [m]) := by
    intro hline hm
    rw [outstanding_concat, Moment.mem_settle]
    exact .inl ⟨h.entries i id s g hline, hm⟩
  cases t with
  | rests _ _ lines nothing _ =>
    have hline := lines _ _ hp
    refine hold hline fun name he => nothing name _ _ he id s g ?_ rfl
    have hplace := h.tidy.place_eq hline
    cases hplace
    exact hline
  | waits name s₀ g₀ carries _ _ _ lines _ =>
    rcases lines _ _ hp with ⟨he, -⟩ | ⟨hline, -⟩
    · cases he
    · exact hold hline carries.not_unlock
  | files name s₀ g₀ reg e carries _ _ _ _ _ grant lines _ =>
    rcases lines _ _ hp with ⟨-, he⟩ | ⟨hline, -⟩
    · cases he
      rw [outstanding_concat, Moment.mem_settle]
      exact .inr grant
    · exact hold hline carries.not_unlock
  | takes name s₀ g₀ reg id₀ event _ line _ lines _ =>
    obtain ⟨hne, hline⟩ := lines _ _ hp
    -- no second entry has the token of the one that is taken out
    refine hold hline fun name' he => hne (h.apart _ _ _ _ hline line ?_)
    exact (Event.unlock.inj (event.symm.trans he)).2.1.symm

/-- An event that asks for no token a second time. -/
theorem turn (h : r.Listed) (tidy : ens'.Tidy) (t : r.ensemble.Turns ens' m)
    (fresh : ∀ token, m.event.asked? = some token → token ∉ r.history.filterMap (·.event.asked?)) :
    Run.Listed { ensemble := ens', history := r.history ++ [m] } where
  tidy := tidy
  asked p s g hp := h.asked_turn t hp
  apart := by
    refine t.apart h.apart ?_
    -- a token that is asked for now was not asked for before
    rintro g hask q ⟨s, g'⟩ hline hsame
    have hseen := h.asked q s g' hline
    exact fresh g.token hask (hsame ▸ hseen)
  entries i id s g hp := h.entries_turn t hp

/-- In every run that asks for no token twice, nothing else is there. -/
theorem of_run (b : Backend σ) (st : σ) (n : Nat) {hs : List (Happening σ)}
    (fresh : (hs.filterMap Happening.asked?).Nodup) : (Run.of b st n hs).Listed := by
  refine Run.fresh_induction [] (start st n) (fun r f h => h.outside f) ?_ fresh
  intro r e h hfresh
  have t := step_turnover (b := b) h.tidy e
  exact h.turn t.tidy t.turns hfresh

end Run.Listed

/-! ## Tables and grants side by side -/

/-- The entries of a table: what each is filed under, its token and its key. -/
def Registry.listing (reg : Registry) : List (String × Option String × Option LockKey) :=
  reg.entries.map fun e => (e.1, e.2.ownerToken, e.2.key)

/-- The entry that a grant has in a table. -/
def Grant.listing (g : Grant) : String × Option String × Option LockKey := (g.key.encoded, some g.token, some g.key)

section Listing

variable {r : Run σ} {i : Nat} {reg : Registry}

theorem Registry.Tidy.nodup_listing (h : reg.Tidy) : reg.listing.Nodup := by
  have hkeys : reg.listing.map Prod.fst = Keyed.keys reg.entries := by simp [listing, Keyed.keys]
  exact List.Nodup.of_map Prod.fst (hkeys ▸ h.nodup)

theorem Run.Covered.nodup_listing (h : r.Covered) (i : Nat) :
    (((outstanding r.history).filter (·.registry = i)).map Grant.listing).Nodup := by
  -- within one registry, places are told apart by their texts
  have hplaces : (((outstanding r.history).filter (·.registry = i)).map Grant.listing).map (Place.entry i ·.1) =
      ((outstanding r.history).filter (·.registry = i)).map Grant.place := by
    rw [List.map_map]
    apply List.map_congr_left
    intro g hg
    have hi : g.registry = i := by simpa using (List.mem_filter.1 hg).2
    simp [Grant.place, Grant.listing, hi]
  refine List.Nodup.of_map (Place.entry i ·.1) ?_
  rw [hplaces]
  exact h.nodup.sublist (List.filter_sublist.map _)

/-- An entry of a table is of an outstanding grant, and every outstanding grant has one. -/
theorem Run.mem_listing_iff (h : r.Covered) (h' : r.Listed) (hreg : r.ensemble.registries[i]? = some reg)
    (x : String × Option String × Option LockKey) :
    x ∈ reg.listing ↔ ∃ g ∈ outstanding r.history, g.registry = i ∧ g.listing = x := by
  have htidy := h'.tidy.registries i reg hreg
  constructor
  · intro hx
    obtain ⟨⟨id, e⟩, he, rfl⟩ := List.mem_map.1 hx
    have hid : reg.entries.get? id = some e := (Keyed.get?_eq_some_iff htidy.nodup).2 he
    obtain ⟨s, g, hline, -, ht, hk, hi, rfl⟩ := h'.tidy.filed_entry hreg hid
    exact ⟨g, h'.entries i _ s g hline, hi, by simp [Grant.listing, ht, hk]⟩
  · rintro ⟨g, hg, rfl, rfl⟩
    obtain ⟨s, hline⟩ := h.filed g hg
    obtain ⟨reg', e, hreg', he, hf⟩ := filed_entry_eq_some_iff.1 hline
    rw [hreg] at hreg'
    cases hreg'
    obtain ⟨-, ht, hk, -⟩ := LockHandle.filed?_eq_some_iff.1 hf
    exact List.mem_map.2 ⟨_, Keyed.mem_of_get?_eq_some he, by simp [Grant.listing, ht, hk]⟩

/-- A table holds one entry for each outstanding grant of its registry, and nothing else. -/
theorem Run.listing_perm (h : r.Covered) (h' : r.Listed) (hreg : r.ensemble.registries[i]? = some reg) :
    reg.listing.Perm (((outstanding r.history).filter (·.registry = i)).map Grant.listing) := by
  refine (List.perm_ext_iff_of_nodup (h'.tidy.registries i reg hreg).nodup_listing (h.nodup_listing i)).2 ?_
  intro x
  rw [Run.mem_listing_iff h h' hreg x, List.mem_map]
  simp only [List.mem_filter, decide_eq_true_eq, and_assoc]

/-- Registries are neither added nor removed. -/
theorem Run.length_registries (b : Backend σ) (st : σ) (n : Nat) (hs : List (Happening σ)) :
    (Run.of b st n hs).ensemble.registries.length = n := by
  induction hs using List.reverseRecOn with
  | nil => exact List.length_replicate
  | append_singleton hs h ih =>
    rw [Run.of_concat]
    cases h with
    | event e => exact (step_turnover (b := b) (Run.tidy_of b st n hs) e).turns.length_registries.trans ih
    | outside f => exact ih

end Listing

end NamedLock
