import NamedLock.Proofs.Ensemble.Authority
import NamedLock.Proofs.Ensemble.Ledger
import NamedLock.Session.Scripted

/-!
# Views — a table and what a registry shows of it

Every entry of a tidy table is shown as a lock that is held, and stands under the key that is shown. So a registry
answers every question about its locks from one table: how many there are, which there are, whether a certain lock is
among them, and which one a token stands for, in whatever order the table is read.
-/

namespace NamedLock

open Ensemble

variable {σ : Type}

namespace Registry

/-- No two entries have one token. -/
def TokensApart (reg : Registry) : Prop :=
  ∀ id id' h h', reg.entries.get? id = some h → reg.entries.get? id' = some h' → h.ownerToken = h'.ownerToken → id = id'

/-! ## Locks that are shown -/

section Held

variable {reg : Registry}

/-- An entry of a tidy table is shown with its key and its token. -/
theorem Tidy.held?_eq (hreg : reg.Tidy) {e : String × LockHandle} (he : e ∈ reg.entries) :
    ∃ x, held? e.2 = some x ∧ x.key.encoded = e.1 ∧ e.2.ownerToken = some x.ownerToken := by
  rcases e with ⟨id, h⟩
  obtain ⟨s, token, key, -, ht, hk, rfl⟩ := hreg.entries id h ((Keyed.get?_eq_some_iff hreg.nodup).2 he)
  exact ⟨{ key, ownerToken := token, transactionId := h.transactionId }, by simp [held?, hk, ht], rfl, ht⟩

/-- Where every entry is shown, the list of what is shown has the keys and the tokens of the entries, in their order. -/
theorem shown_of_entries (es : List (String × LockHandle))
    (hes : ∀ e ∈ es, ∃ x, held? e.2 = some x ∧ x.key.encoded = e.1 ∧ e.2.ownerToken = some x.ownerToken) :
    ((es.map (·.2)).filterMap held?).map (·.key.encoded) = es.map (·.1) ∧
      ((es.map (·.2)).filterMap held?).map (fun x => some x.ownerToken) = es.map (·.2.ownerToken) := by
  induction es with
  | nil => exact ⟨rfl, rfl⟩
  | cons e es ih =>
    obtain ⟨x, hx, hkey, htoken⟩ := hes e List.mem_cons_self
    obtain ⟨hkeys, htokens⟩ := ih fun e' he' => hes e' (List.mem_cons_of_mem _ he')
    simp only [List.map_cons, List.filterMap_cons, hx, hkey, htoken, hkeys, htokens, and_self]

theorem Tidy.keys_heldLocks (hreg : reg.Tidy) : reg.heldLocks.map (·.key.encoded) = Keyed.keys reg.entries :=
  (shown_of_entries reg.entries fun _ he => hreg.held?_eq he).1

theorem Tidy.tokens_heldLocks (hreg : reg.Tidy) :
    reg.heldLocks.map (fun x => some x.ownerToken) = reg.entries.map (·.2.ownerToken) :=
  (shown_of_entries reg.entries fun _ he => hreg.held?_eq he).2

/-- Every entry is shown. -/
theorem Tidy.length_heldLocks (hreg : reg.Tidy) : reg.heldLocks.length = reg.len := by
  have hlength := congrArg List.length hreg.keys_heldLocks
  simpa [Keyed.keys, len] using hlength

/-- No two locks that are shown have one key. -/
theorem Tidy.nodup_keys_heldLocks (hreg : reg.Tidy) : (reg.heldLocks.map HeldLock.key).Nodup := by
  refine List.Nodup.of_map LockKey.encoded ?_
  rw [List.map_map]
  exact hreg.keys_heldLocks ▸ hreg.nodup

/-- No two locks that are shown have one token. -/
theorem Tidy.nodup_tokens_heldLocks (hreg : reg.Tidy) (apart : reg.TokensApart) :
    (reg.heldLocks.map HeldLock.ownerToken).Nodup := by
  refine List.Nodup.of_map some ?_
  have hentries : (reg.entries.map (·.2.ownerToken)).Nodup := by
    refine List.pairwise_map.2 ((List.pairwise_map.1 hreg.nodup).imp_of_mem ?_)
    rintro ⟨id, h⟩ ⟨id', h'⟩ he he' hne hsame
    exact hne (apart id id' h h' ((Keyed.get?_eq_some_iff hreg.nodup).2 he)
      ((Keyed.get?_eq_some_iff hreg.nodup).2 he') hsame)
  rw [List.map_map]
  exact hreg.tokens_heldLocks ▸ hentries

theorem Tidy.isEmpty_iff (hreg : reg.Tidy) : reg.isEmpty = true ↔ reg.heldLocks = [] := by
  rw [isEmpty, List.isEmpty_iff, ← List.length_eq_zero_iff, ← List.length_eq_zero_iff, hreg.length_heldLocks, len]

/-- A lock is held when it is shown. -/
theorem Tidy.isLocked_iff (hreg : reg.Tidy) (key : LockKey) :
    reg.isLocked key = true ↔ ∃ x ∈ reg.heldLocks, x.key = key := by
  rw [isLocked, Keyed.contains_iff, ← hreg.keys_heldLocks, List.mem_map]
  constructor
  · rintro ⟨x, hx, hkey⟩
    exact ⟨x, hx, LockKey.encoded_injective hkey⟩
  · rintro ⟨x, hx, rfl⟩
    exact ⟨x, hx, rfl⟩

end Held

/-! ## The entry of a token -/

section Taking

variable {reg : Registry}

/-- A table that is read in another order is as tidy. -/
theorem Tidy.of_perm (hreg : reg.Tidy) {es : Keyed String LockHandle} (p : es.Perm reg.entries) :
    Tidy { entries := es } where
  nodup := (p.map Prod.fst).nodup_iff.2 hreg.nodup
  entries id h hid := hreg.entries id h (by rw [← Keyed.get?_of_perm hreg.nodup p]; exact hid)

/-- No entry is passed over for want of a token. -/
theorem Tidy.findOwned_tokenless (hreg : reg.Tidy) (token : String) : (findOwned token reg.entries).2 = [] := by
  have htokens : ∀ e ∈ reg.entries, ∃ t, e.2.ownerToken = some t := fun e he => by
    obtain ⟨x, -, -, ht⟩ := hreg.held?_eq he
    exact ⟨x.ownerToken, ht⟩
  rcases findOwned_of_tokens token reg.entries htokens with ⟨hnone, -⟩ | ⟨e, -, hsome, -⟩
  · rw [hnone]
  · rw [hsome]

/-- The entry that is taken out has a key and a session. -/
theorem Tidy.takeOwned_complete (hreg : reg.Tidy) {token : String} {w : World σ} {id : String} {h : LockHandle}
    (htake : (takeOwned token reg w).1 = some (id, h)) : h.key.isSome = true ∧ h.session.isSome = true := by
  rcases takeOwned_cases hreg token w with ⟨hnone, -⟩ | ⟨id', h', hid, -, hsome⟩
  · rw [hnone] at htake
    cases htake
  · rw [hsome] at htake
    cases htake
    obtain ⟨s, -, key, hs, -, hk, -⟩ := hreg.entries id h hid
    simp [hs, hk]

/-- Which entry a token takes out does not depend on the order in which the table is read. -/
theorem Tidy.takeOwned_of_perm (hreg : reg.Tidy) (apart : reg.TokensApart) {es : Keyed String LockHandle}
    (p : es.Perm reg.entries) (token : String) (w : World σ) :
    ∃ es', takeOwned token { entries := es } w = ((takeOwned token reg w).1, { entries := es' }, (takeOwned token reg w).2.2) ∧
      es'.Perm (takeOwned token reg w).2.1.entries := by
  have hsame := Keyed.get?_of_perm hreg.nodup p
  rcases takeOwned_cases (hreg.of_perm p) token w with ⟨htake, hother⟩ | ⟨id, h, hid, ht, htake⟩
  · rcases takeOwned_cases hreg token w with ⟨htake', -⟩ | ⟨id', h', hid', ht', -⟩
    · rw [htake, htake']
      exact ⟨es, rfl, p⟩
    · exact absurd ht' (hother id' h' (by rw [hsame]; exact hid'))
  · rw [hsame] at hid
    rcases takeOwned_cases hreg token w with ⟨-, hother⟩ | ⟨id', h', hid', ht', htake'⟩
    · exact absurd ht (hother id h hid)
    · -- both have the token, so they are one entry
      obtain rfl : id = id' := apart id id' h h' hid hid' (ht.trans ht'.symm)
      rw [hid] at hid'
      cases hid'
      rw [htake, htake']
      refine ⟨_, rfl, ?_⟩
      rw [Keyed.erase_eq_filter, Keyed.erase_eq_filter]
      exact p.filter _

end Taking

end Registry

/-! ## Tables of runs -/

namespace Run

variable {r : Run σ} {i j : Nat} {reg reg' : Registry} {id id' : String} {h h' : LockHandle}

/-- Entries with one token are one entry. -/
theorem Listed.entry_of_token (hr : r.Listed) (hreg : r.ensemble.registries[i]? = some reg)
    (hreg' : r.ensemble.registries[j]? = some reg') (hid : reg.entries.get? id = some h)
    (hid' : reg'.entries.get? id' = some h') (hsame : h.ownerToken = h'.ownerToken) : i = j ∧ id = id' := by
  obtain ⟨s, g, hline, -, ht, -⟩ := hr.tidy.filed_entry hreg hid
  obtain ⟨s', g', hline', -, ht', -⟩ := hr.tidy.filed_entry hreg' hid'
  rw [ht, ht'] at hsame
  have hplace := hr.apart _ _ _ _ hline hline' (Option.some.inj hsame)
  exact Place.entry.inj hplace

theorem Listed.tokensApart (hr : r.Listed) (hreg : r.ensemble.registries[i]? = some reg) : reg.TokensApart :=
  fun _ _ _ _ hid hid' hsame => (hr.entry_of_token hreg hreg hid hid' hsame).2

end Run

open Registry in
/-- In every run that asks for no token twice, every entry of a table has a token and a session that was not committed,
and stands under its key; and no two entries have one token. So no entry is ever passed over for want of a token, and
none that is taken out lacks its key. All views of a registry agree: it shows each of its locks, with keys and tokens
that differ; it is empty when it shows none; a lock is held when it is shown; and a token takes out the same entry in
whatever order the table is read. This holds for every backend. -/
theorem tables_agree_with_views (b : Backend σ) (st : σ) (n : Nat) (hs : List (Happening σ))
    (fresh : (hs.filterMap Happening.asked?).Nodup) :
    let ens := (Run.of b st n hs).ensemble
    (∀ (i : Nat) (reg : Registry) id h, ens.registries[i]? = some reg → reg.entries.get? id = some h →
        ∃ s token key, h.session = some s ∧ .asked s .commit ∉ ens.world.traffic ∧ h.ownerToken = some token ∧
          h.key = some key ∧ id = key.encoded) ∧
      (∀ (i j : Nat) (reg reg' : Registry) id id' h h', ens.registries[i]? = some reg →
        ens.registries[j]? = some reg' → reg.entries.get? id = some h → reg'.entries.get? id' = some h' →
        h.ownerToken = h'.ownerToken → i = j ∧ id = id') ∧
      ∀ (i : Nat) (reg : Registry), ens.registries[i]? = some reg →
        (∀ token, (findOwned token reg.entries).2 = []) ∧
        (∀ token (w : World σ) id h, (takeOwned token reg w).1 = some (id, h) →
          h.key.isSome = true ∧ h.session.isSome = true) ∧
        reg.heldLocks.length = reg.len ∧
        (reg.heldLocks.map HeldLock.key).Nodup ∧ (reg.heldLocks.map HeldLock.ownerToken).Nodup ∧
        (reg.isEmpty = true ↔ reg.heldLocks = []) ∧
        (∀ resourceId lockClass, reg.isLocked { resourceId, lockClass } = true ↔
          ∃ x ∈ reg.heldLocks, x.key.resourceId = resourceId ∧ x.key.lockClass = lockClass) ∧
        ∀ (es : Keyed String LockHandle), es.Perm reg.entries → ∀ token (w : World σ), ∃ es',
          takeOwned token { entries := es } w =
            ((takeOwned token reg w).1, { entries := es' }, (takeOwned token reg w).2.2) ∧
          es'.Perm (takeOwned token reg w).2.1.entries := by
  intro ens
  have hlisted : (Run.of b st n hs).Listed := .of_run b st n fresh
  have hattributed : (Run.of b st n hs).Attributed := .of_run b st n hs
  refine ⟨?_, ?_, ?_⟩
  · intro i reg id h hreg hid
    obtain ⟨s, g, hline, hsession, ht, hk, -, hplace⟩ := hlisted.tidy.filed_entry hreg hid
    exact ⟨s, g.token, g.key, hsession, (hattributed.lines _ s g hline).2, ht, hk, hplace⟩
  · exact fun i j reg reg' id id' h h' hreg hreg' => hlisted.entry_of_token hreg hreg'
  · intro i reg hreg
    have htidy : reg.Tidy := hlisted.tidy.registries i reg hreg
    have hapart : reg.TokensApart := hlisted.tokensApart hreg
    refine ⟨htidy.findOwned_tokenless, fun _ _ _ _ => htidy.takeOwned_complete, htidy.length_heldLocks,
      htidy.nodup_keys_heldLocks, htidy.nodup_tokens_heldLocks hapart, htidy.isEmpty_iff, ?_,
      fun _ => htidy.takeOwned_of_perm hapart⟩
    intro resourceId lockClass
    have hkey : ∀ key : LockKey,
        key = { resourceId, lockClass } ↔ key.resourceId = resourceId ∧ key.lockClass = lockClass := by
      rintro ⟨r, c⟩
      exact LockKey.mk.injEq r c resourceId lockClass ▸ Iff.rfl
    simp only [htidy.isLocked_iff, hkey]

/-- A lock is taken twice, so that the first handle is pushed out, another one with a like name once, and a third one is
taken and given back. -/
def pushedOut : List (Happening Scripted.State) :=
  [.event (.acquire "a" "first" { resourceId := "herd", lockClass := .dinosaurs } 0),
    .event (.acquire "b" "second" { resourceId := "herd", lockClass := .dinosaurs } 0),
    .event (.acquire "c" "third" { resourceId := "herd-dinosaurs", lockClass := .migrations } 0),
    .event (.acquire "d" "fourth" { resourceId := "flock", lockClass := .dinosaurs } 0),
    .event (.unlock "e" "fourth" 0)]

open Registry in
/-- After a handle was pushed out, two locks are held and shown. The token of the one that pushed it out takes this one
out of the table when the table is read from its end, too, with its key and its session, and leaves the other one. -/
theorem tables_agree_with_views_pushed_out :
    (pushedOut.filterMap Happening.asked?).Nodup ∧
      ∃ reg, (Run.of Scripted.backend {} 1 pushedOut).ensemble.registries[0]? = some reg ∧
        reg.heldLocks.length = 2 ∧ (∃ x ∈ reg.heldLocks, x.key.resourceId = "herd" ∧ x.key.lockClass = .dinosaurs) ∧
        (findOwned "second" reg.entries).2 = [] ∧
        ∃ h es w, takeOwned "second" { entries := reg.entries.reverse }
            (Run.of Scripted.backend {} 1 pushedOut).ensemble.world = (some ("herd-dinosaurs", h), { entries := es }, w) ∧
          h.key.isSome = true ∧ h.session.isSome = true ∧ Keyed.keys es = ["herd-dinosaurs-migrations"] := by
  have fresh : (pushedOut.filterMap Happening.asked?).Nodup := by decide
  generalize hens : (Run.of Scripted.backend {} 1 pushedOut).ensemble = ens
  have hfacts : (ens.registries[0]?).map (fun reg =>
      (reg.len, reg.isLocked { resourceId := "herd", lockClass := .dinosaurs },
        (takeOwned "second" reg ens.world).1.map Prod.fst,
        Keyed.keys (takeOwned "second" reg ens.world).2.1.entries)) =
      some (2, true, some "herd-dinosaurs", ["herd-dinosaurs-migrations"]) := by
    rw [← hens]
    decide +kernel
  obtain ⟨reg, hreg, hfacts⟩ := Option.map_eq_some_iff.1 hfacts
  obtain ⟨hlen, hfacts⟩ := Prod.mk.inj hfacts
  obtain ⟨hlocked, hfacts⟩ := Prod.mk.inj hfacts
  obtain ⟨htaken, hleft⟩ := Prod.mk.inj hfacts
  obtain ⟨-, -, hviews⟩ := tables_agree_with_views Scripted.backend {} 1 pushedOut fresh
  obtain ⟨hall, htakes, hlength, -, -, -, hshown, hperm⟩ := hviews 0 reg (hens ▸ hreg)
  obtain ⟨⟨id, h⟩, htake, hid⟩ := Option.map_eq_some_iff.1 htaken
  obtain rfl : id = "herd-dinosaurs" := hid
  obtain ⟨hkey, hsession⟩ := htakes "second" ens.world _ h htake
  obtain ⟨es, hback, hes⟩ := hperm reg.entries.reverse reg.entries.reverse_perm "second" ens.world
  have hkeys : (Keyed.keys es).Perm (Keyed.keys (takeOwned "second" reg ens.world).2.1.entries) := hes.map Prod.fst
  rw [htake] at hback
  rw [hleft, List.perm_singleton] at hkeys
  exact ⟨fresh, reg, hreg, hlength.trans hlen, (hshown "herd" .dinosaurs).1 hlocked, hall "second", h, es, _, hback,
    hkey, hsession, hkeys⟩

end NamedLock
