import NamedLock.Proofs.Ensemble.Run
import NamedLock.Proofs.Ensemble.Traffic

/-!
# Filing — what registries do with their entries

Every entry of a tidy registry is filed under its key, has a token and owns a session. An acquisition adds one entry
at most, and only when its lock was granted; a release takes out the entry with its token, and no other one, before
the commit is asked for.
-/

namespace NamedLock

/-- The session and the grant of a handle in the table of a registry. -/
def LockHandle.filed? (registry : Nat) (h : LockHandle) : Option (SessionId × Grant) :=
  match h.session, h.ownerToken, h.key with
  | some s, some token, some key => some (s, { registry, token, key })
  | _, _, _ => none

theorem LockHandle.filed?_eq_some_iff {i : Nat} {h : LockHandle} {s : SessionId} {g : Grant} :
    h.filed? i = some (s, g) ↔
      h.session = some s ∧ h.ownerToken = some g.token ∧ h.key = some g.key ∧ g.registry = i := by
  unfold filed?
  cases hs : h.session with
  | none => simp
  | some s' =>
    cases ht : h.ownerToken with
    | none => simp
    | some token =>
      cases hk : h.key with
      | none => simp
      | some key =>
        rcases g with ⟨i', token', key'⟩
        simp [eq_comm, and_comm, and_left_comm]

namespace Registry

variable {σ : Type}

/-- A registry whose entries are complete and stand where they belong. -/
structure Tidy (reg : Registry) : Prop where
  nodup : (Keyed.keys reg.entries).Nodup
  entries : ∀ id h, reg.entries.get? id = some h →
    ∃ s token key, h.session = some s ∧ h.ownerToken = some token ∧ h.key = some key ∧ id = key.encoded

theorem Tidy.empty : Tidy {} := ⟨List.nodup_nil, by simp⟩

theorem Tidy.set {reg : Registry} (hreg : reg.Tidy) {h : LockHandle} {s : SessionId} {token : String} {key : LockKey}
    (hs : h.session = some s) (ht : h.ownerToken = some token) (hk : h.key = some key) :
    Tidy { entries := reg.entries.set key.encoded h } where
  nodup := Keyed.nodup_keys_set hreg.nodup _ _
  entries id h' hid := by
    rw [Keyed.get?_set] at hid
    split at hid
    next he =>
      cases hid
      exact ⟨s, token, key, hs, ht, hk, he⟩
    next => exact hreg.entries id h' hid

theorem Tidy.erase {reg : Registry} (hreg : reg.Tidy) (lockId : String) :
    Tidy { entries := reg.entries.erase lockId } where
  nodup := Keyed.nodup_keys_erase hreg.nodup _
  entries id h hid := by
    rw [Keyed.get?_erase] at hid
    split at hid
    next => cases hid
    next => exact hreg.entries id h hid

/-! ## The entry of a token -/

/-- Where every entry has a token, none is passed over without one. -/
theorem findOwned_of_tokens (token : String) (es : List (String × LockHandle))
    (hes : ∀ e ∈ es, ∃ t, e.2.ownerToken = some t) :
    (findOwned token es = (none, []) ∧ ∀ e ∈ es, e.2.ownerToken ≠ some token) ∨
      ∃ e ∈ es, findOwned token es = (some e.1, []) ∧ e.2.ownerToken = some token := by
  induction es with
  | nil => exact .inl ⟨rfl, by simp⟩
  | cons e es ih =>
    rcases e with ⟨id, h⟩
    obtain ⟨t, ht⟩ := hes _ List.mem_cons_self
    have ht' : h.ownerToken = some t := ht
    by_cases hto : t = token
    · refine .inr ⟨_, List.mem_cons_self, ?_, ?_⟩
      · simp [findOwned, ht', hto]
      · simpa [hto] using ht
    · have hskip : findOwned token ((id, h) :: es) = findOwned token es := by
        simp [findOwned, ht', hto]
      rw [hskip]
      rcases ih fun e he => hes e (List.mem_cons_of_mem _ he) with ⟨hnone, hother⟩ | ⟨e, he, hsome, heq⟩
      · refine .inl ⟨hnone, ?_⟩
        intro e he
        rcases List.mem_cons.1 he with rfl | he
        · simpa [ht'] using hto
        · exact hother e he
      · exact .inr ⟨e, List.mem_cons_of_mem _ he, hsome, heq⟩

/-- The entry with a token is taken out, when there is one. -/
theorem takeOwned_cases {reg : Registry} (hreg : reg.Tidy) (token : String) (w : World σ) :
    (takeOwned token reg w = (none, reg, w) ∧ ∀ id h, reg.entries.get? id = some h → h.ownerToken ≠ some token) ∨
      ∃ id h, reg.entries.get? id = some h ∧ h.ownerToken = some token ∧
        takeOwned token reg w = (some (id, h), { entries := reg.entries.erase id }, w) := by
  -- every entry has a token, so none is passed over on the way
  have htokens : ∀ e ∈ reg.entries, ∃ t, e.2.ownerToken = some t := by
    rintro ⟨id, h⟩ he
    obtain ⟨-, t, -, -, ht, -⟩ := hreg.entries id h ((Keyed.get?_eq_some_iff hreg.nodup).2 he)
    exact ⟨t, ht⟩
  rcases findOwned_of_tokens token reg.entries htokens with ⟨hnone, hother⟩ | ⟨⟨id, h⟩, he, hsome, ht⟩
  · refine .inl ⟨by simp [takeOwned, hnone], ?_⟩
    intro id h hid
    exact hother _ (Keyed.mem_of_get?_eq_some hid)
  · have hid : reg.entries.get? id = some h := (Keyed.get?_eq_some_iff hreg.nodup).2 he
    exact .inr ⟨id, h, hid, ht, by simp [takeOwned, hsome, hid]⟩

/-! ## Taking a lock -/

/-- An acquisition that waits on a session, and knows what it waits for. -/
structure Acquisition.On (a : Acquisition) (s : SessionId) : Prop where
  session : a.session? = some s
  key : ∀ h, a.stage = .locking h → h.key = some a.key

/-- What an acquisition on a session comes to. A handle under the same key is only pushed out with a message. -/
inductive Came (token : String) (key : LockKey) (reg : Registry) (s : SessionId) :
    Acquired × Registry × World σ → Prop
  | waits {a w} (ht : a.token = token) (hk : a.key = key) (ha : a.On s) : Came token key reg s (.suspended a, reg, w)
  | fails {e w} : Came token key reg s (.finished (.error e), reg, w)
  | files {h w} (hs : h.session = some s) (ht : h.ownerToken = some token) (hk : h.key = some key)
    (alone : reg.entries.get? key.encoded = none ∨ ∃ e ∈ w.log, e.message = displacedMessage) :
    Came token key reg s (.finished (.ok token), { entries := reg.entries.set key.encoded h }, w)

section Taking

variable (b : Backend σ) (turn : Turn) (token : String) (key : LockKey) (reg : Registry) (w : World σ)

theorem fail_leads (message : String) (e : LockError) : w.Leads Traffic.Quiet (fail key message e w) :=
  (World.record_leads _ _).trans (World.tell_leads _ _)

theorem enter_leads (h : LockHandle) : w.Leads Traffic.Quiet (enter b token key h reg w).2 := by
  unfold enter
  dsimp only
  cases reg.entries.get? key.encoded with
  | none => exact World.tell_leads _ _
  | some stale =>
    have htold := World.tell_leads w (displacedEvent key stale)
    exact (htold.trans (LockHandle.discard_leads b _ stale)).trans (World.tell_leads _ _)

theorem log_discard (h : LockHandle) : (h.discard b w).log = w.log := by
  unfold LockHandle.discard
  cases h.session <;> rfl

theorem enter_alone (h : LockHandle) :
    reg.entries.get? key.encoded = none ∨
      ∃ e ∈ (enter b token key h reg w).2.log, e.message = displacedMessage := by
  unfold enter
  dsimp only
  cases reg.entries.get? key.encoded with
  | none => exact .inl rfl
  | some stale =>
    refine .inr ⟨displacedEvent key stale, ?_, rfl⟩
    simp [World.tell, log_discard]

theorem lock_came {h : LockHandle} {s : SessionId} (hs : h.session = some s) (hk : h.key = some key) :
    Came token key reg s (lock b turn token key h reg w) := by
  unfold lock
  have hlocks := LockHandle.acquire_locks b turn (some (acquireSpan key)) w hs hk
  generalize h.acquire b turn (some (acquireSpan key)) w = r at hlocks ⊢
  cases hlocks with
  | waits => exact .waits rfl rfl ⟨hs, fun h' hh => by cases hh; exact hk⟩
  | fails => exact .fails
  | locks hs' hk' => exact .files hs' rfl hk' (enter_alone b token key reg _ _)

theorem lock_leads (h : LockHandle) : w.Leads Traffic.Quiet (lock b turn token key h reg w).2.2 := by
  unfold lock
  have hacquire := LockHandle.acquire_leads b turn (some (acquireSpan key)) w h
  cases hp : h.acquire b turn (some (acquireSpan key)) w with
  | mk p w' =>
    rw [hp] at hacquire
    cases p with
    | pending => exact hacquire
    | ready answer =>
      cases answer with
      | error e => exact (hacquire.trans (fail_leads key w' _ e)).trans (LockHandle.discard_leads b _ h)
      | ok h' => exact hacquire.trans (enter_leads b token key reg w' h')

theorem opened_came {s : SessionId} {r : Progress LockHandle.Opening (Except LockError LockHandle) × World σ}
    (hr : LockHandle.Opens key s r) : Came token key reg s (opened b token key reg r) := by
  cases hr with
  | waits hs => exact .waits rfl rfl ⟨by simp [Acquisition.session?, hs], fun h hh => by cases hh⟩
  | fails => exact .fails
  | opens hs hk => exact lock_came b .first token key reg _ hs hk

theorem opened_leads (r : Progress LockHandle.Opening (Except LockError LockHandle) × World σ) :
    r.2.Leads Traffic.Quiet (opened b token key reg r).2.2 := by
  rcases r with ⟨p, w⟩
  cases p with
  | suspended o => exact .refl _ _
  | finished answer =>
    cases answer with
    | error e => exact fail_leads key w _ e
    | ok h => exact lock_leads b .first token key reg w h

theorem acquire_came : Came token key reg (w.begins + 1) (acquire b token key reg w) :=
  opened_came b token key reg (LockHandle.create_opens b _ key w)

/-- A new acquisition asks its session to begin, first of all. -/
theorem acquire_asks :
    w.number.2.Asks (.asked (w.begins + 1) .begin) (acquire b token key reg w).2.2 :=
  (LockHandle.create_asks b _ key w).trans (opened_leads b token key reg _)

theorem resumeAcquire_came {a : Acquisition} {s : SessionId} (ha : a.On s) :
    Came a.token a.key reg s (resumeAcquire b a reg w) := by
  rcases ha with ⟨hs, hk⟩
  unfold resumeAcquire
  cases hst : a.stage with
  | opening o =>
    have ho : o.session = s := by simpa [Acquisition.session?, hst] using hs
    exact opened_came b a.token a.key reg (ho ▸ LockHandle.resume_opens b _ a.key w o)
  | locking h =>
    have hs' : h.session = some s := by simpa [Acquisition.session?, hst] using hs
    exact lock_came b .later a.token a.key reg w hs' (hk h hst)

theorem resumeAcquire_leads (a : Acquisition) :
    w.Leads Traffic.Quiet (resumeAcquire b a reg w).2.2 := by
  unfold resumeAcquire
  cases a.stage with
  | opening o => exact (LockHandle.resume_leads b _ a.key w o).trans (opened_leads b a.token a.key reg _)
  | locking h => exact lock_leads b .later a.token a.key reg w h

theorem cancelAcquire_leads (a : Acquisition) : w.Leads Traffic.Quiet (cancelAcquire b a w) := by
  unfold cancelAcquire
  cases a.stage with
  | opening o => exact LockHandle.cancel_leads b w o
  | locking h =>
    dsimp only
    cases h.session with
    | none => exact .refl _ _
    | some s => exact World.abandonAndDrop_leads b w s

end Taking

/-! ## Giving a lock up -/

section Giving

variable (b : Backend σ) (turn : Turn) (token : String) (w : World σ)

/-- What asking a registry to give up the lock of a token comes to. -/
inductive Gave (token : String) (reg : Registry) (w : World σ) : Progress Unlocking Unit × Registry × World σ → Prop
  | nothing {w'} (other : ∀ id h, reg.entries.get? id = some h → h.ownerToken ≠ some token)
    (leads : w.Leads Traffic.Quiet w') : Gave token reg w (.finished (), reg, w')
  | one {id h s p w'} (entry : reg.entries.get? id = some h) (hs : h.session = some s)
    (ht : h.ownerToken = some token) (asks : w.Asks (.asked s .commit) w') :
    Gave token reg w (p, { entries := reg.entries.erase id }, w')

theorem conclude_leads (u : Unlocking) (answer : Except LockError Unit) :
    w.Leads Traffic.Quiet (conclude u answer w) := by
  cases answer with
  | ok _ => exact (World.record_leads _ _).trans (World.tell_leads _ _)
  | error e => exact (World.record_leads _ _).trans (World.tell_leads _ _)

theorem finish_leads (u : Unlocking) :
    (w.poll b turn u.session .commit).2.Leads Traffic.Quiet (finish b turn u w).2 := by
  unfold finish
  have hcommit := LockHandle.commit_leads b turn u.session w
  cases hp : LockHandle.commit b turn u.session w with
  | mk p w' =>
    rw [hp] at hcommit
    cases p with
    | pending => exact hcommit
    | ready answer => exact hcommit.trans (conclude_leads w' u answer)

theorem unlock_gave {reg : Registry} (hreg : reg.Tidy) : Gave token reg w (unlock b token reg w) := by
  unfold unlock
  rcases takeOwned_cases hreg token w with ⟨htake, hother⟩ | ⟨id, h, hid, ht, htake⟩
  · rw [htake]
    exact .nothing hother (World.tell_leads _ _)
  · obtain ⟨s, -, key, hs, -, hk, -⟩ := hreg.entries id h hid
    rw [htake]
    dsimp only
    rw [hk, hs]
    have hfinish := finish_leads b .first w
      { token, lockId := id, lockClass := key.lockClass, session := s, acquiredAt := h.acquiredAt }
    exact .one hid hs ht ((World.poll_first_asks b w s .commit).trans hfinish)

theorem resumeUnlock_leads (u : Unlocking) : w.Leads Traffic.Quiet (resumeUnlock b u w).2 :=
  (World.poll_later_leads b w u.session .commit _).trans (finish_leads b .later w u)

end Giving

end Registry

end NamedLock
