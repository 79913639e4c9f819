import NamedLock.Proofs.Ensemble.Likeness
import NamedLock.Proofs.Memory.Contention
import NamedLock.Proofs.Memory.Marks

/-!
# Numbers — handles tell the numbers of their sessions

A handle reads the number of its session when it is opened, and carries it from then on: while it waits for its lock,
and when it is filed. In memory the number is there to be read and never changes. So every handle that a registry owns
tells the number of its session.
-/

namespace NamedLock

open Memory (State backend)

/-! ## Handles that registries own -/

/-- A handle that may have been changed, but for its session and the number of it. -/
structure LockHandle.Copies (h e : LockHandle) : Prop where
  session : h.session = e.session
  transactionId : h.transactionId = e.transactionId

namespace Registry

variable {σ : Type}

/-- An acquisition that brings a handle of this kind at most: it waits with it, or files it. -/
inductive Brings (P : LockHandle → Prop) (reg : Registry) : Acquired × Registry × World σ → Prop
  | waits {a e w} (ha : a.stage = .locking e) (he : P e) : Brings P reg (.suspended a, reg, w)
  | fails {err w} : Brings P reg (.finished (.error err), reg, w)
  | files {id e token w} (he : P e) : Brings P reg (.finished (.ok token), { entries := reg.entries.set id e }, w)

/-- Whoever asks for the lock of a handle waits with this handle, or files what comes of it. -/
theorem lock_brings (b : Backend σ) (turn : Turn) (token : String) (key : LockKey) (reg : Registry) (e : LockHandle)
    (w : World σ) : Brings (·.Copies e) reg (lock b turn token key e reg w) := by
  have hgranted : ∀ e' w', e.acquire b turn (some (acquireSpan key)) w = (.ready (.ok e'), w') → e'.Copies e := by
    intro e' w' hacquire
    unfold LockHandle.acquire at hacquire
    split at hacquire
    next => cases hacquire
    next => cases hacquire
    next key' s _ _ =>
      split at hacquire
      next => cases hacquire
      next =>
        cases hacquire
        exact ⟨rfl, rfl⟩
      next => cases hacquire
  unfold lock
  rcases hacquire : e.acquire b turn (some (acquireSpan key)) w with ⟨p, w'⟩
  cases p with
  | pending => exact .waits rfl ⟨rfl, rfl⟩
  | ready answer =>
    cases answer with
    | error err => exact .fails
    | ok e' =>
      obtain ⟨hsession, hid⟩ := hgranted e' w' hacquire
      exact .files ⟨hsession, hid⟩

end Registry

namespace Ensemble

section Owns

variable {σ : Type} {ens ens' : Ensemble σ} {h : LockHandle}

/-- A handle that a registry owns: it stands in a table, or an acquisition waits with it. -/
inductive Owns (ens : Ensemble σ) (h : LockHandle) : Prop
  | entry (i : Nat) (reg : Registry) (id : String) (hreg : ens.registries[i]? = some reg)
    (he : reg.entries.get? id = some h)
  | call (name : String) (i : Nat) (a : Registry.Acquisition) (hc : ens.calls.get? name = some (.acquire i a))
    (ha : a.stage = .locking h)

/-- Where tables stay, and no acquisition comes to wait, no handle is new. -/
theorem Owns.before (ho : ens'.Owns h) (registries : ens'.registries = ens.registries)
    (calls : ∀ name i a, ens'.calls.get? name = some (.acquire i a) → ens.calls.get? name = some (.acquire i a)) :
    ens.Owns h := by
  cases ho with
  | entry i reg id hreg he => exact .entry i reg id (registries ▸ hreg) he
  | call name i a hc ha => exact .call name i a (calls name i a hc) ha

theorem Aside.owns {P : SessionId → Prop} (haside : Aside P ens ens') (ho : ens'.Owns h) : ens.Owns h :=
  ho.before haside.registries haside.calls

theorem owns_eraseCall {name : String} (ho : Owns { ens with calls := ens.calls.erase name } h) : ens.Owns h :=
  (Aside.eraseCall (P := fun _ => False) name).owns ho

/-- A handle in a changed table was there before, unless it is new in this table. -/
theorem owns_setRegistry {i : Nat} {reg : Registry} (ho : (ens.setRegistry i reg).Owns h) :
    ens.Owns h ∨ ∃ id, reg.entries.get? id = some h := by
  cases ho with
  | call name j a hc ha => exact .inl (.call name j a hc ha)
  | entry j reg' id hreg he =>
    rw [setRegistry, List.getElem?_set] at hreg
    split at hreg
    next =>
      split at hreg
      next =>
        cases hreg
        exact .inr ⟨id, he⟩
      next => cases hreg
    next => exact .inl (.entry j reg' id hreg he)

/-- A handle after an acquisition was there before, or the acquisition brought it. -/
theorem owns_acquired {b : Backend σ} {name : String} {i : Nat} {reg : Registry} {P : LockHandle → Prop}
    {r : Registry.Acquired × Registry × World σ} (hreg : ens.registries[i]? = some reg) (hr : Registry.Brings P reg r)
    (ho : (acquired b ens name i r).2.Owns h) : ens.Owns h ∨ P h := by
  cases hr with
  | @waits a e w ha he =>
    obtain ⟨w', hkeep, -⟩ := keep_eq b { ens.setRegistry i reg with world := w } name (.acquire i a)
    unfold acquired at ho
    dsimp only at ho
    rw [hkeep, setRegistry_self hreg] at ho
    cases ho with
    | entry j reg' id hreg' hid => exact .inl (.entry j reg' id hreg' hid)
    | call name' j a' hc ha' =>
      dsimp only at hc
      rw [Keyed.get?_set] at hc
      split at hc
      next =>
        cases hc
        rw [ha] at ha'
        cases ha'
        exact .inr he
      next => exact .inl (.call name' j a' hc ha')
  | fails =>
    rw [acquired, setRegistry_self hreg] at ho
    exact .inl (ho.before rfl fun _ _ _ => id)
  | @files lockId e token w he =>
    have hset : (ens.setRegistry i { entries := reg.entries.set lockId e }).Owns h := ho.before rfl fun _ _ _ => id
    rcases owns_setRegistry hset with hold | ⟨lockId', hid⟩
    · exact .inl hold
    · rw [Keyed.get?_set] at hid
      split at hid
      next =>
        cases hid
        exact .inr he
      next => exact .inl (.entry i reg lockId' hreg hid)

/-- An unlock brings no handle to a table. -/
theorem owns_unlock {b : Backend σ} (hens : ens.Tidy) {name token : String} {i : Nat}
    (ho : (step b ens (.unlock name token i)).2.Owns h) : ens.Owns h := by
  unfold step at ho
  dsimp only at ho
  cases hreg : ens.registries[i]? with
  | none =>
    rw [hreg] at ho
    exact ho
  | some reg =>
    rw [hreg] at ho
    have hgave := Registry.unlock_gave b token ens.world (hens.registries i reg hreg)
    dsimp only at ho
    generalize Registry.unlock b token reg ens.world = r at hgave ho
    have hset := (Aside.unlocked (P := fun _ => False) b (ens.setRegistry i r.2.1) name i (r.1, r.2.2)).owns ho
    rcases owns_setRegistry (hset.before rfl fun _ _ _ => id) with hold | ⟨lockId, hid⟩
    · exact hold
    · cases hgave with
      | nothing => exact .entry i reg lockId hreg hid
      | one =>
        dsimp only at hid
        rw [Keyed.get?_erase] at hid
        split at hid
        next => cases hid
        next => exact .entry i reg lockId hreg hid

/-- An event that no registry takes part in brings no handle either. -/
theorem owns_step_aside {b : Backend σ} {e : Event} (ho : (step b ens e).2.Owns h) (ask : e.asked? = none)
    (poll : ∀ name, e ≠ .poll name) (unlock : ∀ name token i, e ≠ .unlock name token i) : ens.Owns h := by
  rcases step_aside ask poll unlock with haside | haside
  · exact haside.owns ho
  · exact (haside.owns ho).before rfl fun _ _ _ => id

end Owns

end Ensemble

namespace Memory

/-! ## The number of a session -/

namespace State

variable {st : State} {s t : SessionId}

/-- The number of a session that is there. -/
def number? (s : SessionId) (st : State) : Option Int := (st.card? s).map Prod.fst

theorem number?_of_card? {st' : State} (h : st'.card? s = st.card? s) : st'.number? s = st.number? s :=
  congrArg (Option.map Prod.fst) h

theorem number?_begin_of_ne (hs : s ≠ t) : (st.begin t).2.number? s = st.number? s := by
  refine number?_of_card? ?_
  rw [card?_eq, card?_eq, outline_begin_of_ne (Ne.symm hs)]

theorem number?_commit : (st.commit t).2.number? s = st.number? s := by
  cases hx : st.openSession? t with
  | none => simp only [State.commit, hx]
  | some x =>
    obtain ⟨hget, -⟩ := openSession?_eq_some_iff.1 hx
    rw [number?, number?, card?_commit hx]
    split
    next hs =>
      rw [hs, card?, hget]
      rfl
    next => rfl

theorem number?_drop {id : Int} (h : (st.drop t).number? s = some id) : st.number? s = some id := by
  rw [number?, card?_drop] at h
  split at h
  next => cases h
  next => exact h

end State

/-- A session that was asked for and has this number, unless it is gone. -/
def Labels (s : SessionId) (id : Int) (n : Nat) (st : State) : Prop := s ≤ n ∧ ∀ k, st.number? s = some k → k = id

/-- A session keeps its number. -/
theorem labels_kept (s : SessionId) (id : Int) : backend.Keeps (Labels s id) where
  opens := by
    rintro n st ⟨hle, h⟩
    refine ⟨Nat.le_succ_of_le hle, ?_⟩
    change ∀ k, (st.begin (n + 1)).2.number? s = some k → k = id
    rwa [State.number?_begin_of_ne (Nat.ne_of_lt (Nat.lt_succ_of_le hle))]
  asks := by
    rintro n st ⟨hle, h⟩ t r hr
    refine ⟨hle, ?_⟩
    have hsame : (backend.answer .first t r st).2.number? s = st.number? s := by
      by_cases hc : r = .commit
      · subst hc
        exact State.number?_commit
      · exact State.number?_of_card? (State.card?_answer .first t r st hr hc)
    change ∀ k, (backend.answer .first t r st).2.number? s = some k → k = id
    rwa [hsame]
  looks := by
    rintro n st ⟨hle, h⟩ t r
    refine ⟨hle, ?_⟩
    cases r with
    | lock pair =>
      have hsame := State.number?_of_card? (State.card?_answer (t := s) .later t (.lock pair) st (by simp) (by simp))
      change ∀ k, (backend.answer .later t (.lock pair) st).2.number? s = some k → k = id
      rwa [hsame]
    | _ => exact h
  abandons := by
    rintro n st ⟨hle, h⟩ t
    refine ⟨hle, ?_⟩
    change ∀ k, (st.abandon t).number? s = some k → k = id
    rwa [State.number?_of_card? (State.card?_abandon st t)]
  drops := by
    rintro n st ⟨hle, h⟩ t
    exact ⟨hle, fun k hk => h k (State.number?_drop hk)⟩

end Memory

/-- A handle that tells the number of its session. -/
def World.Labels (w : World State) (h : LockHandle) : Prop :=
  ∀ s, h.session = some s → Memory.Labels s h.transactionId w.begins w.sessions

theorem World.Labels.copy {w : World State} {h e : LockHandle} (hw : w.Labels e) (he : h.Copies e) : w.Labels h := by
  intro s hs
  rw [he.transactionId]
  exact hw s (he.session ▸ hs)

/-- An open session tells its number, and a handle takes it over. -/
theorem Memory.identify_of_open (span : Option Log.Span) (key : LockKey) {w : World State} {s : SessionId} {id : Int}
    (h : w.sessions.transactionId s = .ok id) :
    LockHandle.identify backend .first span key s w =
      (.finished (.ok ⟨some s, id, none, some key, w.now⟩),
        { w with traffic := w.traffic ++ [.asked s .transactionId] }) := by
  have hpoll : w.poll backend .first s .transactionId =
      (.ready (.ok id), { w with traffic := w.traffic ++ [.asked s .transactionId] }) := by
    simp [World.poll, backend, State.start, h]
  unfold LockHandle.identify
  rw [hpoll]
  rfl

/-- A handle that could be opened tells the number of its session. -/
theorem Memory.create_labels (span : Option Log.Span) (key : LockKey) (w : World State) :
    (∃ e w', LockHandle.create backend span key w = (.finished (.error e), w')) ∨
      ∃ h w', LockHandle.create backend span key w = (.finished (.ok h), w') ∧ w'.Labels h := by
  have hcreate : LockHandle.create backend span key w =
      LockHandle.begin backend .first span key (w.begins + 1) w.number.2 := rfl
  have hpoll : w.number.2.poll backend .first (w.begins + 1) .begin = (.ready (w.sessions.begin (w.begins + 1)).1,
      { w.number.2 with
        sessions := (w.sessions.begin (w.begins + 1)).2
        traffic := w.traffic ++ [.asked (w.begins + 1) .begin] }) := rfl
  rw [hcreate, LockHandle.begin, hpoll]
  cases hfail : w.sessions.failNextBegin with
  | true =>
    have hrefused : (w.sessions.begin (w.begins + 1)).1 = .error (.session (State.connectionError "begin refused")) := by
      simp [State.begin, hfail]
    rw [hrefused]
    exact .inl ⟨_, _, rfl⟩
  | false =>
    obtain ⟨hok, hget, -⟩ := State.begin_of_allowed w.sessions (w.begins + 1) hfail
    have hnumber : (w.sessions.begin (w.begins + 1)).2.transactionId (w.begins + 1) =
        .ok (w.sessions.lastTransactionId + 1) := by
      simp [State.transactionId, State.openSession?, hget]
    rw [hok]
    refine .inr ⟨_, _, Memory.identify_of_open span key hnumber, ?_⟩
    rintro s ⟨⟩
    refine ⟨Nat.le_refl _, fun k hk => ?_⟩
    simpa [State.number?, State.card?, hget, Session.card] using hk.symm

namespace Ensemble

variable {ens : Ensemble State}

/-- Every handle that a registry owns tells the number of its session. -/
def Labelled (ens : Ensemble State) : Prop := ∀ h, ens.Owns h → ens.world.Labels h

theorem labels_step {h : LockHandle} (hl : ens.world.Labels h) (e : Event) : (step backend ens e).2.world.Labels h :=
  fun s hs => (Memory.labels_kept s h.transactionId).step (hl s hs) e

/-- A handle that asks for its lock tells the same number from then on. -/
theorem labels_acquired {w : World State} {h : LockHandle} (hw : w.Labels h) (name token : String) (key : LockKey)
    (i : Nat) (reg : Registry) :
    (acquired backend ens name i (Registry.lock backend .first token key h reg w)).2.world.Labels h := by
  intro s hs
  have m := (Memory.labels_kept s h.transactionId).tracks
  have hlock := m.lock ⟨rfl, hw s hs⟩ .first token key reg h
  have hself : ens.Like (fun _ _ => True) ens := .intro trivial _ _ _ _
  obtain ⟨reply, ens', _, hacquired, -, hlike⟩ := m.acquired name hself i hlock
  rw [hacquired]
  exact hlike.world.2

/-- An acquisition that starts brings a handle that tells the number of its session, if any. -/
theorem Labelled.acquire (hl : ens.Labelled) (name token : String) (key : LockKey) (i : Nat) :
    (step backend ens (.acquire name token key i)).2.Labelled := by
  intro h ho
  cases hreg : ens.registries[i]? with
  | none =>
    have hsame : step backend ens (.acquire name token key i) = (.refused .noRegistry, ens) := by simp [step, hreg]
    rw [hsame] at ho ⊢
    exact hl h ho
  | some reg =>
    have hstep : step backend ens (.acquire name token key i) =
        acquired backend ens name i (Registry.acquire backend token key reg ens.world) := by simp [step, hreg]
    rcases Memory.create_labels (some (Registry.acquireSpan key)) key ens.world with
      ⟨err, w, hcreate⟩ | ⟨e, w, hcreate, hw⟩
    · have hbrings : Registry.Brings (fun _ => False) reg (Registry.acquire backend token key reg ens.world) := by
        rw [Registry.acquire, hcreate]
        exact .fails
      rcases owns_acquired hreg hbrings (hstep ▸ ho) with hold | hno
      · exact labels_step (hl h hold) _
      · exact hno.elim
    · have hlock : Registry.acquire backend token key reg ens.world =
          Registry.lock backend .first token key e reg w := by rw [Registry.acquire, hcreate, Registry.opened]
      rw [hlock] at hstep
      rcases owns_acquired hreg (Registry.lock_brings backend .first token key reg e w) (hstep ▸ ho) with hold | hcopy
      · exact labels_step (hl h hold) _
      · rw [hstep]
        exact (labels_acquired hw name token key i reg).copy hcopy

/-- An acquisition that is looked at again waited with its handle, and has no other one. -/
theorem Labelled.poll (hl : ens.Labelled) (hens : ens.Orderly) (name : String) :
    (step backend ens (.poll name)).2.Labelled := by
  intro h ho
  cases hc : ens.calls.get? name with
  | none =>
    have hsame : step backend ens (.poll name) = (.refused .notPending, ens) := by simp [step, hc]
    rw [hsame] at ho ⊢
    exact hl h ho
  | some c =>
    have hstep : step backend ens (.poll name) = resume backend name c { ens with calls := ens.calls.erase name } := by
      simp [step, hc]
    by_cases hacq : ∃ i a, c = .acquire i a
    · obtain ⟨i, a, rfl⟩ := hacq
      -- sessions in memory open at once, so an acquisition that waits does so with its handle
      obtain ⟨hi, e, hstage⟩ := hens.proper name _ hc
      let ens₀ : Ensemble State := { ens with calls := ens.calls.erase name }
      have hreg : ens₀.registries[i]? = some ens.registries[i] := List.getElem?_eq_getElem hi
      have hacquired : step backend ens (.poll name) = acquired backend ens₀ name i
          (Registry.lock backend .later a.token a.key e ens.registries[i] ens.world) := by
        rw [hstep]
        simp only [resume, Registry.resumeAcquire, hstage, show ens.registries[i]? = some _ from hreg]
        rfl
      have hbrings := Registry.lock_brings backend .later a.token a.key ens.registries[i] e ens.world
      rcases owns_acquired hreg hbrings (hacquired ▸ ho) with hold | hcopy
      · exact labels_step (hl h (owns_eraseCall hold)) _
      · exact (labels_step (hl e (.call name i a hc hstage)) _).copy hcopy
    · have hother : ∀ i a, c ≠ .acquire i a := by
        rintro i a rfl
        exact hacq ⟨i, a, rfl⟩
      have haside : Aside (fun _ => True) { ens with calls := ens.calls.erase name } (step backend ens (.poll name)).2 := by
        rw [hstep]
        exact .resume backend _ name hother fun _ _ => trivial
      exact labels_step (hl h (owns_eraseCall (haside.owns ho))) _

/-- Whatever happens, the handles of registries tell the numbers of their sessions. -/
theorem Labelled.step (hl : ens.Labelled) (hens : ens.Orderly) (e : Event) : (step backend ens e).2.Labelled := by
  cases e with
  | acquire name token key i => exact hl.acquire name token key i
  | unlock name token i => exact fun h ho => labels_step (hl h (owns_unlock hens.tidy ho)) _
  | poll name => exact hl.poll hens name
  | _ => exact fun h ho => labels_step (hl h (owns_step_aside ho rfl (by simp) (by simp))) _

/-- What leaves all numbers as they are may happen to the sessions. -/
theorem Labelled.outside (hl : ens.Labelled) {f : State → State}
    (hf : ∀ s, (f ens.world.sessions).number? s = ens.world.sessions.number? s) : (ens.adjustSessions f).Labelled := by
  intro h ho s hs
  obtain ⟨hle, hnumber⟩ := hl h (ho.before rfl fun _ _ _ => id) s hs
  refine ⟨hle, ?_⟩
  change ∀ k, (f ens.world.sessions).number? s = some k → k = h.transactionId
  rwa [hf]

end Ensemble

/-- In every run the handles that registries own tell the numbers of their sessions. -/
theorem Memory.run_labelled (n : Nat) (hs : List Happening) : (run n hs).ensemble.Labelled := by
  induction hs using List.reverseRecOn with
  | nil =>
    intro h ho
    cases ho with
    | entry i reg id hreg he =>
      obtain ⟨-, rfl⟩ : i < n ∧ {} = reg := by
        simpa [run, Run.of, Ensemble.ofBackend, List.getElem?_replicate] using hreg
      cases he
    | call name i a hc => cases hc
  | append_singleton hs x ih =>
    have hlinked := run_linked n hs
    rw [run_concat]
    cases x with
    | event e => exact ih.step hlinked.orderly e
    | switch sw =>
      refine ih.outside (f := fun st => st.switch sw) fun s => ?_
      cases sw <;> rfl
    | probe pair =>
      refine ih.outside (f := fun st => (st.probe pair).2) fun s => State.number?_of_card? ?_
      rw [State.card?_eq, State.card?_eq, State.outline_probe]

end NamedLock
