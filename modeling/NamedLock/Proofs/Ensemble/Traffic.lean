import NamedLock.Ensemble

/-!
# Traffic — what sessions are told by each operation

Most operations are quiet: they ask no session to begin or to commit. Those that are not ask for one thing, once and
first, and are quiet from then on. Nothing here depends on how the backend answers.
-/

namespace NamedLock

/-- A message that neither opens a session nor commits one. -/
def Traffic.Quiet : Traffic → Prop
  | .asked _ .begin => False
  | .asked _ .commit => False
  | _ => True

/-- A message that commits no session but one of these. -/
def Traffic.Spares (P : SessionId → Prop) (x : Traffic) : Prop := ∀ s, x = .asked s .commit → P s

theorem Traffic.Quiet.spares {x : Traffic} (h : x.Quiet) (P : SessionId → Prop) : x.Spares P := by
  rintro s rfl
  exact h.elim

namespace World

variable {σ : Type}

/-- One world becomes another one; all messages in between are of a kind. -/
structure Leads (q : Traffic → Prop) (w w' : World σ) : Prop where
  begins : w'.begins = w.begins
  told : ∃ new, w'.traffic = w.traffic ++ new ∧ ∀ x ∈ new, q x

/-- One world becomes another one by a message that comes first, and quiet ones after it. -/
structure Asks (x : Traffic) (w w' : World σ) : Prop where
  begins : w'.begins = w.begins
  told : ∃ rest, w'.traffic = w.traffic ++ x :: rest ∧ ∀ y ∈ rest, y.Quiet

variable {q q' : Traffic → Prop} {x : Traffic} {w w' w'' : World σ}

theorem Leads.refl (q : Traffic → Prop) (w : World σ) : w.Leads q w :=
  ⟨rfl, [], by simp, by simp⟩

theorem Leads.trans (h : w.Leads q w') (h' : w'.Leads q w'') : w.Leads q w'' := by
  obtain ⟨new, hnew, hq⟩ := h.told
  obtain ⟨new', hnew', hq'⟩ := h'.told
  refine ⟨h'.begins.trans h.begins, new ++ new', ?_, ?_⟩
  · rw [hnew', hnew, List.append_assoc]
  · intro y hy
    rcases List.mem_append.1 hy with hy | hy
    · exact hq y hy
    · exact hq' y hy

theorem Leads.mono (h : w.Leads q w') (hqq : ∀ y, q y → q' y) : w.Leads q' w' := by
  obtain ⟨new, hnew, hq⟩ := h.told
  exact ⟨h.begins, new, hnew, fun y hy => hqq y (hq y hy)⟩

theorem Leads.spares (h : w.Leads Traffic.Quiet w') (P : SessionId → Prop) : w.Leads (Traffic.Spares P) w' :=
  h.mono fun _ hy => hy.spares P

theorem Asks.trans (h : w.Asks x w') (h' : w'.Leads Traffic.Quiet w'') : w.Asks x w'' := by
  obtain ⟨rest, hrest, hq⟩ := h.told
  obtain ⟨new, hnew, hq'⟩ := h'.told
  refine ⟨h'.begins.trans h.begins, rest ++ new, ?_, ?_⟩
  · rw [hnew, hrest, List.append_assoc, List.cons_append]
  · intro y hy
    rcases List.mem_append.1 hy with hy | hy
    · exact hq y hy
    · exact hq' y hy

theorem Asks.leads (h : w.Asks x w') (hx : q x) (hq : ∀ y, y.Quiet → q y) : w.Leads q w' := by
  obtain ⟨rest, hrest, hquiet⟩ := h.told
  refine ⟨h.begins, x :: rest, hrest, ?_⟩
  intro y hy
  rcases List.mem_cons.1 hy with rfl | hy
  · exact hx
  · exact hq y (hquiet y hy)

/-! ## Operations of the world -/

section Operations

variable (b : Backend σ) (w : World σ) (s : SessionId) (r : Request)

theorem poll_first_asks : w.Asks (.asked s r) (w.poll b .first s r).2 :=
  ⟨rfl, [], rfl, by simp⟩

theorem poll_later_leads (q : Traffic → Prop) : w.Leads q (w.poll b .later s r).2 :=
  ⟨rfl, [], by simp [poll], by simp⟩

/-- A request that is neither a beginning nor a commit, or is only looked at again, is quiet. -/
theorem poll_leads (turn : Turn) (h : turn = .first → (Traffic.asked s r).Quiet) :
    w.Leads Traffic.Quiet (w.poll b turn s r).2 := by
  cases turn with
  | first => exact (poll_first_asks b w s r).leads (h rfl) fun _ => id
  | later => exact poll_later_leads b w s r _

theorem poll_spares {P : SessionId → Prop} (hs : P s) (turn : Turn) :
    w.Leads (Traffic.Spares P) (w.poll b turn s r).2 := by
  cases turn with
  | first =>
    refine (poll_first_asks b w s r).leads ?_ fun _ hy => hy.spares P
    rintro t ⟨⟩
    exact hs
  | later => exact poll_later_leads b w s r _

theorem abandon_leads : w.Leads Traffic.Quiet (w.abandon b s) :=
  ⟨rfl, [], by simp [abandon], by simp⟩

theorem drop_leads : w.Leads Traffic.Quiet (w.drop b s) :=
  ⟨rfl, [.dropped s], rfl, by simp [Traffic.Quiet]⟩

theorem abandonAndDrop_leads : w.Leads Traffic.Quiet (w.abandonAndDrop b s) :=
  (abandon_leads b w s).trans (drop_leads b _ s)

theorem tell_leads (e : Log.Event) : w.Leads Traffic.Quiet (w.tell e) :=
  ⟨rfl, [], by simp [tell], by simp⟩

theorem record_leads (m : Metrics.Recording) : w.Leads Traffic.Quiet (w.record m) :=
  ⟨rfl, [], by simp [record], by simp⟩

end Operations

end World

/-! ## Handles -/

namespace LockHandle

open World

variable {σ : Type} (b : Backend σ) (turn : Turn) (span : Option Log.Span) (key : LockKey) (s : SessionId)
  (w : World σ)

/-- What the opening of a handle on a session comes to. -/
inductive Opens (key : LockKey) (s : SessionId) :
    Progress Opening (Except LockError LockHandle) × World σ → Prop
  | waits {o w'} (hs : o.session = s) : Opens key s (.suspended o, w')
  | fails {e w'} : Opens key s (.finished (.error e), w')
  | opens {h w'} (hs : h.session = some s) (hk : h.key = some key) : Opens key s (.finished (.ok h), w')

theorem identify_opens : Opens key s (identify b turn span key s w) := by
  unfold identify
  cases w.poll b turn s .transactionId with
  | mk p w' =>
    cases p with
    | pending => exact .waits rfl
    | ready answer => cases answer <;> exact .opens rfl rfl

theorem identify_leads : w.Leads Traffic.Quiet (identify b turn span key s w).2 := by
  have hpoll := poll_leads b w s .transactionId turn fun _ => trivial
  unfold identify
  cases hp : w.poll b turn s .transactionId with
  | mk p w' =>
    rw [hp] at hpoll
    cases p with
    | pending => exact hpoll
    | ready answer =>
      cases answer with
      | ok id => exact hpoll
      | error e => exact hpoll.trans (tell_leads _ _)

theorem begin_opens : Opens key s (begin b turn span key s w) := by
  unfold begin
  cases w.poll b turn s .begin with
  | mk p w' =>
    cases p with
    | pending => exact .waits rfl
    | ready answer =>
      cases answer with
      | error e => exact .fails
      | ok u => exact identify_opens b .first span key s w'

/-- The opening of a handle goes on quietly from where the session was asked to begin. -/
theorem begin_leads : (w.poll b turn s .begin).2.Leads Traffic.Quiet (begin b turn span key s w).2 := by
  unfold begin
  cases w.poll b turn s .begin with
  | mk p w' =>
    cases p with
    | pending => exact .refl _ _
    | ready answer =>
      cases answer with
      | error e => exact .refl _ _
      | ok u => exact identify_leads b .first span key s w'

theorem create_opens : Opens key (w.begins + 1) (create b span key w) :=
  begin_opens b .first span key _ _

theorem create_asks :
    w.number.2.Asks (.asked (w.begins + 1) .begin) (create b span key w).2 :=
  (poll_first_asks b _ _ _).trans (begin_leads b .first span key _ _)

theorem resume_opens (o : Opening) : Opens key o.session (o.resume b span key w) := by
  cases o with
  | beginning s => exact begin_opens b .later span key s w
  | identifying s => exact identify_opens b .later span key s w

theorem resume_leads (o : Opening) : w.Leads Traffic.Quiet (o.resume b span key w).2 := by
  cases o with
  | beginning s => exact (poll_later_leads b w s .begin _).trans (begin_leads b .later span key s w)
  | identifying s => exact identify_leads b .later span key s w

theorem cancel_leads (o : Opening) : w.Leads Traffic.Quiet (o.cancel b w) := by
  cases o with
  | beginning s => exact abandon_leads b w s
  | identifying s => exact abandonAndDrop_leads b w s

theorem announce_leads (id : Int) : w.Leads Traffic.Quiet (announce turn span key id w) := by
  cases turn with
  | first => exact tell_leads _ _
  | later => exact .refl _ _

theorem acquire_leads (h : LockHandle) : w.Leads Traffic.Quiet (h.acquire b turn span w).2 := by
  unfold acquire
  cases h.key with
  | none => exact .refl _ _
  | some key =>
    cases h.session with
    | none => exact .refl _ _
    | some s =>
      have hasked := announce_leads turn span key w h.transactionId
      have hpoll := poll_leads b (announce turn span key h.transactionId w) s (.lock key.hashes) turn fun _ => trivial
      have hdone := hasked.trans hpoll
      dsimp only
      cases hp : (announce turn span key h.transactionId w).poll b turn s (.lock key.hashes) with
      | mk p w' =>
        rw [hp] at hdone
        cases p with
        | pending => exact hdone
        | ready answer => cases answer <;> exact hdone

/-- A handle that owns a session asks it for the pair of its key. -/
theorem acquire_asks {h : LockHandle} {key : LockKey} {s : SessionId} (hs : h.session = some s) (hk : h.key = some key)
    (w : World σ) : w.Asks (.asked s (.lock key.hashes)) (h.acquire b .first span w).2 := by
  have hasked : w.Asks (.asked s (.lock key.hashes))
      ((announce .first span key h.transactionId w).poll b .first s (.lock key.hashes)).2 :=
    ⟨rfl, [], rfl, by simp⟩
  unfold acquire
  rw [hs, hk]
  dsimp only
  cases hp : (announce .first span key h.transactionId w).poll b .first s (.lock key.hashes) with
  | mk p w' =>
    rw [hp] at hasked
    cases p with
    | pending => exact hasked
    | ready answer => cases answer <;> exact hasked

/-- What asking for the lock of a handle comes to. -/
inductive Locks (key : LockKey) (s : SessionId) : Poll (Except LockError LockHandle) × World σ → Prop
  | waits {w'} : Locks key s (.pending, w')
  | fails {e w'} : Locks key s (.ready (.error e), w')
  | locks {h w'} (hs : h.session = some s) (hk : h.key = some key) : Locks key s (.ready (.ok h), w')

theorem acquire_locks {h : LockHandle} {key : LockKey} {s : SessionId} (hs : h.session = some s)
    (hk : h.key = some key) : Locks key s (h.acquire b turn span w) := by
  unfold acquire
  rw [hs, hk]
  dsimp only
  cases (announce turn span key h.transactionId w).poll b turn s (.lock key.hashes) with
  | mk p w' =>
    cases p with
    | pending => exact .waits
    | ready answer =>
      cases answer with
      | ok u => exact .locks rfl rfl
      | error e => exact .fails

theorem commit_leads : (w.poll b turn s .commit).2.Leads Traffic.Quiet (commit b turn s w).2 := by
  unfold commit
  cases w.poll b turn s .commit with
  | mk p w' =>
    cases p with
    | pending => exact .refl _ _
    | ready answer => exact drop_leads b w' s

theorem discard_leads (h : LockHandle) : w.Leads Traffic.Quiet (h.discard b w) := by
  unfold discard
  cases h.session with
  | none => exact .refl _ _
  | some s => exact drop_leads b w s

end LockHandle

end NamedLock
