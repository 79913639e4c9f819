import NamedLock.Proofs.Ensemble.Places
import NamedLock.Proofs.Memory.Custody

/-!
# Posting — the roster of an ensemble

Every session that an ensemble keeps has a place: an acquisition that waits, an entry of a table, a handle or a name.
`posting` is the roster of these places, with what the owner at each of them knows. On this backend only requests for
pairs ever wait; an ensemble that was run on it is `Orderly`.

Each change to an ensemble changes one line of its roster. The equations below say which.
-/

namespace NamedLock

open Function (update)
open Memory (Roster Standing)

/-- The place of what a call is made on. -/
def Target.place : Target → Place
  | .session on => .session on
  | .handle on => .handle on

theorem Target.place_injective : Function.Injective Target.place := by
  intro t t' h
  cases t <;> cases t' <;> cases h <;> rfl

/-- Calls with different names, no two of them on the same session or handle. -/
structure Apart (calls : Keyed String Call) : Prop where
  nodup : (Keyed.keys calls).Nodup
  single : ∀ name name' c c' t, calls.get? name = some c → calls.get? name' = some c' →
    c.target? = some t → c'.target? = some t → name = name'

theorem Apart.erase {calls : Keyed String Call} (h : Apart calls) (name : String) : Apart (calls.erase name) where
  nodup := Keyed.nodup_keys_erase h.nodup _
  single n n' c c' t hn hn' := by
    rw [Keyed.get?_erase] at hn hn'
    split at hn
    next => cases hn
    next =>
      split at hn'
      next => cases hn'
      next => exact h.single n n' c c' t hn hn'

/-- A call is added, or takes the place of another one; nothing else is called on its target. -/
theorem Apart.set {calls : Keyed String Call} (h : Apart calls) {name : String} {c : Call}
    (alone : ∀ name' c' t, name' ≠ name → calls.get? name' = some c' → c.target? = some t → c'.target? ≠ some t) :
    Apart (calls.set name c) where
  nodup := Keyed.nodup_keys_set h.nodup _ _
  single n n' c₁ c₂ t hn hn' ht ht' := by
    rw [Keyed.get?_set] at hn hn'
    split at hn
    next he =>
      cases hn
      split at hn'
      next he' => exact he.trans he'.symm
      next hne' => exact absurd ht' (alone n' c₂ t hne' hn' ht)
    next hne =>
      split at hn'
      next =>
        cases hn'
        exact absurd ht (alone n c₁ t hne hn ht')
      next => exact h.single n n' c₁ c₂ t hn hn' ht ht'

namespace Ensemble

variable {σ : Type}

/-- The session of a target. -/
def sessionOf? (ens : Ensemble σ) : Target → Option SessionId
  | .session on => ens.sessions.get? on
  | .handle on => (ens.handles.get? on).bind (·.session)

/-- The pair that a call on a session or on a handle waits for. -/
def pairOf? (ens : Ensemble σ) : Call → Option HashPair
  | .lock _ _ pair => some pair
  | .handleAcquire on => (ens.handles.get? on).bind fun h => h.key.map LockKey.hashes
  | _ => none

/-- The line of a target on which this call waits, if any. -/
def post (ens : Ensemble σ) (t : Target) (c : Option Call) : Option (SessionId × Standing) :=
  (ens.sessionOf? t).map fun s => (s, { awaits := c.bind ens.pairOf?, unfinished := false })

/-- Who owns which session. -/
def posting (ens : Ensemble σ) : Roster Place
  | .hand => none
  | .call name => (ens.filed (.call name)).map fun x => (x.1, { awaits := some x.2.key.hashes })
  | .entry i id => (ens.filed (.entry i id)).map fun x => (x.1, { holds := some x.2.key.hashes })
  | .handle on => ens.post (.handle on) (ens.callOn? (.handle on))
  | .session on => ens.post (.session on) (ens.callOn? (.session on))

@[simp] theorem posting_hand (ens : Ensemble σ) : ens.posting .hand = none := rfl

theorem posting_place (ens : Ensemble σ) (t : Target) : ens.posting t.place = ens.post t (ens.callOn? t) := by
  cases t <;> rfl

/-- A session that a call waits on for a pair. -/
theorem post_lock {ens : Ensemble σ} {on : String} {s : SessionId} (hon : ens.sessions.get? on = some s)
    (pair : HashPair) :
    ens.post (.session on) (some (.lock on s pair)) = some (s, { awaits := some pair, unfinished := false }) := by
  simp [post, sessionOf?, pairOf?, hon]

/-- A handle that waits for its lock. -/
theorem post_handleAcquire {ens : Ensemble σ} {on : String} {h : LockHandle} {s : SessionId} {key : LockKey}
    (hon : ens.handles.get? on = some h) (hs : h.session = some s) (hk : h.key = some key) :
    ens.post (.handle on) (some (.handleAcquire on)) =
      some (s, { awaits := some key.hashes, unfinished := false }) := by
  simp [post, sessionOf?, pairOf?, hon, hs, hk]

/-- A call that may wait on this backend. -/
def Proper (ens : Ensemble σ) : Call → Prop
  | .acquire i a => i < ens.registries.length ∧ ∃ h, a.stage = .locking h
  | .lock on s _ => ens.sessions.get? on = some s
  | .handleAcquire on => ∃ h s key, ens.handles.get? on = some h ∧ h.session = some s ∧ h.key = some key
  | _ => False

/-- An ensemble as it can be on this backend. -/
structure Orderly (ens : Ensemble σ) : Prop where
  tidy : ens.Tidy
  apart : Apart ens.calls
  proper : ∀ name c, ens.calls.get? name = some c → ens.Proper c

/-- An acquisition that is kept waits for its lock, on its session. -/
theorem Orderly.acquisition {ens : Ensemble σ} (h : ens.Orderly) {name : String} {i : Nat} {a : Registry.Acquisition}
    (hc : ens.calls.get? name = some (.acquire i a)) :
    i < ens.registries.length ∧ ∃ s x, a.On s ∧ a.stage = .locking x ∧ x.session = some s := by
  obtain ⟨hi, x, hstage⟩ := h.proper name _ hc
  obtain ⟨s, ha⟩ := h.tidy.calls name i a hc
  exact ⟨hi, s, x, ha, hstage, by simpa [Registry.Acquisition.session?, hstage] using ha.session⟩

/-- An acquisition that waits for its lock is given up together with its session. -/
theorem giveUp_acquire (b : Backend σ) (ens : Ensemble σ) (i : Nat) {a : Registry.Acquisition} {x : LockHandle}
    {s : SessionId} (hstage : a.stage = .locking x) (hs : x.session = some s) :
    giveUp b ens (.acquire i a) = ens.world.abandonAndDrop b s := by
  simp [giveUp, Registry.cancelAcquire, hstage, hs]

/-! ## The call on a target -/

section CallOn

variable {ens : Ensemble σ}

theorem callOn?_eq_some_iff (h : Apart ens.calls) {t : Target} {c : Call} :
    ens.callOn? t = some c ↔ ∃ name, ens.calls.get? name = some c ∧ c.target? = some t := by
  constructor
  · intro hc
    have hmem := (Keyed.mem_values_iff h.nodup c).1 (List.mem_of_find?_eq_some hc)
    obtain ⟨name, hname⟩ := hmem
    exact ⟨name, hname, by simpa using List.find?_some hc⟩
  · rintro ⟨name, hname, ht⟩
    have hmem : c ∈ ens.calls.values := (Keyed.mem_values_iff h.nodup c).2 ⟨name, hname⟩
    cases hf : ens.callOn? t with
    | none =>
      have hno := List.find?_eq_none.1 hf c hmem
      simp [ht] at hno
    | some c' =>
      have hmem' := (Keyed.mem_values_iff h.nodup c').1 (List.mem_of_find?_eq_some hf)
      obtain ⟨name', hname'⟩ := hmem'
      have ht' : c'.target? = some t := by simpa using List.find?_some hf
      -- the call that was found first is the only one on the target
      have hnn := h.single name name' c c' t hname hname' ht ht'
      subst hnn
      exact hname'.symm.trans hname

theorem callOn?_eq_none_iff (h : Apart ens.calls) {t : Target} :
    ens.callOn? t = none ↔ ∀ name c, ens.calls.get? name = some c → c.target? ≠ some t := by
  rw [Option.eq_none_iff_forall_ne_some]
  constructor
  · intro hno name c hc ht
    exact hno c ((callOn?_eq_some_iff h).2 ⟨name, hc, ht⟩)
  · intro hno c hc
    obtain ⟨name, hname, ht⟩ := (callOn?_eq_some_iff h).1 hc
    exact hno name c hname ht

/-- Without the call under a name, nothing waits on its target. -/
theorem callOn?_eraseCall (h : Apart ens.calls) {name : String} {c : Call} (hc : ens.calls.get? name = some c)
    (t : Target) :
    callOn? { ens with calls := ens.calls.erase name } t = if c.target? = some t then none else ens.callOn? t := by
  have h' : Apart ({ ens with calls := ens.calls.erase name } : Ensemble σ).calls := h.erase name
  split
  next ht =>
    rw [callOn?_eq_none_iff h']
    intro name' c' hc' ht'
    rw [Keyed.get?_erase] at hc'
    split at hc'
    next => cases hc'
    next hne => exact hne (h.single name' name c' c t hc' hc ht' ht)
  next ht =>
    apply Option.ext
    intro c'
    rw [callOn?_eq_some_iff h', callOn?_eq_some_iff h]
    constructor
    · rintro ⟨name', hc', ht'⟩
      rw [Keyed.get?_erase] at hc'
      split at hc'
      next => cases hc'
      next => exact ⟨name', hc', ht'⟩
    · rintro ⟨name', hc', ht'⟩
      have hne : name' ≠ name := by
        rintro rfl
        rw [hc] at hc'
        cases hc'
        exact ht ht'
      exact ⟨name', by rw [Keyed.get?_erase_ne _ hne]; exact hc', ht'⟩

/-- A call that is kept under a name waits on its target. -/
theorem callOn?_setCall {name : String} {c : Call} (h : Apart ens.calls) (h' : Apart (ens.calls.set name c))
    (t : Target) :
    callOn? { ens with calls := ens.calls.set name c } t =
      if c.target? = some t then some c else callOn? { ens with calls := ens.calls.erase name } t := by
  have h₁ : Apart ({ ens with calls := ens.calls.set name c } : Ensemble σ).calls := h'
  have h₂ : Apart ({ ens with calls := ens.calls.erase name } : Ensemble σ).calls := h.erase name
  split
  next ht => exact (callOn?_eq_some_iff h₁).2 ⟨name, Keyed.get?_set_self .., ht⟩
  next ht =>
    apply Option.ext
    intro c'
    rw [callOn?_eq_some_iff h₁, callOn?_eq_some_iff h₂]
    refine exists_congr fun name' => and_congr_left fun ht' => ?_
    rw [Keyed.get?_set, Keyed.get?_erase]
    split
    next =>
      constructor
      · rintro ⟨⟩
        exact absurd ht' ht
      · rintro ⟨⟩
    next => exact Iff.rfl

end CallOn

/-! ## The roster after each change -/

/-- The place that a call has a line at. -/
def placeOf (name : String) (c : Call) : Place :=
  match c.target? with
  | some t => t.place
  | none => .call name

/-- The line of a call that waits. -/
def lineOf (ens : Ensemble σ) (c : Call) : Option (SessionId × Standing) :=
  match c.target? with
  | some t => ens.post t (some c)
  | none => c.acquires?.map fun x => (x.1, { awaits := some x.2.key.hashes })

theorem lineOf_acquire (ens : Ensemble σ) (i : Nat) {a : Registry.Acquisition} {s : SessionId} (ha : a.On s) :
    ens.lineOf (.acquire i a) = some (s, { awaits := some a.key.hashes }) := by
  simp [lineOf, Call.target?, Call.acquires?, ha.session]

/-- The line that is left at the place of a call when it no longer waits. -/
def leftOf (ens : Ensemble σ) (c : Call) : Option (SessionId × Standing) :=
  match c.target? with
  | some t => ens.post t none
  | none => none

theorem acquires?_of_target {c : Call} {t : Target} (h : c.target? = some t) : c.acquires? = none := by
  cases c with
  | acquire i a => cases h
  | _ => rfl

section Equations

variable (ens : Ensemble σ)

@[simp] theorem posting_world (w : World σ) : posting { ens with world := w } = ens.posting := by
  funext p
  cases p <;> rfl

theorem posting_worldCalls (w : World σ) (calls : Keyed String Call) :
    posting { ens with world := w, calls } = posting { ens with calls } :=
  posting_world { ens with calls } w

@[simp] theorem post_world (w : World σ) (t : Target) (c : Option Call) :
    post { ens with world := w } t c = ens.post t c := rfl

/-- A roster whose lines agree with another one but for the line of one call. -/
theorem posting_of_calls {R : Roster Place} {calls : Keyed String Call} {name : String} {c : Call}
    {line : Option (SessionId × Standing)} (hand : R .hand = none)
    (called : ∀ name', posting { ens with calls } (.call name') =
      if c.target? = none ∧ name' = name then line else R (.call name'))
    (entry : ∀ i id, R (.entry i id) = ens.posting (.entry i id))
    (target : ∀ t, posting { ens with calls } t.place = if c.target? = some t then line else R t.place) :
    posting { ens with calls } = update R (placeOf name c) line := by
  funext p
  rw [Function.update_apply, placeOf]
  cases p with
  | hand => cases c.target? with
    | none => exact hand.symm
    | some t => cases t <;> exact hand.symm
  | call name' =>
    rw [called]
    cases c.target? with
    | none => simp
    | some t => cases t <;> simp [Target.place]
  | entry i id =>
    have hsame : posting { ens with calls } (.entry i id) = R (.entry i id) := (entry i id).symm
    rw [hsame]
    cases c.target? with
    | none => simp
    | some t => cases t <;> simp [Target.place]
  | handle on =>
    have hline := target (.handle on)
    cases ht : c.target? with
    | none => simpa [ht, Target.place] using hline
    | some t => cases t <;> simpa [ht, Target.place, eq_comm] using hline
  | session on =>
    have hline := target (.session on)
    cases ht : c.target? with
    | none => simpa [ht, Target.place] using hline
    | some t => cases t <;> simpa [ht, Target.place, eq_comm] using hline

theorem posting_eraseCall (h : Apart ens.calls) {name : String} {c : Call} (hc : ens.calls.get? name = some c) :
    posting { ens with calls := ens.calls.erase name } = update ens.posting (placeOf name c) (ens.leftOf c) := by
  refine posting_of_calls ens rfl ?_ (fun _ _ => rfl) ?_
  · intro name'
    have hfiled := congrFun (filed_eraseCall ens name) (.call name')
    rw [Function.update_apply] at hfiled
    simp only [posting, hfiled]
    cases ht : c.target? with
    | none => by_cases hn : name' = name <;> simp [hn, leftOf, ht]
    | some t =>
      by_cases hn : name' = name
      · simp [hn, filed, hc, acquires?_of_target ht]
      · simp [hn]
  · intro t
    rw [posting_place, posting_place, callOn?_eraseCall h hc]
    split
    next ht => simp [leftOf, ht, post, sessionOf?]
    next => rfl

theorem posting_setCall (h : Apart ens.calls) {name : String} {c : Call} (h' : Apart (ens.calls.set name c)) :
    posting { ens with calls := ens.calls.set name c } =
      update (posting { ens with calls := ens.calls.erase name }) (placeOf name c) (ens.lineOf c) := by
  refine posting_of_calls ens rfl ?_ (fun _ _ => rfl) ?_
  · intro name'
    have hfiled := congrFun (filed_setCall ens name c) (.call name')
    have hfiled' := congrFun (filed_eraseCall ens name) (.call name')
    rw [Function.update_apply] at hfiled hfiled'
    simp only [posting, hfiled, hfiled']
    cases ht : c.target? with
    | none => by_cases hn : name' = name <;> simp [hn, lineOf, ht]
    | some t => by_cases hn : name' = name <;> simp [hn, acquires?_of_target ht]
  · intro t
    rw [posting_place, posting_place, callOn?_setCall h h']
    split
    next ht => simp [lineOf, ht, post, sessionOf?, pairOf?]
    next => rfl

/-- One entry of one table changes. -/
theorem posting_registry {i : Nat} {reg : Registry} (hreg : ens.registries[i]? = some reg) (reg' : Registry)
    (id : String) (others : ∀ id', id' ≠ id → reg'.entries.get? id' = reg.entries.get? id') :
    (ens.setRegistry i reg').posting =
      update ens.posting (.entry i id) (((reg'.entries.get? id).bind (LockHandle.filed? i)).map fun x =>
        (x.1, { holds := some x.2.key.hashes })) := by
  have hfiled := filed_registry ens hreg reg' id others
  funext p
  rw [Function.update_apply]
  cases p with
  | entry j id' =>
    simp only [posting, congrFun hfiled, Function.update_apply]
    split <;> rfl
  | call name => simp [posting, congrFun hfiled]
  | _ => rfl

theorem pairOf?_handles {handles : Keyed String LockHandle} {c : Call} {t : Target} (ht : c.target? = some t)
    {on : String} (hne : t ≠ .handle on) (others : ∀ on', on' ≠ on → handles.get? on' = ens.handles.get? on') :
    pairOf? { ens with handles } c = ens.pairOf? c := by
  cases c with
  | handleAcquire on' =>
    cases ht
    have hon : on' ≠ on := fun he => hne (congrArg Target.handle he)
    simp [pairOf?, others on' hon]
  | _ => rfl

/-- One handle changes. -/
theorem posting_handles (handles : Keyed String LockHandle) (on : String)
    (others : ∀ on', on' ≠ on → handles.get? on' = ens.handles.get? on') :
    posting { ens with handles } =
      update ens.posting (.handle on) (post { ens with handles } (.handle on) (ens.callOn? (.handle on))) := by
  -- a call on another target looks at another handle
  have hother : ∀ t : Target, t ≠ .handle on → posting { ens with handles } t.place = ens.posting t.place := by
    intro t ht
    rw [posting_place, posting_place, post, post]
    have hsession : sessionOf? { ens with handles } t = ens.sessionOf? t := by
      cases t with
      | session on' => rfl
      | handle on' =>
        have hon : on' ≠ on := fun he => ht (congrArg Target.handle he)
        simp [sessionOf?, others on' hon]
    have hcall : callOn? { ens with handles } t = ens.callOn? t := rfl
    have hpair : (ens.callOn? t).bind (pairOf? { ens with handles }) = (ens.callOn? t).bind ens.pairOf? := by
      cases hc : ens.callOn? t with
      | none => rfl
      | some c =>
        have htarget : c.target? = some t := by simpa using List.find?_some hc
        exact pairOf?_handles ens htarget ht others
    rw [hsession, hcall, hpair]
  funext p
  rw [Function.update_apply]
  cases p with
  | handle on' =>
    split
    next he =>
      cases he
      rfl
    next he => exact hother (.handle on') fun e => he (by cases e; rfl)
  | session on' => exact hother (.session on') (by simp)
  | _ => rfl

/-- One name of a session changes. -/
theorem posting_sessions (sessions : Keyed String SessionId) (on : String)
    (others : ∀ on', on' ≠ on → sessions.get? on' = ens.sessions.get? on') :
    posting { ens with sessions } =
      update ens.posting (.session on) (post { ens with sessions } (.session on) (ens.callOn? (.session on))) := by
  funext p
  rw [Function.update_apply]
  cases p with
  | session on' =>
    split
    next he =>
      cases he
      rfl
    next he =>
      have hon : on' ≠ on := fun e => he (congrArg Place.session e)
      simp only [posting, post, sessionOf?, others on' hon]
      rfl
  | _ => rfl

variable (w : World σ) {on : String}

/-- A name gets another session; no call waits on it. -/
theorem posting_setSession (free : ens.callOn? (.session on) = none) (s : SessionId) :
    posting { ens with world := w, sessions := ens.sessions.set on s } =
      update ens.posting (.session on) (some (s, { unfinished := false })) := by
  have hset := posting_sessions ens (ens.sessions.set on s) on fun _ => Keyed.get?_set_ne _ _
  have hline : post { ens with sessions := ens.sessions.set on s } (.session on) none =
      some (s, { unfinished := false }) := by simp [post, sessionOf?]
  rw [free, hline] at hset
  exact (posting_world { ens with sessions := ens.sessions.set on s } w).trans hset

theorem posting_eraseSession :
    posting { ens with world := w, sessions := ens.sessions.erase on } = update ens.posting (.session on) none := by
  have herase := posting_sessions ens (ens.sessions.erase on) on fun _ => Keyed.get?_erase_ne _
  have hline :
      post { ens with sessions := ens.sessions.erase on } (.session on) (ens.callOn? (.session on)) = none := by
    simp [post, sessionOf?]
  rw [hline] at herase
  exact (posting_world { ens with sessions := ens.sessions.erase on } w).trans herase

/-- A name gets another handle; no call waits on it. -/
theorem posting_setHandle (free : ens.callOn? (.handle on) = none) (h : LockHandle) :
    posting { ens with world := w, handles := ens.handles.set on h } =
      update ens.posting (.handle on) (h.session.map fun s => (s, { unfinished := false })) := by
  have hset := posting_handles ens (ens.handles.set on h) on fun _ => Keyed.get?_set_ne _ _
  have hline : post { ens with handles := ens.handles.set on h } (.handle on) none =
      h.session.map fun s => (s, { unfinished := false }) := by simp [post, sessionOf?]
  rw [free, hline] at hset
  exact (posting_world { ens with handles := ens.handles.set on h } w).trans hset

/-- A handle is gone, or owns no session any more. -/
theorem posting_clearHandle {handles : Keyed String LockHandle}
    (others : ∀ on', on' ≠ on → handles.get? on' = ens.handles.get? on')
    (gone : (handles.get? on).bind (·.session) = none) :
    posting { ens with world := w, handles } = update ens.posting (.handle on) none := by
  have hclear := posting_handles ens handles on others
  have hline : post { ens with handles } (.handle on) (ens.callOn? (.handle on)) = none := by
    simp [post, sessionOf?, gone]
  rw [hline] at hclear
  exact (posting_world { ens with handles } w).trans hclear

end Equations

end Ensemble

end NamedLock
