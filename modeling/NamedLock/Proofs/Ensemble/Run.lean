import Mathlib.Data.List.Induction
import NamedLock.Ensemble

/-!
# Run — what happened to an ensemble

A run starts with empty registries on a backend and goes on by events; in between the sessions may be changed from
outside, as a switch does. The history of a run keeps a moment for every event, oldest first.

A grant is a token that an acquisition yielded, with its key and its registry. It is outstanding until its registry
is asked to unlock with its token.
-/

namespace NamedLock

/-- Something that happens around an ensemble: an event, or a change of the sessions from outside. -/
inductive Happening (σ : Type)
  | event (e : Event)
  | outside (f : σ → σ)

/-- A lock that an acquisition yields: its token, in which registry and for which key. -/
structure Grant where
  registry : Nat
  token : String
  key : LockKey
  deriving DecidableEq, Repr

/-- An event that was carried out. -/
structure Moment where
  event : Event
  /-- The call that the event looked at again or gave up. -/
  call : Option Call
  reply : Reply
  /-- What sessions were told meanwhile. -/
  traffic : List Traffic
  deriving Repr

/-- An ensemble and what happened to it so far. -/
structure Run (σ : Type) where
  ensemble : Ensemble σ
  history : List Moment := []

/-- The name of the call that an event looks at again or gives up. -/
def Event.called? : Event → Option String
  | .poll name => some name
  | .cancel name => some name
  | _ => none

/-- The token of a new acquisition. -/
def Event.asked? : Event → Option String
  | .acquire _ token _ _ => some token
  | _ => none

/-- The token of a new acquisition. -/
def Happening.asked? {σ : Type} : Happening σ → Option String
  | event e => e.asked?
  | outside _ => none

/-- The grant of a reply to an acquisition. -/
def Reply.grant? (registry : Nat) (key : LockKey) : Reply → Option Grant
  | .token _ t => some { registry, token := t, key }
  | _ => none

namespace Moment

/-- The lock that a moment yields. -/
def grant? (m : Moment) : Option Grant :=
  match m.event, m.call with
  | .acquire _ _ key registry, _ => m.reply.grant? registry key
  | .poll _, some (.acquire registry a) => m.reply.grant? registry a.key
  | _, _ => none

/-- What a moment makes of the grants that were outstanding. -/
def settle (m : Moment) (owing : List Grant) : List Grant :=
  match m.event with
  | .unlock _ token registry => owing.filter fun g => ¬(g.registry = registry ∧ g.token = token)
  | _ => owing ++ m.grant?.toList

/-- Whether an acquisition of this grant opened the session. -/
def Opens (m : Moment) (s : SessionId) (g : Grant) : Prop :=
  (∃ name, m.event = .acquire name g.token g.key g.registry) ∧ .asked s .begin ∈ m.traffic

end Moment

/-- The grants of a history. -/
def granted (history : List Moment) : List Grant := history.filterMap Moment.grant?

/-- The grants whose token was not passed to their registry since, oldest first. -/
def outstanding (history : List Moment) : List Grant :=
  history.foldl (fun owing m => m.settle owing) []

/-- Whether an acquisition of this grant opened the session at some moment. -/
def Opened (history : List Moment) (s : SessionId) (g : Grant) : Prop := ∃ m ∈ history, m.Opens s g

variable {σ : Type}

/-- The moment of an event. -/
def Ensemble.moment (b : Backend σ) (ens : Ensemble σ) (e : Event) : Moment where
  event := e
  call := e.called?.bind ens.calls.get?
  reply := (step b ens e).1
  traffic := (step b ens e).2.world.traffic.drop ens.world.traffic.length

namespace Run

/-- Goes on by one happening. -/
def advance (b : Backend σ) (r : Run σ) : Happening σ → Run σ
  | .event e =>
    { ensemble := (r.ensemble.step b e).2, history := r.history ++ [r.ensemble.moment b e] }
  | .outside f => { r with ensemble := r.ensemble.adjustSessions f }

/-- The run of `n` registries on a backend. -/
def of (b : Backend σ) (st : σ) (n : Nat) (hs : List (Happening σ)) : Run σ :=
  hs.foldl (advance b) { ensemble := .ofBackend st n }

theorem of_concat (b : Backend σ) (st : σ) (n : Nat) (hs : List (Happening σ)) (h : Happening σ) :
    of b st n (hs ++ [h]) = (of b st n hs).advance b h := by
  simp [of]

/-- What holds of a run at its start, and after each happening when it held before, holds of every run. -/
theorem of_induction {b : Backend σ} {st : σ} {n : Nat} {P : Run σ → Prop}
    (start : P { ensemble := .ofBackend st n }) (next : ∀ r h, P r → P (advance b r h))
    (hs : List (Happening σ)) : P (of b st n hs) := by
  induction hs using List.reverseRecOn with
  | nil => exact start
  | append_singleton hs h ih =>
    rw [of_concat]
    exact next _ h ih

/-- The events of a run ask for the tokens that its happenings ask for. -/
theorem asked_of (b : Backend σ) (st : σ) (n : Nat) (hs : List (Happening σ)) :
    (of b st n hs).history.filterMap (·.event.asked?) = hs.filterMap Happening.asked? := by
  induction hs using List.reverseRecOn with
  | nil => rfl
  | append_singleton hs h ih =>
    rw [of_concat, List.filterMap_append, ← ih]
    cases h with
    | event e =>
      have hone : [(of b st n hs).ensemble.moment b e].filterMap (·.event.asked?) =
          [(Happening.event e : Happening σ)].filterMap Happening.asked? := rfl
      rw [← hone, ← List.filterMap_append]
      rfl
    | outside f => exact (List.append_nil _).symm

/-- What holds at some moment of a run that asks for no token twice, and after each happening when it held before,
holds from then on. -/
theorem fresh_induction {b : Backend σ} {st : σ} {n : Nat} {P : Run σ → Prop} (before : List (Happening σ))
    {later : List (Happening σ)} (start : P (of b st n before)) (outside : ∀ r f, P r → P (r.advance b (.outside f)))
    (event : ∀ r e, P r → (∀ token, e.asked? = some token → token ∉ r.history.filterMap (·.event.asked?)) →
      P (r.advance b (.event e)))
    (fresh : ((before ++ later).filterMap Happening.asked?).Nodup) : P (of b st n (before ++ later)) := by
  induction later using List.reverseRecOn with
  | nil => rwa [List.append_nil]
  | append_singleton later h ih =>
    rw [← List.append_assoc, List.filterMap_append, List.nodup_append] at fresh
    obtain ⟨hold, -, hnew⟩ := fresh
    rw [← List.append_assoc, of_concat]
    cases h with
    | event e =>
      refine event _ e (ih hold) ?_
      intro token hask hseen
      rw [asked_of] at hseen
      exact hnew token hseen token (by simp [Happening.asked?, hask]) rfl
    | outside f => exact outside _ f (ih hold)

end Run

section History

variable (history : List Moment) (m : Moment)

@[simp] theorem granted_concat : granted (history ++ [m]) = granted history ++ m.grant?.toList := by
  cases h : m.grant? <;> simp [granted, h]

@[simp] theorem outstanding_concat : outstanding (history ++ [m]) = m.settle (outstanding history) := by
  simp [outstanding]

theorem opened_concat (s : SessionId) (g : Grant) :
    Opened (history ++ [m]) s g ↔ Opened history s g ∨ m.Opens s g := by
  simp only [Opened, List.mem_append, List.mem_singleton, or_and_right, exists_or, exists_eq_left]

end History

end NamedLock
