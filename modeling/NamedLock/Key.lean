import NamedLock.Fnv

/-!
# Key — what a lock is named after

A lock is named by a resource and by the class of work that it protects. A registry files it under its
encoded text; a database knows it by a pair of hashes.
-/

namespace NamedLock

/-- The kinds of work that a lock protects. -/
inductive LockClass
  | migrations
  | dinosaurs
  deriving DecidableEq, Repr

namespace LockClass

/-- Every class. -/
def all : List LockClass := [migrations, dinosaurs]

/-- The label of a class in keys, settings and metrics. -/
def label : LockClass → String
  | migrations => "migrations"
  | dinosaurs => "dinosaurs"

/-- The name of a class in log lines. -/
def name : LockClass → String
  | migrations => "Migrations"
  | dinosaurs => "Dinosaurs"

/-- The class with this label. Labels are read as they are written, blanks and case included. -/
def ofLabel? (s : String) : Option LockClass :=
  if s = "migrations" then some migrations
  else if s = "dinosaurs" then some dinosaurs
  else none

@[simp] theorem ofLabel?_label (c : LockClass) : ofLabel? c.label = some c := by
  cases c <;> decide

theorem label_of_ofLabel? {s : String} {c : LockClass} (h : ofLabel? s = some c) :
    c.label = s := by
  unfold ofLabel? at h
  split at h
  next hs =>
    cases h
    exact hs.symm
  next =>
    split at h
    next hs =>
      cases h
      exact hs.symm
    next => cases h

end LockClass

/-- Two signed 32-bit numbers by which a database knows a lock. -/
abbrev HashPair := Int32 × Int32

/-- What a lock is named after. -/
structure LockKey where
  resourceId : String
  lockClass : LockClass
  deriving DecidableEq, Repr

namespace LockKey

/-- The text under which a registry files a lock: the resource, a dash and the class. -/
def encoded (k : LockKey) : String := k.resourceId ++ "-" ++ k.lockClass.label

theorem toList_encoded (k : LockKey) :
    k.encoded.toList = k.resourceId.toList ++ '-' :: k.lockClass.label.toList := by
  simp [encoded]

/-- Keys with one encoded text are one key. -/
theorem encoded_injective {k k' : LockKey} (h : k.encoded = k'.encoded) : k = k' := by
  rcases k with ⟨r, c⟩
  rcases k' with ⟨r', c'⟩
  have hlist := congrArg String.toList h
  rw [toList_encoded, toList_encoded] at hlist
  -- the labels differ in the letter before the last one, so the texts are compared from their ends
  have hback := congrArg List.reverse hlist
  simp only [List.reverse_append, List.reverse_cons, List.append_assoc] at hback
  cases c with
  | migrations =>
    cases c' with
    | migrations =>
      have hr : r.toList = r'.toList := List.append_cancel_right hlist
      rw [String.toList_inj.1 hr]
    | dinosaurs => simp [LockClass.label] at hback
  | dinosaurs =>
    cases c' with
    | migrations => simp [LockClass.label] at hback
    | dinosaurs =>
      have hr : r.toList = r'.toList := List.append_cancel_right hlist
      rw [String.toList_inj.1 hr]

/-- The hash of the resource and the hash of the class. -/
def hashes (k : LockKey) : HashPair := (Fnv.hash k.resourceId, Fnv.hash k.lockClass.label)

/-- Cuts a text at its last dash: what precedes it and what follows it. -/
def cutAtLastDash? (s : String) : Option (String × String) :=
  let backwards := s.toList.reverse
  let tail := backwards.takeWhile (· ≠ '-')
  match backwards.dropWhile (· ≠ '-') with
  | [] => none
  | _ :: front => some (String.ofList front.reverse, String.ofList tail.reverse)

/-- The key with this encoded text. -/
def decode? (s : String) : Option LockKey :=
  match cutAtLastDash? s with
  | none => none
  | some (resourceId, label) =>
    (LockClass.ofLabel? label).map fun lockClass => { resourceId, lockClass }

end LockKey

end NamedLock
