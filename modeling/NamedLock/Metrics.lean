import NamedLock.Key
import NamedLock.Number.Binary64

/-!
# Metrics — counts and durations of lock operations

Two metrics, each split by the class of the lock and by the outcome: how many operations ended that way,
and how long the locks were held. A recording is a list of samples, oldest first; `count` and `durations` are its
views.
-/

namespace NamedLock

namespace Metrics

/-- How a lock operation ended. -/
inductive Outcome
  | ok
  | lockError
  | unlockError
  deriving DecidableEq, Repr

namespace Outcome

/-- Every outcome. -/
def all : List Outcome := [ok, lockError, unlockError]

/-- The label of an outcome. -/
def label : Outcome → String
  | ok => "OK"
  | lockError => "lock error"
  | unlockError => "unlock error"

/-- The name of an outcome. -/
def name : Outcome → String
  | ok => "Ok"
  | lockError => "LockError"
  | unlockError => "UnlockError"

end Outcome

/-- The name of the metric that counts operations. -/
def countName : String := "advisory_lock_count"

/-- The name of the metric that measures how long locks were held. -/
def durationName : String := "advisory_lock_duration"

/-- How many nanoseconds a second has. -/
def nanosPerSecond : Nat := 1000000000

/-- A length of time in nanoseconds. -/
abbrev Nanos := Nat

/-- A length of time in seconds: whole seconds and the fraction are rounded, and their sum is rounded. -/
def seconds (d : Nanos) : Binary64 :=
  Binary64.addNonneg (Binary64.ofNat (d / nanosPerSecond))
    (Binary64.ofRatio false (d % nanosPerSecond) nanosPerSecond)

/-- What a metric is split by. -/
structure Labels where
  lockType : String
  status : String
  deriving DecidableEq, Repr

/-- One observation. -/
inductive Sample
  | counted (labels : Labels)
  | held (labels : Labels) (duration : Nanos)
  deriving DecidableEq, Repr

/-- Observations, oldest first. -/
abbrev Recording := List Sample

/-- The labels of a class and an outcome. -/
def labelsOf (c : LockClass) (o : Outcome) : Labels := { lockType := c.label, status := o.label }

/-- A lock that could not be taken is counted; it was never held, so there is no duration. -/
def lockFailed (c : LockClass) : Recording := [.counted (labelsOf c .lockError)]

/-- A lock that ends is counted and measured. -/
def lockEnded (c : LockClass) (o : Outcome) (held : Nanos) : Recording :=
  [.counted (labelsOf c o), .held (labelsOf c o) held]

/-- How many operations were counted under these labels. -/
def count (r : Recording) (l : Labels) : Nat :=
  r.countP fun
    | .counted l' => l' = l
    | .held _ _ => false

/-- The durations recorded under these labels, oldest first. -/
def durations (r : Recording) (l : Labels) : List Nanos :=
  r.filterMap fun
    | .counted _ => none
    | .held l' d => if l' = l then some d else none

/-- Texts in the order of their code points, compared pairwise. -/
def Labels.le (a b : Labels) : Bool :=
  a.lockType < b.lockType || (a.lockType == b.lockType && a.status ≤ b.status)

/-- The labels that satisfy `seen`, sorted, each of them once. -/
def labelsWhere (r : Recording) (seen : Sample → Option Labels) : List Labels :=
  (r.filterMap seen).eraseDups.mergeSort Labels.le

/-- The labels under which something was counted. -/
def countedLabels (r : Recording) : List Labels :=
  labelsWhere r fun
    | .counted l => some l
    | .held _ _ => none

/-- The labels under which a duration was recorded. -/
def heldLabels (r : Recording) : List Labels :=
  labelsWhere r fun
    | .counted _ => none
    | .held l _ => some l

end Metrics

end NamedLock
