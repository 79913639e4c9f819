import Mathlib.Data.List.TakeWhile
import NamedLock.Proofs.Ensemble.Views

/-!
# Encoding — what the text of a key tells

The text under which a lock is filed ends in a dash and the label of its class. A resource may contain dashes itself,
and may even end in a label; but no label contains a dash, so the last dash of the text is always the one that was
written between the two. A text is therefore read back as the key that it was written from, and as no other one.
-/

namespace NamedLock

variable {σ : Type}

/-- No label contains the separator. -/
theorem LockClass.dash_notMem_label (c : LockClass) : '-' ∉ c.label.toList := by
  cases c <;> decide

namespace LockKey

/-! ## The last dash -/

/-- What follows a dash and contains none is cut off there. -/
theorem cutAtLastDash?_append (front : String) {back : String} (hback : '-' ∉ back.toList) :
    cutAtLastDash? (front ++ "-" ++ back) = some (front, back) := by
  have hbackwards : (front ++ "-" ++ back).toList.reverse = back.toList.reverse ++ '-' :: front.toList.reverse := by
    simp
  -- read from its end, the text has no dash before the one that separates
  have hpass : ∀ c ∈ back.toList.reverse, decide (c ≠ '-') = true := by
    intro c hc
    have hne : c ≠ '-' := by
      rintro rfl
      exact hback (List.mem_reverse.1 hc)
    exact decide_eq_true hne
  have htail : (back.toList.reverse ++ '-' :: front.toList.reverse).takeWhile (· ≠ '-') = back.toList.reverse := by
    rw [List.takeWhile_append_of_pos hpass]
    simp
  have hfront : (back.toList.reverse ++ '-' :: front.toList.reverse).dropWhile (· ≠ '-') =
      '-' :: front.toList.reverse := by
    rw [List.dropWhile_append_of_pos hpass]
    simp
  simp only [cutAtLastDash?, hbackwards, htail, hfront, List.reverse_reverse, String.ofList_toList]

/-- A text that is cut is what precedes its last dash, the dash, and what follows it. -/
theorem eq_of_cutAtLastDash? {s front back : String} (h : cutAtLastDash? s = some (front, back)) :
    s = front ++ "-" ++ back ∧ '-' ∉ back.toList := by
  unfold cutAtLastDash? at h
  dsimp only at h
  split at h
  next => cases h
  next d rest hrest =>
    cases h
    have hdash : d = '-' := by
      have hhead := List.head?_dropWhile_not (· ≠ '-') s.toList.reverse
      rw [hrest] at hhead
      simpa using hhead
    subst hdash
    refine ⟨?_, ?_⟩
    · apply String.toList_inj.1
      calc s.toList
          = (s.toList.reverse.takeWhile (· ≠ '-') ++ s.toList.reverse.dropWhile (· ≠ '-')).reverse := by
            rw [List.takeWhile_append_dropWhile, List.reverse_reverse]
        _ = _ := by rw [hrest]; simp
    · intro hmem
      have hpass := List.mem_takeWhile_imp (List.mem_reverse.1 (by simpa using hmem))
      simp at hpass

/-- Where a text is cut: at a dash with no other dash behind it. -/
theorem cutAtLastDash?_eq_some_iff {s front back : String} :
    cutAtLastDash? s = some (front, back) ↔ s = front ++ "-" ++ back ∧ '-' ∉ back.toList := by
  constructor
  · exact eq_of_cutAtLastDash?
  · rintro ⟨rfl, hback⟩
    exact cutAtLastDash?_append front hback

/-! ## Texts of keys -/

theorem cutAtLastDash?_encoded (k : LockKey) : cutAtLastDash? k.encoded = some (k.resourceId, k.lockClass.label) :=
  cutAtLastDash?_append k.resourceId k.lockClass.dash_notMem_label

/-- The parts of a text of a key are those that the text was put together from. -/
theorem encoded_eq_iff {k : LockKey} {s : String} :
    k.encoded = s ↔
      ∃ label, cutAtLastDash? s = some (k.resourceId, label) ∧ LockClass.ofLabel? label = some k.lockClass := by
  constructor
  · rintro rfl
    exact ⟨k.lockClass.label, k.cutAtLastDash?_encoded, LockClass.ofLabel?_label k.lockClass⟩
  · rintro ⟨label, hcut, hlabel⟩
    have hparts := (eq_of_cutAtLastDash? hcut).1
    rw [hparts, encoded, LockClass.label_of_ofLabel? hlabel]

/-- A text is read as the key that it is the text of. -/
theorem decode?_eq_some_iff {s : String} {k : LockKey} : decode? s = some k ↔ k.encoded = s := by
  rw [encoded_eq_iff]
  rcases k with ⟨resourceId, lockClass⟩
  unfold decode?
  cases hcut : cutAtLastDash? s with
  | none => simp
  | some parts =>
    rcases parts with ⟨front, label⟩
    simp only [Option.map_eq_some_iff, mk.injEq, Option.some.injEq, Prod.mk.injEq]
    constructor
    · rintro ⟨c, hlabel, rfl, rfl⟩
      exact ⟨label, ⟨rfl, rfl⟩, hlabel⟩
    · rintro ⟨label', ⟨rfl, rfl⟩, hlabel⟩
      exact ⟨lockClass, hlabel, rfl, rfl⟩

/-- Only a text with a last dash and a label behind it is the text of a key. -/
theorem exists_encoded_iff {s : String} :
    (∃ k : LockKey, k.encoded = s) ↔
      ∃ resourceId label lockClass,
        cutAtLastDash? s = some (resourceId, label) ∧ LockClass.ofLabel? label = some lockClass := by
  constructor
  · rintro ⟨k, hk⟩
    obtain ⟨label, hcut, hlabel⟩ := encoded_eq_iff.1 hk
    exact ⟨k.resourceId, label, k.lockClass, hcut, hlabel⟩
  · rintro ⟨resourceId, label, lockClass, hcut, hlabel⟩
    exact ⟨{ resourceId, lockClass }, encoded_eq_iff.2 ⟨label, hcut, hlabel⟩⟩

theorem existsUnique_encoded_iff {s : String} : (∃! k : LockKey, k.encoded = s) ↔ ∃ k : LockKey, k.encoded = s := by
  constructor
  · exact ExistsUnique.exists
  · rintro ⟨k, hk⟩
    exact ⟨k, hk, fun k' hk' => encoded_injective (hk'.trans hk.symm)⟩

end LockKey

/-! ## Entries of other locks -/

namespace Registry

section Others

variable (b : Backend σ) (token : String) {key other : LockKey} (reg : Registry) (w : World σ)

/-- A request for one lock leaves the entries of all others as they are. -/
theorem get?_lock_of_ne (turn : Turn) (h : LockHandle) (hne : other ≠ key) :
    (lock b turn token key h reg w).2.1.entries.get? other.encoded = reg.entries.get? other.encoded := by
  unfold lock
  rcases h.acquire b turn (some (acquireSpan key)) w with ⟨p, w'⟩
  cases p with
  | pending => rfl
  | ready answer =>
    cases answer with
    | error e => rfl
    | ok h' => exact Keyed.get?_set_ne _ _ fun he => hne (LockKey.encoded_injective he)

theorem get?_opened_of_ne (r : Progress LockHandle.Opening (Except LockError LockHandle) × World σ)
    (hne : other ≠ key) :
    (opened b token key reg r).2.1.entries.get? other.encoded = reg.entries.get? other.encoded := by
  rcases r with ⟨p, w⟩
  cases p with
  | suspended o => rfl
  | finished answer =>
    cases answer with
    | error e => rfl
    | ok h => exact get?_lock_of_ne b token reg w .first h hne

theorem get?_acquire_of_ne (hne : other ≠ key) :
    (acquire b token key reg w).2.1.entries.get? other.encoded = reg.entries.get? other.encoded :=
  get?_opened_of_ne b token reg _ hne

theorem get?_resumeAcquire_of_ne (a : Acquisition) (hne : other ≠ a.key) :
    (resumeAcquire b a reg w).2.1.entries.get? other.encoded = reg.entries.get? other.encoded := by
  unfold resumeAcquire
  cases a.stage with
  | opening o => exact get?_opened_of_ne b a.token reg _ hne
  | locking h => exact get?_lock_of_ne b a.token reg w .later h hne

end Others

/-- An entry stands under a text that is read as the key of its handle. -/
theorem Tidy.decode?_entry {reg : Registry} (hreg : reg.Tidy) {id : String} {h : LockHandle}
    (hid : reg.entries.get? id = some h) : ∃ key, h.key = some key ∧ LockKey.decode? id = some key := by
  obtain ⟨-, -, key, -, -, hkey, rfl⟩ := hreg.entries id h hid
  exact ⟨key, hkey, LockKey.decode?_eq_some_iff.2 rfl⟩

end Registry

open LockKey in
/-- The text of a key, cut at its last dash, gives the resource and a label that is read as the class, whatever the
resource contains; so keys with one text are equal. A text is the text of exactly one key when a label follows its last
dash, and of no key otherwise.

Hence no entry of a registry stands for two locks, in no run of any backend: an entry is read as the key of its handle,
a lock is held when one with its very key is shown, and acquisitions of other locks leave its entry as it is. -/
theorem encoding_names_one_key (b : Backend σ) (st : σ) (n : Nat) (hs : List (Happening σ)) :
    (∀ s front back, cutAtLastDash? s = some (front, back) ↔ s = front ++ "-" ++ back ∧ '-' ∉ back.toList) ∧
      (∀ k : LockKey, cutAtLastDash? k.encoded = some (k.resourceId, k.lockClass.label) ∧
        LockClass.ofLabel? k.lockClass.label = some k.lockClass) ∧
      (∀ k k' : LockKey, k.encoded = k'.encoded ↔ k = k') ∧
      (∀ s, (∃! k : LockKey, k.encoded = s) ↔ ∃ resourceId label lockClass,
        cutAtLastDash? s = some (resourceId, label) ∧ LockClass.ofLabel? label = some lockClass) ∧
      (∀ s, (∃ k : LockKey, k.encoded = s) ↔ ∃ resourceId label lockClass,
        cutAtLastDash? s = some (resourceId, label) ∧ LockClass.ofLabel? label = some lockClass) ∧
      ∀ reg ∈ (Run.of b st n hs).ensemble.registries,
        (∀ id h, reg.entries.get? id = some h → ∃ key, h.key = some key ∧ decode? id = some key) ∧
        (∀ key, reg.isLocked key = true ↔ ∃ x ∈ reg.heldLocks, x.key = key) ∧
        ∀ key other, other ≠ key →
          (∀ token w, (Registry.acquire b token key reg w).2.1.entries.get? other.encoded =
            reg.entries.get? other.encoded) ∧
          ∀ a w, a.key = key → (Registry.resumeAcquire b a reg w).2.1.entries.get? other.encoded =
            reg.entries.get? other.encoded := by
  refine ⟨fun s front back => cutAtLastDash?_eq_some_iff,
    fun k => ⟨k.cutAtLastDash?_encoded, LockClass.ofLabel?_label k.lockClass⟩, ?_, ?_,
    fun s => exists_encoded_iff, ?_⟩
  · intro k k'
    exact ⟨encoded_injective, congrArg encoded⟩
  · intro s
    exact existsUnique_encoded_iff.trans exists_encoded_iff
  · intro reg hmem
    obtain ⟨i, hreg⟩ := List.getElem?_of_mem hmem
    have htidy : reg.Tidy := (Run.tidy_of b st n hs).registries i reg hreg
    refine ⟨fun id h hid => htidy.decode?_entry hid, htidy.isLocked_iff, ?_⟩
    intro key other hne
    refine ⟨fun token w => Registry.get?_acquire_of_ne b token reg w hne, ?_⟩
    rintro a w rfl
    exact Registry.get?_resumeAcquire_of_ne b reg w a hne

/-- A resource that ends in a label of its own keeps it. -/
example : LockKey.decode? "herd-migrations-dinosaurs" =
    some { resourceId := "herd-migrations", lockClass := .dinosaurs } := by decide

end NamedLock
