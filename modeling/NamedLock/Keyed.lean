/-!
# Keyed — small finite maps

An association list that holds at most one entry a key when it is built with `set`. `get?` is the
view: every operation is described by what it does to the look-ups.
-/

namespace NamedLock

/-- Entries in the order in which their keys were first set. -/
abbrev Keyed (κ α : Type) := List (κ × α)

namespace Keyed

variable {κ α : Type} [DecidableEq κ]

/-- The value under `k`. -/
def get? : Keyed κ α → κ → Option α
  | [], _ => none
  | (k', a) :: t, k => if k' = k then some a else get? t k

/-- Puts `a` under `k`: in place when the key is present, at the end otherwise. -/
def set : Keyed κ α → κ → α → Keyed κ α
  | [], k, a => [(k, a)]
  | (k', a') :: t, k, a => if k' = k then (k, a) :: t else (k', a') :: set t k a

/-- Removes every entry under `k`. -/
def erase : Keyed κ α → κ → Keyed κ α
  | [], _ => []
  | (k', a) :: t, k => if k' = k then erase t k else (k', a) :: erase t k

/-- Whether `k` has an entry. -/
def contains (t : Keyed κ α) (k : κ) : Bool := (get? t k).isSome

/-- The keys, in order. -/
def keys (t : Keyed κ α) : List κ := t.map (·.1)

/-- The values, in the order of their keys. -/
def values (t : Keyed κ α) : List α := t.map (·.2)

/-- Changes the value under `k`, when there is one. -/
def adjust : Keyed κ α → κ → (α → α) → Keyed κ α
  | [], _, _ => []
  | (k', a) :: t, k, f => if k' = k then (k', f a) :: t else (k', a) :: adjust t k f

/-! ## Look-ups after each operation -/

@[simp] theorem get?_nil (k : κ) : get? ([] : Keyed κ α) k = none := rfl

@[simp] theorem get?_set_self (t : Keyed κ α) (k : κ) (a : α) : get? (set t k a) k = some a := by
  induction t with
  | nil => simp [set, get?]
  | cons e t ih =>
    rcases e with ⟨k', a'⟩
    by_cases h : k' = k <;> simp [set, get?, h, ih]

theorem get?_set_ne (t : Keyed κ α) {k k₁ : κ} (a : α) (h : k₁ ≠ k) :
    get? (set t k a) k₁ = get? t k₁ := by
  induction t with
  | nil => simp [set, get?, Ne.symm h]
  | cons e t ih =>
    rcases e with ⟨k', a'⟩
    by_cases h' : k' = k
    · subst h'
      simp [set, get?, Ne.symm h]
    · simp [set, get?, h', ih]

@[simp] theorem get?_erase_self (t : Keyed κ α) (k : κ) : get? (erase t k) k = none := by
  induction t with
  | nil => rfl
  | cons e t ih =>
    rcases e with ⟨k', a'⟩
    by_cases h : k' = k <;> simp [erase, get?, h, ih]

theorem get?_erase_ne (t : Keyed κ α) {k k₁ : κ} (h : k₁ ≠ k) :
    get? (erase t k) k₁ = get? t k₁ := by
  induction t with
  | nil => rfl
  | cons e t ih =>
    rcases e with ⟨k', a'⟩
    by_cases h' : k' = k
    · subst h'
      simp [erase, get?, Ne.symm h, ih]
    · simp [erase, get?, h', ih]

@[simp] theorem get?_adjust_self (t : Keyed κ α) (k : κ) (f : α → α) :
    get? (adjust t k f) k = (get? t k).map f := by
  induction t with
  | nil => rfl
  | cons e t ih =>
    rcases e with ⟨k', a'⟩
    by_cases h : k' = k <;> simp [adjust, get?, h, ih]

theorem get?_adjust_ne (t : Keyed κ α) {k k₁ : κ} (f : α → α) (h : k₁ ≠ k) :
    get? (adjust t k f) k₁ = get? t k₁ := by
  induction t with
  | nil => rfl
  | cons e t ih =>
    rcases e with ⟨k', a'⟩
    by_cases h' : k' = k
    · subst h'
      simp [adjust, get?, Ne.symm h]
    · simp [adjust, get?, h', ih]

theorem get?_set (t : Keyed κ α) (k k₁ : κ) (a : α) :
    get? (set t k a) k₁ = if k₁ = k then some a else get? t k₁ := by
  by_cases h : k₁ = k
  · simp [h]
  · simp [h, get?_set_ne]

theorem get?_erase (t : Keyed κ α) (k k₁ : κ) :
    get? (erase t k) k₁ = if k₁ = k then none else get? t k₁ := by
  by_cases h : k₁ = k
  · simp [h]
  · simp [h, get?_erase_ne]

theorem get?_adjust (t : Keyed κ α) (k k₁ : κ) (f : α → α) :
    get? (adjust t k f) k₁ = if k₁ = k then (get? t k₁).map f else get? t k₁ := by
  by_cases h : k₁ = k
  · simp [h]
  · simp [h, get?_adjust_ne]

theorem adjust_adjust (t : Keyed κ α) (k : κ) (f g : α → α) :
    adjust (adjust t k f) k g = adjust t k (g ∘ f) := by
  induction t with
  | nil => rfl
  | cons e t ih =>
    rcases e with ⟨k', a'⟩
    by_cases h : k' = k <;> simp [adjust, h, ih]

/-! ## Keys after each operation -/

theorem keys_erase (t : Keyed κ α) (k : κ) : keys (erase t k) = (keys t).filter (· ≠ k) := by
  induction t with
  | nil => rfl
  | cons e t ih =>
    rcases e with ⟨k', a'⟩
    by_cases h : k' = k
    · simpa [erase, keys, h] using ih
    · simpa [erase, keys, h] using ih

@[simp] theorem keys_adjust (t : Keyed κ α) (k : κ) (f : α → α) : keys (adjust t k f) = keys t := by
  induction t with
  | nil => rfl
  | cons e t ih =>
    rcases e with ⟨k', a'⟩
    by_cases h : k' = k
    · simp [adjust, keys, h]
    · simpa [adjust, keys, h] using ih

theorem keys_set_of_mem (t : Keyed κ α) {k : κ} (a : α) (h : k ∈ keys t) :
    keys (set t k a) = keys t := by
  induction t with
  | nil => simp [keys] at h
  | cons e t ih =>
    rcases e with ⟨k', a'⟩
    by_cases h' : k' = k
    · simp [set, keys, h']
    · have hk : k ∈ keys t := by simpa [keys, Ne.symm h'] using h
      simpa [set, keys, h'] using ih hk

/-- A value under a new key is put at the end. -/
theorem set_of_not_mem (t : Keyed κ α) {k : κ} (a : α) (h : k ∉ keys t) : set t k a = t ++ [(k, a)] := by
  induction t with
  | nil => rfl
  | cons e t ih =>
    rcases e with ⟨k', a'⟩
    simp only [keys, List.map_cons, List.mem_cons, not_or] at h
    rw [set, if_neg (Ne.symm h.1), ih h.2, List.cons_append]

theorem keys_set_of_not_mem (t : Keyed κ α) {k : κ} (a : α) (h : k ∉ keys t) :
    keys (set t k a) = keys t ++ [k] := by
  rw [set_of_not_mem t a h]
  simp [keys]

theorem nodup_keys_set {t : Keyed κ α} (h : (keys t).Nodup) (k : κ) (a : α) :
    (keys (set t k a)).Nodup := by
  by_cases hk : k ∈ keys t
  · rw [keys_set_of_mem t a hk]
    exact h
  · rw [keys_set_of_not_mem t a hk]
    exact List.nodup_append.2 ⟨h, by simp, fun x hx y hy => by
      rw [List.mem_singleton.1 hy]
      exact fun e => hk (e ▸ hx)⟩

theorem nodup_keys_erase {t : Keyed κ α} (h : (keys t).Nodup) (k : κ) :
    (keys (erase t k)).Nodup := by
  rw [keys_erase]
  exact h.filter _

theorem mem_of_get?_eq_some {t : Keyed κ α} {k : κ} {a : α} (h : get? t k = some a) :
    (k, a) ∈ t := by
  induction t with
  | nil => simp at h
  | cons e t ih =>
    rcases e with ⟨k', a'⟩
    by_cases h' : k' = k
    · simp [get?, h'] at h
      simp [h', h]
    · simp only [get?, h', if_false] at h
      exact List.mem_cons_of_mem _ (ih h)

/-! ## Entries and look-ups

With each key at most once, the entries of the list are what the look-ups find. -/

theorem get?_eq_some_iff {t : Keyed κ α} (h : (keys t).Nodup) {k : κ} {a : α} :
    get? t k = some a ↔ (k, a) ∈ t := by
  refine ⟨mem_of_get?_eq_some, fun hm => ?_⟩
  induction t with
  | nil => cases hm
  | cons e t ih =>
    rcases e with ⟨k', a'⟩
    simp only [keys, List.map_cons, List.nodup_cons] at h
    rcases List.mem_cons.1 hm with he | ht
    · cases he
      simp [get?]
    · have hk : ¬k' = k := by
        rintro rfl
        exact h.1 (List.mem_map.2 ⟨_, ht, rfl⟩)
      simpa [get?, hk] using ih h.2 ht

theorem mem_values_iff {t : Keyed κ α} (h : (keys t).Nodup) (a : α) :
    a ∈ values t ↔ ∃ k, get? t k = some a := by
  simp only [values, List.mem_map, get?_eq_some_iff h, Prod.exists, exists_eq_right]

theorem contains_iff (t : Keyed κ α) (k : κ) : contains t k = true ↔ k ∈ keys t := by
  induction t with
  | nil => simp [contains, keys]
  | cons e t ih =>
    rcases e with ⟨k', a'⟩
    by_cases h : k' = k
    · simp [contains, get?, keys, h]
    · simpa [contains, get?, keys, h, Ne.symm h] using ih

/-- Look-ups do not depend on the order of entries. -/
theorem get?_of_perm {t t' : Keyed κ α} (h : (keys t).Nodup) (p : t'.Perm t) (k : κ) : get? t' k = get? t k := by
  have h' : (keys t').Nodup := (p.map Prod.fst).nodup_iff.2 h
  ext a
  rw [get?_eq_some_iff h', get?_eq_some_iff h, p.mem_iff]

theorem erase_eq_filter (t : Keyed κ α) (k : κ) : erase t k = t.filter (·.1 ≠ k) := by
  induction t with
  | nil => rfl
  | cons e t ih =>
    rcases e with ⟨k', a'⟩
    by_cases h : k' = k <;> simp [erase, h, ih]

/-- The key of the entry that is found, when no two keys have values of the kind that is looked for. -/
theorem find?_fst_eq_some_iff {t : Keyed κ α} (h : (keys t).Nodup) {f : α → Bool} {k : κ}
    (alone : ∀ k k' a a', get? t k = some a → get? t k' = some a' → f a = true → f a' = true → k = k') :
    (t.find? fun e => f e.2).map (·.1) = some k ↔ ∃ a, get? t k = some a ∧ f a = true := by
  cases hfind : t.find? fun e => f e.2 with
  | none =>
    have hnone := List.find?_eq_none.1 hfind
    refine ⟨by rintro ⟨⟩, ?_⟩
    rintro ⟨a, ha, hf⟩
    exact absurd hf (hnone _ (mem_of_get?_eq_some ha))
  | some e =>
    rcases e with ⟨k', a'⟩
    have ha' : get? t k' = some a' := (get?_eq_some_iff h).2 (List.mem_of_find?_eq_some hfind)
    have hf' : f a' = true := by simpa using List.find?_some hfind
    constructor
    · rintro ⟨⟩
      exact ⟨a', ha', hf'⟩
    · rintro ⟨a, ha, hf⟩
      rw [alone k k' a a' ha ha' hf hf']
      rfl

theorem erase_of_get?_eq_none {t : Keyed κ α} {k : κ} (h : get? t k = none) : erase t k = t := by
  induction t with
  | nil => rfl
  | cons e t ih =>
    rcases e with ⟨k', a'⟩
    by_cases hk : k' = k
    · simp [get?, hk] at h
    · simp only [get?, hk, if_false] at h
      simp [erase, hk, ih h]

/-- Putting back what is found changes nothing. -/
theorem set_of_get?_eq_some {t : Keyed κ α} {k : κ} {a : α} (h : get? t k = some a) : set t k a = t := by
  induction t with
  | nil => cases h
  | cons e t ih =>
    rcases e with ⟨k', a'⟩
    by_cases hk : k' = k
    · simp only [get?, hk, if_true, Option.some.injEq] at h
      simp [set, hk, h]
    · simp only [get?, hk, if_false] at h
      simp [set, hk, ih h]

theorem set_set (t : Keyed κ α) (k : κ) (a a' : α) : set (set t k a) k a' = set t k a' := by
  induction t with
  | nil => simp [set]
  | cons e t ih =>
    rcases e with ⟨k', a₀⟩
    by_cases hk : k' = k <;> simp [set, hk, ih]

/-- An entry that is found is changed by putting another one in its place. -/
theorem adjust_of_get?_eq_some {t : Keyed κ α} {k : κ} {a : α} (h : get? t k = some a) (f : α → α) :
    adjust t k f = set t k (f a) := by
  induction t with
  | nil => cases h
  | cons e t ih =>
    rcases e with ⟨k', a'⟩
    by_cases hk : k' = k
    · simp only [get?, hk, if_true, Option.some.injEq] at h
      simp [adjust, set, hk, h]
    · simp only [get?, hk, if_false] at h
      simp [adjust, set, hk, ih h]

/-! ## Operations that commute -/

/-- Changes of two entries commute, and so do changes of one entry that commute. -/
theorem adjust_comm (t : Keyed κ α) {k k' : κ} {f g : α → α} (h : k = k' → ∀ a, g (f a) = f (g a)) :
    adjust (adjust t k f) k' g = adjust (adjust t k' g) k f := by
  induction t with
  | nil => rfl
  | cons e t ih =>
    rcases e with ⟨j, a⟩
    by_cases hk : j = k
    · subst hk
      by_cases hk' : j = k'
      · subst hk'
        simp [adjust, h rfl]
      · simp [adjust, hk']
    · by_cases hk' : j = k'
      · subst hk'
        simp [adjust, hk]
      · simp [adjust, hk, hk', ih]

theorem erase_comm (t : Keyed κ α) (k k' : κ) : erase (erase t k) k' = erase (erase t k') k := by
  simp only [erase_eq_filter, List.filter_filter, Bool.and_comm]

/-- An entry that is removed may have been changed before. -/
theorem erase_adjust_self (t : Keyed κ α) (k : κ) (f : α → α) : erase (adjust t k f) k = erase t k := by
  induction t with
  | nil => rfl
  | cons e t ih =>
    rcases e with ⟨k', a⟩
    by_cases hk : k' = k <;> simp [adjust, erase, hk, ih]

/-- A question that a change does not answer differently. -/
theorem any_adjust (t : Keyed κ α) (k : κ) {f : α → α} {p : α → Bool} (h : ∀ a, p (f a) = p a) :
    ((adjust t k f).any fun e => p e.2) = t.any fun e => p e.2 := by
  induction t with
  | nil => rfl
  | cons e t ih =>
    rcases e with ⟨k', a⟩
    by_cases hk : k' = k
    · simp [adjust, hk, h]
    · simp [adjust, hk, ih]

/-! ## Counting entries -/

section Count

variable (p : α → Bool) (t : Keyed κ α) (k : κ)

/-- An entry that is put in place of another one is counted instead of it. -/
theorem countP_values_set (a : α) :
    (values (set t k a)).countP p + ((get? t k).any p).toNat = (values t).countP p + (p a).toNat := by
  induction t with
  | nil => cases h : p a <;> simp [set, values, h]
  | cons e t ih =>
    rcases e with ⟨k', a'⟩
    by_cases hk : k' = k
    · cases h : p a <;> cases h' : p a' <;> simp [set, values, get?, hk, h, h']
    · simp only [values] at ih
      simp only [set, get?, hk, if_false, values, List.map_cons, List.countP_cons]
      omega

/-- An entry that is removed is no longer counted. -/
theorem countP_values_erase (h : (keys t).Nodup) :
    (values (erase t k)).countP p + ((get? t k).any p).toNat = (values t).countP p := by
  induction t with
  | nil => rfl
  | cons e t ih =>
    rcases e with ⟨k', a'⟩
    simp only [keys, List.map_cons, List.nodup_cons] at h
    by_cases hk : k' = k
    · have hnone : get? t k = none := by
        cases hget : get? t k with
        | none => rfl
        | some a => exact absurd (List.mem_map.2 ⟨_, mem_of_get?_eq_some hget, hk.symm⟩) h.1
      have hsame : erase t k = t := erase_of_get?_eq_none hnone
      cases hp : p a' <;> simp [erase, values, get?, hk, hsame, hp]
    · have hrest := ih h.2
      simp only [values] at hrest
      simp only [erase, get?, hk, if_false, values, List.map_cons, List.countP_cons]
      omega

end Count

end Keyed

end NamedLock
