/-!
# Tables

A table gives values to keys, and keeps the keys in the order in which they were first set.  What a
table says is what `get?` answers; `get?_set` and `get?_erase` say how the operations change it.
-/

namespace ContentBlocker

abbrev Table (κ α : Type) := List (κ × α)

namespace Table

variable {κ α : Type}

def keys (t : Table κ α) : List κ := t.map (·.1)

/-- The pairs that have a value, in order. -/
def present (pairs : List (κ × Option α)) : Table κ α :=
  pairs.filterMap fun (k, v) => v.map (k, ·)

variable [DecidableEq κ]

def get? (t : Table κ α) (key : κ) : Option α := t.lookup key

/-- Gives a key a value: in place if the key is there, at the end otherwise. -/
def set (t : Table κ α) (key : κ) (value : α) : Table κ α :=
  match t with
  | [] => [(key, value)]
  | (k, v) :: rest => if k = key then (k, value) :: rest else (k, v) :: set rest key value

def erase (t : Table κ α) (key : κ) : Table κ α := t.filter (·.1 ≠ key)

/-! ## What the operations change -/

theorem get?_nil (key : κ) : get? ([] : Table κ α) key = none := rfl

theorem get?_cons (k : κ) (v : α) (rest : Table κ α) (key : κ) :
    get? ((k, v) :: rest) key = if k = key then some v else get? rest key := by
  rw [get?, List.lookup_cons]
  by_cases h : k = key
  · rw [if_pos h, beq_iff_eq.2 h.symm]
  · rw [if_neg h, beq_eq_false_iff_ne.2 fun e => h e.symm]
    rfl

theorem mem_keys (t : Table κ α) (key : κ) : key ∈ t.keys ↔ (t.get? key).isSome := by
  induction t with
  | nil => simp [keys, get?_nil]
  | cons p rest ih =>
    obtain ⟨k, v⟩ := p
    unfold keys at ih ⊢
    rw [List.map_cons, List.mem_cons, ih, get?_cons]
    by_cases h : k = key
    · simp [h]
    · simp [h, Ne.symm h]

theorem get?_set (t : Table κ α) (key : κ) (value : α) (other : κ) :
    (t.set key value).get? other = if key = other then some value else t.get? other := by
  induction t with
  | nil => simp only [set, get?_cons, get?_nil]
  | cons p rest ih =>
    obtain ⟨k, v⟩ := p
    by_cases h : k = key
    · simp only [set, h, if_true, get?_cons]
      split <;> rfl
    · simp only [set, h, if_false, get?_cons, ih]
      by_cases hk : k = other
      · have : ¬ key = other := fun e => h (hk.trans e.symm)
        simp [hk, this]
      · simp [hk]

theorem get?_erase (t : Table κ α) (key other : κ) :
    (t.erase key).get? other = if key = other then none else t.get? other := by
  induction t with
  | nil => simp [erase, get?_nil]
  | cons p rest ih =>
    obtain ⟨k, v⟩ := p
    unfold erase at ih ⊢
    by_cases h : k = key
    · simp only [List.filter_cons, h, ne_eq, not_true_eq_false, decide_false, Bool.false_eq_true,
        if_false, ih, get?_cons]
      split <;> rfl
    · simp only [List.filter_cons, ne_eq, h, not_false_eq_true, decide_true, if_true, get?_cons, ih]
      by_cases hk : k = other
      · have : ¬ key = other := fun e => h (hk.trans e.symm)
        simp [hk, this]
      · simp [hk]

end Table

end ContentBlocker
