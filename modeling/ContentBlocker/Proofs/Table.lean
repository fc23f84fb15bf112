import ContentBlocker.Proofs.Lists
import ContentBlocker.Table
import Mathlib.Data.List.Basic
import Mathlib.Data.List.Induction

/-!
# Keys and values of tables

A table that starts empty has each key once.  Then `countP_set` and `countP_erase` count the values
of a kind: an operation on a key moves the count by what it does to the value of that key.
-/

namespace ContentBlocker.Table

variable {κ α : Type} [DecidableEq κ] {t : Table κ α} {key : κ}

/-! ## Keys -/

theorem keys_set (t : Table κ α) (key : κ) (value : α) :
    (t.set key value).keys = if key ∈ t.keys then t.keys else t.keys ++ [key] := by
  induction t with
  | nil => simp [set, keys]
  | cons p rest ih =>
    obtain ⟨k, v⟩ := p
    unfold keys at ih ⊢
    by_cases h : k = key
    · simp [set, h]
    · simp only [set, h, if_false, List.map_cons, ih, List.mem_cons, Ne.symm h, false_or]
      split <;> simp

/-- A new key is set at the end. -/
theorem set_of_new (new : key ∉ t.keys) (value : α) : t.set key value = t ++ [(key, value)] := by
  induction t with
  | nil => rfl
  | cons p rest ih =>
    obtain ⟨k, v⟩ := p
    obtain ⟨other, later⟩ := not_or.1 (mt List.mem_cons.2 new)
    rw [set, if_neg (Ne.symm other), ih later, List.cons_append]

/-- Giving a key the value that it has changes nothing. -/
theorem set_of_get? {value : α} (here : t.get? key = some value) : t.set key value = t := by
  induction t with
  | nil => cases here
  | cons p rest ih =>
    obtain ⟨k, v⟩ := p
    rw [get?_cons] at here
    unfold set
    split
    · rename_i same
      rw [if_pos same] at here
      rw [Option.some.inj here, same]
    · rename_i other
      rw [if_neg other] at here
      rw [ih here]

theorem nodup_keys_set (nodup : t.keys.Nodup) (value : α) : (t.set key value).keys.Nodup := by
  rw [keys_set]
  split
  · exact nodup
  · rename_i new
    refine List.nodup_append.2 ⟨nodup, by simp, ?_⟩
    intro k old other same
    rw [List.mem_singleton.1 same]
    exact fun eq => new (eq ▸ old)

theorem nodup_keys_erase (nodup : t.keys.Nodup) : (t.erase key).keys.Nodup :=
  (List.filter_sublist.map _).nodup nodup

theorem get?_of_mem (nodup : t.keys.Nodup) {p : κ × α} (mem : p ∈ t) : t.get? p.1 = some p.2 := by
  induction t with
  | nil => cases mem
  | cons first rest ih =>
    obtain ⟨k, v⟩ := first
    obtain ⟨new, nodup⟩ := List.nodup_cons.1 nodup
    rw [get?_cons]
    rcases List.mem_cons.1 mem with rfl | later
    · exact if_pos rfl
    · have other : k ≠ p.1 := fun same => new (List.mem_map.2 ⟨p, later, same.symm⟩)
      rw [if_neg other]
      exact ih nodup later

theorem get?_eq_none (absent : key ∉ t.keys) : t.get? key = none :=
  Option.isNone_iff_eq_none.1 (by simpa using mt (mem_keys t key).2 absent)

/-- A table with each key once answers with its pairs. -/
theorem get?_eq_some (nodup : t.keys.Nodup) {value : α} :
    t.get? key = some value ↔ (key, value) ∈ t := by
  refine ⟨fun found => ?_, get?_of_mem nodup⟩
  induction t with
  | nil => cases found
  | cons p rest ih =>
    obtain ⟨k, v⟩ := p
    rw [get?_cons] at found
    split at found
    · rename_i here
      cases found
      exact here ▸ List.mem_cons_self
    · exact List.mem_cons_of_mem _ (ih (List.nodup_cons.1 nodup).2 found)

/-- The values of a table are the answers to its keys. -/
theorem map_snd (nodup : t.keys.Nodup) : t.map (·.2) = t.keys.filterMap t.get? := by
  rw [keys, List.filterMap_map, ← List.filterMap_eq_map]
  exact List.filterMap_congr fun p mem => (get?_of_mem nodup mem).symm

/-- The order of a table does not matter. -/
theorem get?_perm {u : Table κ α} (perm : t.Perm u) (nodup : t.keys.Nodup) (key : κ) :
    t.get? key = u.get? key := by
  have keys : t.keys.Perm u.keys := by
    unfold keys
    exact perm.map _
  have nodup' : u.keys.Nodup := keys.nodup_iff.1 nodup
  refine Option.ext fun value => ?_
  rw [get?_eq_some nodup, get?_eq_some nodup', perm.mem_iff]

theorem erase_of_absent (absent : t.get? key = none) : t.erase key = t := by
  refine List.filter_eq_self.2 fun p mem => decide_eq_true fun here => ?_
  have present : (t.get? key).isSome := (mem_keys t key).1 (List.mem_map.2 ⟨p, mem, here⟩)
  rw [absent] at present
  cases present

/-- Tables with the same keys in the same order are told apart by an answer. -/
theorem eq_of_get? {u : Table κ α} (order : t.keys = u.keys) (nodup : t.keys.Nodup)
    (same : ∀ key, t.get? key = u.get? key) : t = u := by
  induction t generalizing u with
  | nil => exact (List.map_eq_nil_iff.1 order.symm).symm
  | cons p rest ih =>
    obtain ⟨k, v⟩ := p
    cases u with
    | nil => cases order
    | cons q others =>
      obtain ⟨l, w⟩ := q
      obtain ⟨first, tail⟩ := List.cons.inj order
      obtain rfl : k = l := first
      obtain ⟨new, nodup⟩ := List.nodup_cons.1 nodup
      have value : v = w := by simpa [get?_cons] using same k
      have later : rest = others := by
        refine ih tail nodup fun key => ?_
        by_cases here : k = key
        · subst here
          have absent : k ∉ Table.keys others := fun mem => new (tail.symm ▸ mem)
          rw [get?_eq_none new, get?_eq_none absent]
        · simpa [get?_cons, here] using same key
      rw [value, later]

/-- Keys that are set to one value, one after the other. -/
theorem get?_foldl_set (keys : List κ) (value : α) (t : Table κ α) (key : κ) :
    (keys.foldl (fun t k => t.set k value) t).get? key =
      if key ∈ keys then some value else t.get? key := by
  induction keys generalizing t with
  | nil => simp
  | cons k keys ih =>
    rw [List.foldl_cons, ih, get?_set]
    by_cases here : k = key
    · simp [here]
    · simp [here, Ne.symm here]

theorem keys_foldl_set {keys : List κ} (value : α) (known : ∀ k ∈ keys, k ∈ t.keys) :
    (keys.foldl (fun t k => t.set k value) t).keys = t.keys := by
  induction keys generalizing t with
  | nil => rfl
  | cons k keys ih =>
    obtain ⟨here, later⟩ := List.forall_mem_cons.1 known
    have same : (t.set k value).keys = t.keys := by rw [keys_set, if_pos here]
    rw [List.foldl_cons, ih (fun k mem => same ▸ later k mem), same]

section

variable {ι : Type} [DecidableEq ι] {key : ι → κ} (injective : key.Injective) (value : ι → α)
include injective

theorem get?_map_key {is : List ι} {i : ι} (mem : i ∈ is) :
    get? (is.map fun i => (key i, value i)) (key i) = some (value i) := by
  induction is with
  | nil => cases mem
  | cons j is ih =>
    rw [List.map_cons, get?_cons]
    by_cases here : j = i
    · rw [here, if_pos rfl]
    · rw [if_neg (injective.ne here)]
      exact ih ((List.mem_cons.1 mem).resolve_left (Ne.symm here))

/-- Keys that are set one after the other, each to a value of its own, stand in the order of their
first places. -/
theorem foldl_set_eq (is : List ι) :
    is.foldl (fun t i => set t (key i) (value i)) [] =
      is.eraseDups.map fun i => (key i, value i) := by
  induction is using List.reverseRecOn with
  | nil => rfl
  | append_singleton is i ih =>
    rw [List.foldl_concat, ih]
    by_cases old : i ∈ is
    · rw [eraseDups_concat_of_mem old]
      exact set_of_get? (get?_map_key injective value (List.mem_eraseDups.2 old))
    · rw [eraseDups_concat_of_not_mem old, List.map_append, set_of_new]
      · rfl
      · rw [keys, List.map_map]
        intro mem
        obtain ⟨j, among, same⟩ := List.mem_map.1 mem
        exact old (injective same ▸ List.mem_eraseDups.1 among)

end

theorem get?_map {β : Type} (g : α → β) (t : Table κ α) (key : κ) :
    get? (t.map fun p => (p.1, g p.2)) key = (t.get? key).map g := by
  induction t with
  | nil => rfl
  | cons p rest ih =>
    rw [List.map_cons, get?_cons, get?_cons, ih]
    split <;> rfl

theorem get?_filter (keep : κ → Bool) (t : Table κ α) (key : κ) :
    get? (t.filter fun p => keep p.1) key = if keep key then t.get? key else none := by
  induction t with
  | nil => simp [get?_nil]
  | cons p rest ih =>
    obtain ⟨k, v⟩ := p
    rw [List.filter_cons, get?_cons]
    by_cases same : k = key
    · subst same
      by_cases kept : keep k <;> simp [kept, get?_cons, ih]
    · by_cases kept : keep k <;> simp [kept, get?_cons, same, ih]

/-! ## Pairs with a value -/

section Present

variable {pairs : Table κ (Option α)}

omit [DecidableEq κ] in
theorem nodup_keys_present (nodup : pairs.keys.Nodup) : (present pairs).keys.Nodup := by
  refine List.Sublist.nodup ?_ nodup
  unfold present keys
  induction pairs with
  | nil => exact .slnil
  | cons p rest ih =>
    obtain ⟨k, v⟩ := p
    have ih := ih (List.nodup_cons.1 nodup).2
    cases v with
    | none => exact ih.cons k
    | some v => exact ih.cons_cons k

theorem get?_present (nodup : pairs.keys.Nodup) (key : κ) :
    (present pairs).get? key = (get? pairs key).join := by
  induction pairs with
  | nil => rfl
  | cons p rest ih =>
    obtain ⟨k, v⟩ := p
    obtain ⟨new, nodup⟩ := List.nodup_cons.1 nodup
    have ih := ih nodup
    rw [get?_cons]
    cases v with
    | none =>
      change (present rest).get? key = _
      split
      · rename_i here
        rw [ih, ← here, get?_eq_none new]
        rfl
      · exact ih
    | some v =>
      change get? ((k, v) :: present rest) key = _
      rw [get?_cons]
      split
      · rfl
      · exact ih

end Present

/-! ## Counting values -/

section Count

theorem toNat_eq_ite (b : Bool) : b.toNat = if b then 1 else 0 := Bool.cond_eq_ite ..

variable (q : α → Bool)

theorem countP_set (t : Table κ α) (key : κ) (value : α) :
    (t.set key value).countP (q ·.2) + ((t.get? key).any q).toNat =
      t.countP (q ·.2) + (q value).toNat := by
  induction t with
  | nil => simp [set, get?_nil, toNat_eq_ite]
  | cons p rest ih =>
    obtain ⟨k, v⟩ := p
    rw [get?_cons]
    by_cases h : k = key
    · simp only [set, h, if_true, List.countP_cons, Option.any_some, toNat_eq_ite]
      omega
    · simp only [set, h, if_false, List.countP_cons]
      omega

theorem countP_erase (nodup : t.keys.Nodup) :
    (t.erase key).countP (q ·.2) + ((t.get? key).any q).toNat = t.countP (q ·.2) := by
  induction t with
  | nil => simp [erase, get?_nil]
  | cons p rest ih =>
    obtain ⟨k, v⟩ := p
    obtain ⟨new, nodup⟩ := List.nodup_cons.1 nodup
    have ih := ih nodup
    rw [get?_cons]
    simp only [erase, ne_eq] at ih ⊢
    by_cases h : k = key
    · subst h
      rw [get?_eq_none new] at ih
      simp only [Option.any_none, Bool.toNat_false, Nat.add_zero] at ih
      simp only [List.filter_cons, not_true_eq_false, decide_false, Bool.false_eq_true, if_false,
        if_true, List.countP_cons, Option.any_some, toNat_eq_ite]
      rw [ih]
    · simp only [List.filter_cons, h, not_false_eq_true, decide_true, if_true, if_false,
        List.countP_cons]
      omega

end Count

end ContentBlocker.Table
