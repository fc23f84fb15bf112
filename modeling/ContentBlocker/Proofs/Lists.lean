import Mathlib.Data.List.Forall2

/-!
# Lists

Lists that are sorted out by a function, related item by item, changed at a place, or freed of
repetitions.
-/

namespace ContentBlocker

section

variable {α β : Type}

/-! ## Lists sorted out by a function -/

theorem filterMap_eq_map_filter {f : α → Option β} {p : α → Bool} {g : α → β}
    (each : ∀ a, f a = if p a then some (g a) else none) (as : List α) :
    as.filterMap f = (as.filter p).map g := by
  induction as with
  | nil => rfl
  | cons a as ih =>
    have here := each a
    by_cases passes : p a
    · rw [if_pos passes] at here
      rw [List.filterMap_cons_some here, List.filter_cons_of_pos passes, List.map_cons, ih]
    · rw [if_neg passes] at here
      rw [List.filterMap_cons_none here, List.filter_cons_of_neg passes, ih]

theorem filterMap_map_some (write : α → β) {read : β → Option α}
    (back : ∀ a, read (write a) = some a) (as : List α) : (as.map write).filterMap read = as := by
  rw [List.filterMap_map, show read ∘ write = some from funext back, List.filterMap_some]

theorem mapM_map_some (write : α → β) {read : β → Option α}
    (back : ∀ a, read (write a) = some a) (as : List α) : (as.map write).mapM read = some as := by
  induction as with
  | nil => rfl
  | cons a as ih => simp [List.mapM_cons, back, ih]

/-! ## Lists related item by item -/

theorem forall₂_filterMap (f : α → Option β) (as : List α) :
    List.Forall₂ (fun a b => f a = some b) (as.filter fun a => (f a).isSome) (as.filterMap f) := by
  induction as with
  | nil => exact .nil
  | cons a as ih =>
    cases found : f a with
    | none =>
      rw [List.filterMap_cons_none found, List.filter_cons_of_neg (by simp [found])]
      exact ih
    | some b =>
      rw [List.filterMap_cons_some found, List.filter_cons_of_pos (by simp [found])]
      exact .cons found ih

theorem exists_of_forall₂ {R : α → β → Prop} {as : List α} {bs : List β}
    (each : List.Forall₂ R as bs) {a : α} (mem : a ∈ as) : ∃ b ∈ bs, R a b := by
  induction each with
  | nil => cases mem
  | cons here _ ih =>
    rcases List.mem_cons.1 mem with rfl | later
    · exact ⟨_, List.mem_cons_self, here⟩
    · obtain ⟨b, among, related⟩ := ih later
      exact ⟨b, List.mem_cons_of_mem _ among, related⟩

end

/-! ## Lists with an item changed -/

section

variable {α : Type} {as : List α} {k : Nat} {a : α}

theorem countP_set_add (p : α → Bool) (here : as[k]? = some a) (b : α) :
    (as.set k b).countP p + (p a).toNat = as.countP p + (p b).toNat := by
  induction as generalizing k with
  | nil => cases here
  | cons c as ih =>
    cases k with
    | zero =>
      cases here
      rw [List.set_cons_zero, List.countP_cons, List.countP_cons]
      cases p a <;> cases p b <;> simp
    | succ k =>
      have rest := ih here
      rw [List.set_cons_succ, List.countP_cons, List.countP_cons]
      omega

/-- The first item that a filter lets through can be changed in place. -/
theorem exists_set_of_filter {p : α → Bool} {rest : List α} (first : as.filter p = a :: rest) :
    ∃ k, as[k]? = some a ∧ ∀ b, (as.set k b).filter p = if p b then b :: rest else rest := by
  induction as with
  | nil => cases first
  | cons c as ih =>
    cases passes : p c with
    | true =>
      rw [List.filter_cons_of_pos passes] at first
      obtain ⟨rfl, rfl⟩ := List.cons.inj first
      exact ⟨0, rfl, fun b => List.filter_cons⟩
    | false =>
      rw [List.filter_cons_of_neg (by simp [passes])] at first
      obtain ⟨k, there, set⟩ := ih first
      refine ⟨k + 1, there, fun b => ?_⟩
      rw [List.set_cons_succ, List.filter_cons_of_neg (by simp [passes]), set]

theorem filter_set_of_neg {p : α → Bool} (here : as[k]? = some a) (out : p a = false) {b : α}
    (still : p b = false) : (as.set k b).filter p = as.filter p := by
  induction as generalizing k with
  | nil => cases here
  | cons c as ih =>
    cases k with
    | zero =>
      cases here
      rw [List.set_cons_zero, List.filter_cons_of_neg (by simp [still]),
        List.filter_cons_of_neg (by simp [out])]
    | succ k => rw [List.set_cons_succ, List.filter_cons, List.filter_cons, ih here]

theorem count_flatMap_set_add (f : α → List Nat) (here : as[k]? = some a) (b : α) (n : Nat) :
    ((as.set k b).flatMap f).count n + (f a).count n =
      (as.flatMap f).count n + (f b).count n := by
  induction as generalizing k with
  | nil => cases here
  | cons c as ih =>
    cases k with
    | zero =>
      cases here
      rw [List.set_cons_zero, List.flatMap_cons, List.flatMap_cons, List.count_append,
        List.count_append]
      omega
    | succ k =>
      have rest := ih here
      rw [List.set_cons_succ, List.flatMap_cons, List.flatMap_cons, List.count_append,
        List.count_append]
      omega

end

/-! ## Repetitions -/

section

variable {α : Type} [BEq α] [LawfulBEq α] {as : List α} {a : α}

theorem eraseDups_concat_of_mem (old : a ∈ as) : (as ++ [a]).eraseDups = as.eraseDups := by
  simp [List.eraseDups_append, List.removeAll, old]

theorem eraseDups_concat_of_not_mem (new : a ∉ as) :
    (as ++ [a]).eraseDups = as.eraseDups ++ [a] := by
  simp [List.eraseDups_append, List.removeAll, new, List.eraseDups_cons]

end

end ContentBlocker
