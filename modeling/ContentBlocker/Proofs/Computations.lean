import Mathlib.Data.List.Basic

/-!
# Computations that can fail

A row of computations succeeds if each of them does, and it fails with what one of them fails with.
-/

namespace ContentBlocker

/-! ## Computations that succeed -/

section Except

variable {ε α β : Type}

theorem bind_eq_ok {x : Except ε α} {f : α → Except ε β} {b : β} :
    x >>= f = .ok b ↔ ∃ a, x = .ok a ∧ f a = .ok b := by
  cases x with
  | error e => simp [bind, Except.bind]
  | ok a => simp [bind, Except.bind]

theorem map_eq_ok {x : Except ε α} {f : α → β} {b : β} :
    x.map f = .ok b ↔ ∃ a, x = .ok a ∧ f a = b := by
  cases x with
  | error e => simp [Except.map]
  | ok a => simp [Except.map]

/-- A row of readings that each succeed on a condition of their own. -/
theorem mapM_eq_ok {P : α → Prop} {g : α → β} {f : α → Except ε β}
    (each : ∀ a b, f a = .ok b ↔ P a ∧ b = g a) {as : List α} {bs : List β} :
    as.mapM f = .ok bs ↔ (∀ a ∈ as, P a) ∧ bs = as.map g := by
  induction as generalizing bs with
  | nil => simp [pure, Except.pure, eq_comm]
  | cons a as ih =>
    simp only [List.mapM_cons, bind_eq_ok, each, ih, List.forall_mem_cons, List.map_cons]
    constructor
    · rintro ⟨b, ⟨here, rfl⟩, rest, ⟨later, rfl⟩, same⟩
      exact ⟨⟨here, later⟩, (Except.ok.inj same).symm⟩
    · rintro ⟨⟨here, later⟩, rfl⟩
      exact ⟨_, ⟨here, rfl⟩, _, ⟨later, rfl⟩, rfl⟩

theorem exists_mapM_ok {f : α → Except ε β} {as : List α} :
    (∃ bs, as.mapM f = .ok bs) ↔ ∀ a ∈ as, ∃ b, f a = .ok b := by
  induction as with
  | nil => simp [pure, Except.pure]
  | cons a as ih =>
    rw [List.forall_mem_cons, ← ih]
    simp only [List.mapM_cons, bind_eq_ok, pure, Except.pure, Except.ok.injEq]
    constructor
    · rintro ⟨_, b, here, bs, later, -⟩
      exact ⟨⟨b, here⟩, bs, later⟩
    · rintro ⟨⟨b, here⟩, bs, later⟩
      exact ⟨_, b, here, bs, later, rfl⟩

/-- What was written is read back, item by item. -/
theorem mapM_map_ok (write : α → β) {read : β → Except ε α} {as : List α}
    (back : ∀ a ∈ as, read (write a) = .ok a) : (as.map write).mapM read = .ok as := by
  induction as with
  | nil => rfl
  | cons a as ih =>
    obtain ⟨here, later⟩ := List.forall_mem_cons.1 back
    rw [List.map_cons, List.mapM_cons, here, ih later]
    rfl

theorem forM_ok {f : α → Except ε PUnit} {as : List α} (each : ∀ a ∈ as, f a = .ok ()) :
    as.forM f = .ok () := by
  induction as with
  | nil => rfl
  | cons a as ih =>
    obtain ⟨here, later⟩ := List.forall_mem_cons.1 each
    exact bind_eq_ok.2 ⟨(), here, ih later⟩

end Except

/-! ## Computations that fail -/

section FailsWith

variable {α β ε δ : Type} {P : ε → Prop}

/-- Some member of a list has a property, and those in front of it have another. -/
inductive Until (P Q : α → Prop) : List α → Prop
  | here {a : α} {as : List α} : Q a → Until P Q (a :: as)
  | later {a : α} {as : List α} : P a → Until P Q as → Until P Q (a :: as)

theorem until_cons {P Q : α → Prop} {a : α} {as : List α} :
    Until P Q (a :: as) ↔ Q a ∨ P a ∧ Until P Q as := by
  constructor
  · rintro (found | ⟨passed, rest⟩)
    · exact .inl found
    · exact .inr ⟨passed, rest⟩
  · rintro (found | ⟨passed, rest⟩)
    · exact .here found
    · exact .later passed rest

theorem Until.exists_mem {P Q : α → Prop} {as : List α} (found : Until P Q as) : ∃ a ∈ as, Q a := by
  induction found with
  | here found => exact ⟨_, List.mem_cons_self, found⟩
  | later _ _ ih =>
    obtain ⟨a, mem, found⟩ := ih
    exact ⟨a, List.mem_cons_of_mem _ mem, found⟩

theorem exists_until {ι : Type} {P : α → Prop} {Q : ι → α → Prop} {as : List α} :
    (∃ i, Until P (Q i) as) ↔ Until P (fun a => ∃ i, Q i a) as := by
  constructor
  · rintro ⟨i, found⟩
    induction found with
    | here found => exact .here ⟨i, found⟩
    | later passed _ ih => exact .later passed ih
  · intro found
    induction found with
    | here found => exact found.imp fun _ => .here
    | later passed _ ih => exact ih.imp fun _ => .later passed

/-- A row of computations fails with what the first one that fails does. -/
theorem mapM_eq_error {f : α → Except ε β} {as : List α} {e : ε} :
    as.mapM f = .error e ↔ Until (∃ b, f · = .ok b) (f · = .error e) as := by
  induction as with
  | nil =>
    refine iff_of_false (fun failed => ?_) nofun
    cases failed
  | cons a as ih =>
    rw [until_cons, ← ih, List.mapM_cons]
    cases f a with
    | error e' => simp [bind, Except.bind]
    | ok b => cases as.mapM f <;> simp [bind, Except.bind, pure, Except.pure]

/-- What a computation fails with, if it fails. -/
def FailsWith (P : ε → Prop) (x : Except ε α) : Prop := ∀ e, x = .error e → P e

theorem failsWith_ok (a : α) : FailsWith P (.ok a) := by
  intro e failed
  cases failed

theorem failsWith_error {e : ε} (h : P e) : FailsWith P (.error e : Except ε α) := by
  intro e failed
  cases failed
  exact h

theorem FailsWith.bind {x : Except ε α} {f : α → Except ε β} (h : FailsWith P x)
    (h' : ∀ a, FailsWith P (f a)) : FailsWith P (x >>= f) := by
  cases x with
  | error e => exact failsWith_error (h e rfl)
  | ok a => exact h' a

theorem FailsWith.map {x : Except ε α} (h : FailsWith P x) (f : α → β) : FailsWith P (x.map f) := by
  cases x with
  | error e => exact failsWith_error (h e rfl)
  | ok a => exact failsWith_ok (f a)

theorem failsWith_mapError {f : δ → ε} (h : ∀ d, P (f d)) (x : Except δ α) :
    FailsWith P (x.mapError f) := by
  cases x with
  | error d => exact failsWith_error (h d)
  | ok a => exact failsWith_ok a

theorem failsWith_mapM {f : α → Except ε β} (h : ∀ a, FailsWith P (f a)) (as : List α) :
    FailsWith P (as.mapM f) := by
  induction as with
  | nil => exact failsWith_ok []
  | cons a as ih =>
    rw [List.mapM_cons]
    exact (h a).bind fun _ => ih.bind fun _ => failsWith_ok _

theorem failsWith_forM {f : α → Except ε PUnit} (h : ∀ a, FailsWith P (f a)) (as : List α) :
    FailsWith P (as.forM f) := by
  induction as with
  | nil => exact failsWith_ok ()
  | cons a as ih => exact (h a).bind fun _ => ih

end FailsWith

end ContentBlocker
