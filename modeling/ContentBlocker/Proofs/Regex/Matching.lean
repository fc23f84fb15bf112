import ContentBlocker.Proofs.Regex.Plain
import Mathlib.Logic.Relation

/-!
# What plain patterns match

A row of parts is found in an address if the parts lead, one after the other, from one spot of the
address to another.  `Part.Takes` says where a part leads.  A dot with a star leads behind any text
on the line: `takes_star_dot`.  Rows of other things are found in the same way, and if what they
take is the same, so is where they are found: `finds_congr`.
-/

namespace ContentBlocker.Regex

/-! ## Spots -/

/-- A spot of an address, by what stands before it and behind it. -/
@[ext] structure Spot where
  before : Text
  after : Text

namespace Spot

/-- A text stands between two spots. -/
def Between (s : Spot) (text : Text) (t : Spot) : Prop :=
  s.after = text ++ t.after ∧ t.before = s.before ++ text

variable {s t u : Spot} {text rest : Text}

theorem between_nil : s.Between [] t ↔ t = s := by
  constructor
  · rintro ⟨after, before⟩
    exact Spot.ext (by simpa using before) (by simpa using after.symm)
  · rintro rfl
    exact ⟨rfl, (List.append_nil _).symm⟩

theorem Between.trans (first : s.Between text t) (second : t.Between rest u) :
    s.Between (text ++ rest) u := by
  obtain ⟨after, before⟩ := first
  obtain ⟨after', before'⟩ := second
  exact ⟨by rw [after, after', List.append_assoc], by rw [before', before, List.append_assoc]⟩

/-- Between two spots there is one at which the first character has been passed. -/
theorem exists_between_cons {p : CodePoint} (passed : s.Between (p :: text) t) :
    ∃ u, s.Between [p] u ∧ u.Between text t := by
  obtain ⟨after, before⟩ := passed
  exact ⟨⟨s.before ++ [p], text ++ t.after⟩, ⟨after, rfl⟩, rfl, by simpa using before⟩

end Spot

/-! ## Rows -/

section Rows

variable {α β : Type}

/-- A row of things that each take one from spot to spot leads from one spot to another. -/
def Leads (takes : α → Spot → Spot → Prop) : List α → Spot → Spot → Prop
  | [], s, t => t = s
  | a :: row, s, t => ∃ u, takes a s u ∧ Leads takes row u t

/-- A row is found in an address: it leads from some spot of the address to another. -/
def Finds (takes : α → Spot → Spot → Prop) (row : List α) (address : Text) : Prop :=
  ∃ s t : Spot, s.before ++ s.after = address ∧ Leads takes row s t

/-- Where things take the same, on spots that all lie behind a spot of one kind, their rows are
found in the same addresses. -/
theorem finds_congr {takes : α → Spot → Spot → Prop} {takes' : β → Spot → Spot → Prop}
    {f : α → β} {P : Spot → Prop} (same : ∀ a s t, P s → (takes' (f a) s t ↔ takes a s t))
    (kept : ∀ a s t, takes a s t → P s → P t) (row : List α) {address : Text}
    (starts : ∀ s : Spot, s.before ++ s.after = address → P s) :
    Finds takes' (row.map f) address ↔ Finds takes row address := by
  have leads (s t : Spot) (start : P s) : Leads takes' (row.map f) s t ↔ Leads takes row s t := by
    induction row generalizing s with
    | nil => rfl
    | cons a row ih =>
      constructor
      · rintro ⟨u, here, later⟩
        have here := (same a s u start).1 here
        exact ⟨u, here, (ih u (kept a s u here start)).1 later⟩
      · rintro ⟨u, here, later⟩
        exact ⟨u, (same a s u start).2 here, (ih u (kept a s u here start)).2 later⟩
  constructor
  · rintro ⟨s, t, whole, found⟩
    exact ⟨s, t, whole, (leads s t (starts s whole)).1 found⟩
  · rintro ⟨s, t, whole, found⟩
    exact ⟨s, t, whole, (leads s t (starts s whole)).2 found⟩

end Rows

/-! ## Parts -/

def lineBreak : CodePoint := '\n'

/-- Where a part leads.  The end of an address is also in front of a line break that ends it. -/
def Part.Takes : Part → Spot → Spot → Prop
  | char p, s, t => s.Between [p] t
  | dot, s, t => ∃ p, p ≠ lineBreak ∧ s.Between [p] t
  | oneOf set, s, t => ∃ p ∈ set, s.Between [p] t
  | start, s, t => s.before = [] ∧ t = s
  | stop, s, t => (s.after = [] ∨ s.after = [lineBreak]) ∧ t = s
  | star part, s, t => Relation.ReflTransGen part.Takes s t

/-- A dot with a star takes what is left of a line, or less. -/
theorem takes_star_dot {s t : Spot} :
    (Part.star .dot).Takes s t ↔ ∃ text, lineBreak ∉ text ∧ s.Between text t := by
  constructor
  · intro takes
    induction takes with
    | refl => exact ⟨[], by simp, Spot.between_nil.2 rfl⟩
    | tail _ step ih =>
      obtain ⟨text, line, passed⟩ := ih
      obtain ⟨p, other, last⟩ := step
      exact ⟨text ++ [p], by simp [line, other.symm], passed.trans last⟩
  · rintro ⟨text, line, passed⟩
    induction text generalizing s with
    | nil =>
      obtain rfl := Spot.between_nil.1 passed
      exact .refl
    | cons p text ih =>
      obtain ⟨u, first, rest⟩ := Spot.exists_between_cons passed
      have other : p ≠ lineBreak := fun same => line (same ▸ List.mem_cons_self)
      exact .head ⟨p, other, first⟩ (ih (fun mem => line (List.mem_cons_of_mem _ mem)) rest)

end ContentBlocker.Regex
