import ContentBlocker.Proofs.Lists
import ContentBlocker.Proofs.Message.Answers
import ContentBlocker.Proofs.Rule.Acceptance
import Mathlib.Data.List.FinRange

/-!
# What becomes of the entries of a batch

Reading a batch loses no entry and invents none: every place of the batch is that of one rule or of
one malformed entry, and both follow the order of the places.  `batches_lose_and_invent_nothing`
says which places are which, what is told of the malformed ones, and that two batches can be read
one after the other.
-/

namespace ContentBlocker

/-! ## What is told of a malformed entry -/

namespace Rejected

/-- What is told of the entry if more places stand before it. -/
def shift (places : Nat) (r : Rejected) : Rejected := { r with index := places + r.index }

/-- What is told of the value at a place: its place, its id if it is an object with a whole number
for an id, and the fault that a reading of it alone ends with. -/
structure TellsOf (r : Rejected) (place : Nat) (v : Json) : Prop where
  index : r.index = place
  ruleId (id : Int) : r.ruleId = some id ↔ v.get? "id" = some (.int id)
  message : ∃ fault, Rule.ofJson v = .error fault ∧
    r.message = s!"rules[{place}]: " ++ fault.message

theorem tellsOf_of_error {v : Json} {fault : RuleFault} (failed : Rule.ofJson v = .error fault)
    (place : Nat) : TellsOf ⟨place, fault⟩ place v where
  index := rfl
  ruleId id := by
    have told : ruleId ⟨place, fault⟩ = (v.get? "id").bind Json.int? := Rule.ruleId_of_error failed
    rw [told, Option.bind_eq_some_iff]
    constructor
    · rintro ⟨a, here, whole⟩
      rw [here, Json.int_of_int? whole]
    · intro here
      exact ⟨_, here, rfl⟩
  message := ⟨fault, failed, rfl⟩

/-- Malformed entries that tell of values in order have the places of these. -/
theorem map_index_of_tellsOf {n : Nat} {item : Fin n → Json} {places : List (Fin n)}
    {rejected : List Rejected}
    (told : List.Forall₂ (fun i r => r.TellsOf i.val (item i)) places rejected) :
    rejected.map (·.index) = places.map (·.val) := by
  rw [← List.forall₂_eq_eq_eq, List.forall₂_map_left_iff, List.forall₂_map_right_iff]
  exact (told.imp fun i r told => told.index).flip

end Rejected

namespace Batch

/-! ## Readings and what they give -/

variable {v : Json} {place : Nat}

theorem accepted?_eq_some {reading : Except RuleFault Rule} {rule : Rule} :
    accepted? reading = some rule ↔ reading = .ok rule := by
  cases reading <;> simp [accepted?]

theorem isSome_accepted? : (accepted? (Rule.ofJson v)).isSome = true ↔ IsRule v := by
  simp only [Option.isSome_iff_exists, accepted?_eq_some]
  exact Rule.exists_ofJson_ok

/-- A reading gives either a rule or a malformed entry. -/
theorem isSome_rejected? (reading : Except RuleFault Rule) (place : Nat) :
    (rejected? (reading, place)).isSome = !(accepted? reading).isSome := by
  cases reading <;> rfl

theorem tellsOf_of_rejected? {r : Rejected} (made : rejected? (Rule.ofJson v, place) = some r) :
    r.TellsOf place v := by
  cases read : Rule.ofJson v with
  | ok rule =>
    rw [read] at made
    cases made
  | error fault =>
    rw [read] at made
    cases made
    exact Rejected.tellsOf_of_error read place

theorem rejected?_add (reading : Except RuleFault Rule) (places place : Nat) :
    rejected? (reading, places + place) = (rejected? (reading, place)).map (·.shift places) := by
  cases reading <;> rfl

/-! ## Batches as families of places -/

theorem rules_ofItems (items : List Json) :
    (ofItems items).rules =
      (List.finRange items.length).filterMap fun i => accepted? (Rule.ofJson items[i]) := by
  conv_lhs => rw [← List.map_getElem_finRange items]
  simp only [ofItems, List.map_map, List.filterMap_map]
  rfl

theorem rejected_ofItems (items : List Json) :
    (ofItems items).rejected =
      (List.finRange items.length).filterMap fun i => rejected? (Rule.ofJson items[i], i.val) := by
  have placed : (items.map Rule.ofJson).zipIdx =
      (List.finRange items.length).map fun i => (Rule.ofJson items[i], i.val) :=
    List.ext_getElem (by simp) (by simp)
  calc (ofItems items).rejected
      = (items.map Rule.ofJson).zipIdx.filterMap rejected? := rfl
    _ = (List.finRange items.length).filterMap
          (rejected? ∘ fun i => (Rule.ofJson items[i], i.val)) := by
        rw [placed, List.filterMap_map]

theorem ofItems_append (items more : List Json) :
    ofItems (items ++ more) =
      { rules := (ofItems items).rules ++ (ofItems more).rules
        rejected := (ofItems items).rejected ++
          (ofItems more).rejected.map (·.shift items.length) } := by
  have later : ((more.map Rule.ofJson).zipIdx items.length).filterMap rejected? =
      ((more.map Rule.ofJson).zipIdx.filterMap rejected?).map (·.shift items.length) := by
    rw [List.zipIdx_eq_map_add, List.filterMap_map, List.map_filterMap]
    exact congrArg (List.filterMap · _) (funext fun r => rejected?_add r.1 items.length r.2)
  simp only [ofItems, List.map_append, List.filterMap_append, List.zipIdx_append,
    List.length_map, Nat.zero_add, later]

/-- Every place of a batch is either good or bad, and it is good just if its value is a rule.  The
rules are what the values at the good places read as alone, and the malformed entries tell of the
values at the bad places, both in order, so that their numbers make up that of the batch.  A batch
behind another one adds its rules and its malformed entries to those of the first, with the places
moved on by the first one's length. -/
theorem batches_lose_and_invent_nothing (items : List Json) :
    let b := ofItems items
    ofJson (.arr items) = .ok b ∧
      (∃ good bad : List (Fin items.length),
        good.Pairwise (· < ·) ∧ bad.Pairwise (· < ·) ∧
          (good ++ bad).Perm (List.finRange items.length) ∧
          (∀ i, i ∈ good ↔ IsRule items[i]) ∧
          List.Forall₂ (fun i rule => Rule.ofJson items[i] = .ok rule) good b.rules ∧
          List.Forall₂ (fun i r => r.TellsOf i items[i]) bad b.rejected) ∧
      (b.rejected.map (·.index)).Pairwise (· < ·) ∧
      b.rules.length + b.rejected.length = items.length ∧
      ∀ more, ofItems (items ++ more) =
        { rules := b.rules ++ (ofItems more).rules
          rejected := b.rejected ++ (ofItems more).rejected.map (·.shift items.length) } := by
  intro b
  let reads (i : Fin items.length) : Bool := (accepted? (Rule.ofJson items[i])).isSome
  let places := List.finRange items.length
  let good := places.filter reads
  let bad := places.filter fun i => !reads i
  have increasing := List.pairwise_lt_finRange items.length
  have perm : (good ++ bad).Perm places := List.filter_append_perm reads places
  have rules : List.Forall₂ (fun i rule => accepted? (Rule.ofJson items[i]) = some rule)
      good b.rules := by
    rw [rules_ofItems]
    exact forall₂_filterMap _ places
  have rejected : List.Forall₂ (fun i r => r.TellsOf i items[i]) bad b.rejected := by
    have given := forall₂_filterMap (fun i => rejected? (Rule.ofJson items[i], i.val)) places
    simp only [isSome_rejected?] at given
    rw [rejected_ofItems]
    exact given.imp fun i r => tellsOf_of_rejected?
  have count : b.rules.length + b.rejected.length = items.length := by
    rw [← rules.length_eq, ← rejected.length_eq, ← List.length_append, perm.length_eq,
      List.length_finRange]
  refine ⟨ofJson_arr items, ⟨good, bad, increasing.filter _, increasing.filter _, perm,
    fun i => ?_, rules.imp fun i rule => accepted?_eq_some.1, rejected⟩, ?_, count,
    ofItems_append items⟩
  · rw [← isSome_accepted?]
    simp [good, places, reads]
  · rw [Rejected.map_index_of_tellsOf rejected, List.pairwise_map]
    exact increasing.filter _

/-- An entry that is none is told with its place, and with its id where it has one. -/
example :
    let rule (id : Int) (type : Text) : Json := .obj
      [("id", .int id), ("action", .obj [("type", .str type)]), ("condition", .obj [])]
    let b := ofItems [rule 1 "block", .str "nope", rule 2 "teleport", rule 3 "allow"]
    (b.rules.map (·.id), b.rejected.map fun r => (r.index, r.ruleId)) =
      ([1, 3], [(1, none), (2, some 2)]) := by
  decide +kernel

end Batch

end ContentBlocker
