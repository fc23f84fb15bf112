import ContentBlocker.Proofs.Lists
import ContentBlocker.Proofs.RuleList.Domains
import Mathlib.Data.List.FinRange

/-!
# Accounts of conversions

A conversion leaves out no rule and invents none: every place of a list of rules is that of one
entry or of one dropped id, and both follow the order of the places.
`conversions_account_for_every_rule` says which places are dropped, what stands for the others and
which of them are told to be weakened, and that two lists can be converted one after the other.
-/

namespace ContentBlocker.RuleList

/-! ## Rules and what stands for them -/

/-- No entry stands for a rule: it changes headers, or it names kinds of loads and none of them is
known. -/
def IsInexpressible (rule : Rule) : Prop :=
  rule.action.type = .modifyHeaders ∨
    rule.condition.resourceTypes.getD [] ≠ [] ∧
      ∀ word ∈ rule.condition.resourceTypes.getD [], ResourceType.named? word = none

/-- The words for actions that entries can have, each with the word for its effect. -/
def effectWords : List (String × String) :=
  [("block", "block"), ("allow", "ignore-previous-rules"),
    ("allowAllRequests", "ignore-previous-rules"), ("upgradeScheme", "make-https"),
    ("redirect", "block")]

/-- An entry has the trigger of a rule's condition, and the effect for its action. -/
structure Entry.StandsFor (e : Entry) (rule : Rule) : Prop where
  trigger : Trigger.ofCondition? rule.condition = some e.trigger
  effect : (rule.action.type.name, e.effect.name) ∈ effectWords

theorem Effect.ofAction?_words {action : ActionType} {effect : Effect}
    (given : ofAction? action = some effect) : (action.name, effect.name) ∈ effectWords := by
  cases action <;> cases given <;> decide

theorem Entry.standsFor {rule : Rule} {e : Entry} (converted : ofRule? rule = some e) :
    e.StandsFor rule := by
  unfold ofRule? at converted
  obtain ⟨effect, given, converted⟩ := Option.bind_eq_some_iff.1 converted
  obtain ⟨trigger, made, same⟩ := Option.bind_eq_some_iff.1 converted
  cases same
  exact ⟨made, Effect.ofAction?_words given⟩

namespace Conversion

/-! ## Conversions of families of rules -/

theorem weakens_eq (action : ActionType) : weakens action = decide (action = .redirect) := by
  cases action <;> rfl

section Family

variable {ι : Type} (rule : ι → Rule) (places : List ι)

theorem entries_ofRules :
    (ofRules (places.map rule)).entries = places.filterMap fun i => Entry.ofRule? (rule i) := by
  simp only [ofRules, List.map_map, List.filterMap_map]
  rfl

theorem dropped_ofRules :
    (ofRules (places.map rule)).dropped =
      (places.filter fun i => !(Entry.ofRule? (rule i)).isSome).map fun i => (rule i).id := by
  simp only [ofRules, List.map_map, List.filterMap_map]
  refine filterMap_eq_map_filter (fun i => ?_) places
  cases converted : Entry.ofRule? (rule i) <;> simp [droppedId?, converted]

theorem degraded_ofRules :
    (ofRules (places.map rule)).degraded =
      ((places.filter fun i => (Entry.ofRule? (rule i)).isSome).filter fun i =>
        (rule i).action.type = .redirect).map fun i => (rule i).id := by
  simp only [ofRules, List.map_map, List.filterMap_map, List.filter_filter]
  refine filterMap_eq_map_filter (fun i => ?_) places
  cases converted : Entry.ofRule? (rule i) <;> simp [degradedId?, converted, weakens_eq]

end Family

/-! ## Conversions of lists -/

theorem ofRules_append (rules more : List Rule) :
    ofRules (rules ++ more) =
      { entries := (ofRules rules).entries ++ (ofRules more).entries
        total := (ofRules rules).total + (ofRules more).total
        degraded := (ofRules rules).degraded ++ (ofRules more).degraded
        dropped := (ofRules rules).dropped ++ (ofRules more).dropped } := by
  simp only [ofRules, List.map_append, List.filterMap_append, List.length_append]

/-- Every rule is either kept or dropped. -/
theorem total_ofRules (rules : List Rule) :
    (ofRules rules).total = (ofRules rules).entries.length + (ofRules rules).dropped.length := by
  induction rules with
  | nil => rfl
  | cons rule rest ih =>
    cases converted : Entry.ofRule? rule <;>
    · simp only [ofRules, List.map_cons, List.filterMap_cons, converted, droppedId?,
        List.length_cons] at ih ⊢
      omega

/-- Every place of a list of rules is either kept or lost.  The entries stand for the rules at the
kept places, the dropped ids are those at the lost places, both in order, so that their numbers
make up the total; a place is lost just if no entry can stand for its rule; and the degraded ids are
those of the redirections among the kept ones.  A list behind another one adds its entries, its ids
and its total to those of the first. -/
theorem conversions_account_for_every_rule (rules : List Rule) :
    let c := ofRules rules
    (∃ kept lost : List (Fin rules.length),
      kept.Pairwise (· < ·) ∧ lost.Pairwise (· < ·) ∧
        (kept ++ lost).Perm (List.finRange rules.length) ∧
        (∀ i, i ∈ lost ↔ IsInexpressible rules[i]) ∧
        List.Forall₂ (fun i e => e.StandsFor rules[i]) kept c.entries ∧
        c.dropped = lost.map (rules[·].id) ∧
        c.degraded = (kept.filter (rules[·].action.type = .redirect)).map (rules[·].id)) ∧
      c.total = rules.length ∧ c.total = c.entries.length + c.dropped.length ∧
      ∀ more, ofRules (rules ++ more) =
        { entries := c.entries ++ (ofRules more).entries
          total := c.total + (ofRules more).total
          degraded := c.degraded ++ (ofRules more).degraded
          dropped := c.dropped ++ (ofRules more).dropped } := by
  intro c
  let converts (i : Fin rules.length) : Bool := (Entry.ofRule? rules[i]).isSome
  let places := List.finRange rules.length
  have family : c = ofRules (places.map (rules[·])) :=
    congrArg ofRules (List.map_getElem_finRange rules).symm
  have perm : (places.filter converts ++ places.filter fun i => !converts i).Perm places :=
    List.filter_append_perm converts places
  have stand : List.Forall₂ (fun i e => Entry.ofRule? rules[i] = some e)
      (places.filter converts) c.entries := by
    rw [family, entries_ofRules]
    exact forall₂_filterMap _ places
  have dropped : c.dropped = (places.filter fun i => !converts i).map (rules[·].id) := by
    rw [family, dropped_ofRules]
  have count : c.entries.length + c.dropped.length = rules.length := by
    rw [← stand.length_eq, dropped, List.length_map, ← List.length_append, perm.length_eq,
      List.length_finRange]
  have increasing := List.pairwise_lt_finRange rules.length
  refine ⟨⟨places.filter converts, places.filter fun i => !converts i, increasing.filter _,
    increasing.filter _, perm, fun i => ?_, ?_, dropped, ?_⟩, rfl, count.symm,
    ofRules_append rules⟩
  · rw [IsInexpressible, ← Entry.ofRule?_eq_none, List.mem_filter]
    simp [places, converts]
  · exact stand.imp fun i e => Entry.standsFor
  · rw [family, degraded_ofRules]

/-- Rules under one id are accounted for one by one. -/
example :
    let rule (type : ActionType) (types : Option (List Text)) : Rule :=
      ⟨1, none, .withType [] type, { Condition.ofFields [] with resourceTypes := types }⟩
    let c := ofRules
      [rule .redirect none, rule .modifyHeaders none, rule .redirect (some ["webbundle"]),
        rule .redirect (some []), rule .block none]
    (c.entries.length, c.total, c.degraded, c.dropped) = (3, 5, [1, 1], [1, 1]) := by
  decide +kernel

end Conversion

end ContentBlocker.RuleList
