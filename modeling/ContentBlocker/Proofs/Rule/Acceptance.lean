import ContentBlocker.Proofs.Computations
import ContentBlocker.Proofs.Json.Kinds
import ContentBlocker.Rule.Reading
import Mathlib.Logic.Relation

/-!
# What makes a value a rule

A value is a rule by its id, the type of its action and its having a condition (`IsRule`), and by
nothing else: `rules_are_told_by_required_fields` says so of the values that are accepted, and of
the faults of those that are not, which stay what they are whatever is put in the other fields.
-/

namespace ContentBlocker

/-! ## Rules -/

/-- The words for the types of actions. -/
def actionWords : List String :=
  ["block", "allow", "allowAllRequests", "upgradeScheme", "redirect", "modifyHeaders"]

/-- A value with the fields that a rule must have. -/
structure IsRule (v : Json) : Prop where
  id : ∃ id, v.get? "id" = some id ∧ id.IsInteger
  action : ∃ action type, v.get? "action" = some action ∧ action.get? "type" = some type ∧
    type.IsWordOf actionWords
  condition : ∃ condition, v.get? "condition" = some condition ∧ condition.IsObject

/-! ## Readings that succeed -/

theorem Fields.str?_eq_some {fields : Fields} {key s : Text} :
    fields.str? key = some s ↔ fields.get? key = some (.str s) := by
  constructor
  · intro read
    obtain ⟨a, here, text⟩ := Option.bind_eq_some_iff.1 read
    rw [here, Json.str_of_str? text]
  · intro here
    rw [str?, here]
    rfl

theorem ActionType.named?_eq_some {type : ActionType} {s : Text} :
    named? s = some type ↔ s = type.name := by
  constructor
  · intro found
    simpa [eq_comm] using List.find?_some found
  · rintro rfl
    exact named?_name type

theorem ActionType.name_mem (type : ActionType) : type.name ∈ actionWords := by
  cases type <;> decide

theorem ActionType.exists_name {word : String} (known : word ∈ actionWords) :
    ∃ type : ActionType, type.name = word := by
  have all : actionWords = all.map name := rfl
  obtain ⟨type, -, named⟩ := List.mem_map.1 (all ▸ known)
  exact ⟨type, named⟩

theorem ActionType.ofField_ok {fields : Fields} {type : ActionType} :
    ofField fields = .ok type ↔ fields.get? "type" = some (.str type.name) := by
  unfold ofField
  constructor
  · intro read
    split at read
    · cases read
    · rename_i found here
      split at read
      · cases read
      · rename_i t named
        cases read
        rw [Fields.str?_eq_some.1 here, named?_eq_some.1 named]
  · intro here
    rw [Fields.str?_eq_some.2 here]
    dsimp only
    rw [named?_name]

theorem Action.ofJson_ok {v : Json} {a : Action} :
    ofJson v = .ok a ↔
      ∃ fields : Fields, v = .obj fields ∧ fields.get? "type" = some (.str a.type.name) ∧
        a = withType fields a.type := by
  cases v with
  | obj fields =>
    simp only [ofJson, map_eq_ok, ActionType.ofField_ok, Json.obj.injEq, exists_eq_left']
    constructor
    · rintro ⟨type, here, rfl⟩
      exact ⟨here, rfl⟩
    · rintro ⟨here, same⟩
      exact ⟨a.type, here, same.symm⟩
  | null | bool | int | float | str | arr => simp [ofJson]

theorem Action.exists_ofJson_ok {v : Json} :
    (∃ a, ofJson v = .ok a) ↔ ∃ type, v.get? "type" = some type ∧ type.IsWordOf actionWords := by
  constructor
  · rintro ⟨a, read⟩
    obtain ⟨fields, rfl, here, -⟩ := ofJson_ok.1 read
    exact ⟨_, here, _, a.type.name_mem, rfl⟩
  · rintro ⟨_, has, word, known, rfl⟩
    obtain ⟨fields, rfl, here⟩ := Json.obj_of_get? has
    obtain ⟨type, rfl⟩ := ActionType.exists_name known
    exact ⟨withType fields type, ofJson_ok.2 ⟨fields, rfl, here, rfl⟩⟩

theorem Condition.ofJson_ok {v : Json} {c : Condition} :
    ofJson v = .ok c ↔ ∃ fields, v = .obj fields ∧ c = ofFields fields := by
  cases v with
  | obj fields => simpa [ofJson] using eq_comm
  | null | bool | int | float | str | arr => simp [ofJson]

theorem Condition.exists_ofJson_ok {v : Json} : (∃ c, ofJson v = .ok c) ↔ v.IsObject := by
  simp only [ofJson_ok, Json.IsObject]
  constructor
  · rintro ⟨-, fields, same, -⟩
    exact ⟨fields, same⟩
  · rintro ⟨fields, same⟩
    exact ⟨_, fields, same, rfl⟩

namespace Rule

variable {v w : Json} {fields : Fields} {id : Int} {rule : Rule}

theorem idOf_ok : idOf fields = .ok id ↔ fields.get? "id" = some (.int id) := by
  unfold idOf
  cases fields.get? "id" with
  | none => simp
  | some v => cases v <;> simp

theorem withId_ok :
    withId id fields = .ok rule ↔
      rule.id = id ∧ (∃ a, fields.get? "action" = some a ∧ Action.ofJson a = .ok rule.action) ∧
        (∃ c, fields.get? "condition" = some c ∧ Condition.ofJson c = .ok rule.condition) ∧
        rule.priority = fields.int? "priority" := by
  unfold withId
  cases fields.get? "condition" with
  | none => simp
  | some c =>
    cases fields.get? "action" with
    | none => simp [Action.ofJson]
    | some a =>
      simp only [Option.getD_some, Option.some.injEq, exists_eq_left']
      cases Action.ofJson a with
      | error fault => simp
      | ok action =>
        cases Condition.ofJson c with
        | error fault => simp
        | ok condition =>
          obtain ⟨id', priority, action', condition'⟩ := rule
          simp only [Except.ok.injEq, mk.injEq]
          constructor
          · rintro ⟨rfl, rfl, rfl, rfl⟩
            exact ⟨rfl, rfl, rfl, rfl⟩
          · rintro ⟨rfl, rfl, rfl, rfl⟩
            exact ⟨rfl, rfl, rfl, rfl⟩

/-- What is read of a rule, field by field. -/
theorem ofJson_ok :
    ofJson v = .ok rule ↔
      v.get? "id" = some (.int rule.id) ∧
        (∃ a, v.get? "action" = some a ∧ Action.ofJson a = .ok rule.action) ∧
        (∃ c, v.get? "condition" = some c ∧ Condition.ofJson c = .ok rule.condition) ∧
        rule.priority = (v.get? "priority").bind Json.int? := by
  cases v with
  | obj fields =>
    simp only [ofJson, Json.get?_obj]
    constructor
    · intro read
      split at read
      · cases read
      · rename_i id known
        obtain ⟨rfl, rest⟩ := withId_ok.1 read
        exact ⟨idOf_ok.1 known, rest⟩
    · rintro ⟨known, rest⟩
      rw [idOf_ok.2 known]
      exact withId_ok.2 ⟨rfl, rest⟩
  | null | bool | int | float | str | arr => simp [ofJson, Json.get?, Json.obj?]

theorem exists_ofJson_ok : (∃ rule, ofJson v = .ok rule) ↔ IsRule v := by
  constructor
  · rintro ⟨rule, read⟩
    obtain ⟨id, ⟨a, hasAction, readAction⟩, ⟨c, hasCondition, readCondition⟩, -⟩ := ofJson_ok.1 read
    obtain ⟨type, hasType, known⟩ := Action.exists_ofJson_ok.1 ⟨_, readAction⟩
    exact ⟨⟨_, id, _, rfl⟩, ⟨a, type, hasAction, hasType, known⟩,
      ⟨c, hasCondition, Condition.exists_ofJson_ok.1 ⟨_, readCondition⟩⟩⟩
  · rintro ⟨⟨_, hasId, id, rfl⟩, ⟨a, type, hasAction, hasType, known⟩, ⟨c, hasCondition, object⟩⟩
    obtain ⟨action, readAction⟩ := Action.exists_ofJson_ok.2 ⟨type, hasType, known⟩
    obtain ⟨condition, readCondition⟩ := Condition.exists_ofJson_ok.2 object
    exact ⟨⟨id, (v.get? "priority").bind Json.int?, action, condition⟩, ofJson_ok.2
      ⟨hasId, ⟨a, hasAction, readAction⟩, ⟨c, hasCondition, readCondition⟩, rfl⟩⟩

/-! ## Readings that fail -/

theorem ruleId_of_withId_error {fault : RuleFault} (failed : withId id fields = .error fault) :
    fault.ruleId = some id := by
  unfold withId at failed
  split at failed
  · cases failed
    rfl
  · split at failed
    · cases failed
      rfl
    · split at failed
      · cases failed
        rfl
      · cases failed

theorem ruleId_of_idOf_error {fault : RuleFault} (failed : idOf fields = .error fault) :
    fault.ruleId = none ∧ (fields.get? "id").bind Json.int? = none := by
  unfold idOf at failed
  cases has : fields.get? "id" with
  | none =>
    rw [has] at failed
    cases failed
    exact ⟨rfl, rfl⟩
  | some a =>
    rw [has] at failed
    cases a <;> cases failed <;> exact ⟨rfl, rfl⟩

/-- A fault carries the id of the value, if that has a whole number for an id. -/
theorem ruleId_of_error {fault : RuleFault} (failed : ofJson v = .error fault) :
    fault.ruleId = (v.get? "id").bind Json.int? := by
  cases v with
  | obj fields =>
    simp only [ofJson] at failed
    split at failed
    · rename_i found unknown
      cases failed
      obtain ⟨none, absent⟩ := ruleId_of_idOf_error unknown
      rw [none, Json.get?_obj, absent]
    · rename_i id known
      rw [ruleId_of_withId_error failed, Json.get?_obj, idOf_ok.1 known]
      rfl
  | null | bool | int | float | str | arr =>
    cases failed
    rfl

end Rule

/-! ## Changes of other fields -/

/-- A change of one field of an object. -/
inductive FieldEdit where
  | set (key : Text) (value : Json)
  | erase (key : Text)

namespace FieldEdit

def key : FieldEdit → Text
  | set key _ | erase key => key

def apply (fields : Fields) : FieldEdit → Fields
  | set key value => fields.set key value
  | erase key => fields.erase key

theorem get?_apply (edit : FieldEdit) (fields : Fields) {key : Text} (other : edit.key ≠ key) :
    (edit.apply fields).get? key = fields.get? key := by
  cases edit with
  | set k value => exact (Table.get?_set ..).trans (if_neg other)
  | erase k => exact (Table.get?_erase ..).trans (if_neg other)

end FieldEdit

/-- A field is added to a value, removed from it or given another value: one that rules need not
have, in the value itself, in its action or in its condition. -/
inductive OptionalEdit : Json → Json → Prop
  | inRule {fields : Fields} (edit : FieldEdit)
    (optional : edit.key ∉ (["id", "action", "condition"] : List Text)) :
    OptionalEdit (.obj fields) (.obj (edit.apply fields))
  | inAction {fields action : Fields} (here : fields.get? "action" = some (.obj action))
    (edit : FieldEdit) (optional : edit.key ≠ "type") :
    OptionalEdit (.obj fields) (.obj (fields.set "action" (.obj (edit.apply action))))
  | inCondition {fields condition : Fields}
    (here : fields.get? "condition" = some (.obj condition)) (edit : FieldEdit) :
    OptionalEdit (.obj fields) (.obj (fields.set "condition" (.obj (edit.apply condition))))

/-- How a reading ends: well, or with a fault. -/
def ending {ε α : Type} (reading : Except ε α) : Except ε Unit := reading.map fun _ => ()

theorem ending_map {ε α β : Type} (reading : Except ε α) (f : α → β) :
    ending (reading.map f) = ending reading := by
  cases reading <;> rfl

theorem Action.ending_ofJson {fields fields' : Fields}
    (same : fields'.get? "type" = fields.get? "type") :
    ending (ofJson (.obj fields')) = ending (ofJson (.obj fields)) := by
  have type : ActionType.ofField fields' = ActionType.ofField fields := by
    rw [ActionType.ofField, ActionType.ofField, Fields.str?, Fields.str?, same]
  rw [ofJson, ofJson, ending_map, ending_map, type]

namespace Rule

variable {v w : Json} {fields fields' : Fields}

/-- A reading with a known id ends as those of the action and the condition do. -/
theorem ending_withId (id : Int) (fields : Fields) :
    ending (withId id fields) =
      match (fields.get? "condition").map fun c => ending (Condition.ofJson c),
        ending (Action.ofJson ((fields.get? "action").getD .null)) with
      | none, _ => .error (.conditionMissing id)
      | some _, .error fault => .error (.action id fault)
      | some (.error fault), .ok () => .error (.condition id fault)
      | some (.ok ()), .ok () => .ok () := by
  unfold withId
  cases fields.get? "condition" with
  | none => rfl
  | some c =>
    cases Action.ofJson ((fields.get? "action").getD .null) with
    | error fault => rfl
    | ok action => cases found : Condition.ofJson c <;> simp [ending, found, Except.map]

theorem ending_ofJson_congr (id : fields'.get? "id" = fields.get? "id")
    (action : ending (Action.ofJson ((fields'.get? "action").getD .null)) =
      ending (Action.ofJson ((fields.get? "action").getD .null)))
    (condition : (fields'.get? "condition").map (fun c => ending (Condition.ofJson c)) =
      (fields.get? "condition").map fun c => ending (Condition.ofJson c)) :
    ending (ofJson (.obj fields')) = ending (ofJson (.obj fields)) := by
  have known : idOf fields' = idOf fields := by rw [idOf, idOf, id]
  rw [ofJson, ofJson, known]
  cases idOf fields with
  | error fault => rfl
  | ok id =>
    dsimp only
    rw [ending_withId, ending_withId, action, condition]

theorem ending_of_edit (edit : OptionalEdit v w) : ending (ofJson w) = ending (ofJson v) := by
  cases edit with
  | inRule edit optional =>
    have other {key : Text} (required : key ∈ (["id", "action", "condition"] : List Text)) :
        edit.key ≠ key := fun same => optional (same ▸ required)
    refine ending_ofJson_congr (edit.get?_apply _ (other (by simp))) ?_ ?_
    · rw [edit.get?_apply _ (other (by simp))]
    · rw [edit.get?_apply _ (other (by simp))]
  | @inAction fields action here edit optional =>
    have others {key : Text} (other : "action" ≠ key) :
        (fields.set "action" (.obj (edit.apply action))).get? key = fields.get? key :=
      (Table.get?_set ..).trans (if_neg other)
    refine ending_ofJson_congr (others (by decide)) ?_ (by rw [others (by decide)])
    rw [Table.get?_set, if_pos rfl, here]
    exact Action.ending_ofJson (edit.get?_apply action optional)
  | @inCondition fields condition here edit =>
    have others {key : Text} (other : "condition" ≠ key) :
        (fields.set "condition" (.obj (edit.apply condition))).get? key = fields.get? key :=
      (Table.get?_set ..).trans (if_neg other)
    refine ending_ofJson_congr (others (by decide)) (by rw [others (by decide)]) ?_
    rw [Table.get?_set, if_pos rfl, here]
    rfl

theorem ending_of_edits (edits : Relation.ReflTransGen OptionalEdit v w) :
    ending (ofJson w) = ending (ofJson v) := by
  induction edits with
  | refl => rfl
  | tail _ edit ih => exact (ending_of_edit edit).trans ih

/-- A value is read as a rule just if it has the fields that a rule must have; any other value is
refused, and the fault carries its id if that is a whole number.  Changes of other fields, in the
value, in its action and in its condition, never make a rule of what is none or the reverse, nor
another fault. -/
theorem rules_are_told_by_required_fields (v : Json) :
    ((∃ rule, ofJson v = .ok rule) ↔ IsRule v) ∧
      (¬ IsRule v → ∃ fault, ofJson v = .error fault ∧
        fault.ruleId = (v.get? "id").bind Json.int?) ∧
      ∀ w, Relation.ReflTransGen OptionalEdit v w → ending (ofJson w) = ending (ofJson v) := by
  refine ⟨exists_ofJson_ok, fun none => ?_, fun w => ending_of_edits⟩
  cases read : ofJson v with
  | ok rule => exact absurd (exists_ofJson_ok.1 ⟨rule, read⟩) none
  | error fault => exact ⟨fault, rfl, ruleId_of_error read⟩

/-- The type of an action that is unknown is told with the id of the rule, whatever else is put into
the value. -/
theorem unknown_type_is_told :
    let v : Json := .obj [("id", .int 7), ("action", .obj [("type", .str "teleport")]),
      ("condition", .obj [("urlFilter", .int 42)])]
    let w : Json := .obj
      [("id", .int 7), ("action", .obj [("type", .str "teleport"), ("redirect", .bool true)]),
        ("condition", .obj []), ("priority", .str "5")]
    ¬ IsRule v ∧ Relation.ReflTransGen OptionalEdit v w ∧
      (∃ fault, ofJson v = .error fault ∧ fault.ruleId = some 7) ∧
      ending (ofJson w) = ending (ofJson v) := by
  intro v w
  obtain ⟨accepted, refused, edited⟩ := rules_are_told_by_required_fields v
  have none : ¬ IsRule v := by
    rw [← accepted]
    rintro ⟨rule, read⟩
    cases read
  have edits : Relation.ReflTransGen OptionalEdit v w :=
    .tail (.tail (.single
      (@OptionalEdit.inAction _ [("type", .str "teleport")] rfl (.set "redirect" (.bool true))
        (by decide)))
      (@OptionalEdit.inCondition _ [("urlFilter", .int 42)] rfl (.erase "urlFilter")))
      (.inRule (.set "priority" (.str "5")) (by decide))
  exact ⟨none, edits, refused none, edited w edits⟩

end Rule

end ContentBlocker
