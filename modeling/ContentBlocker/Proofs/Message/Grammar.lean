import ContentBlocker.Message.Request
import ContentBlocker.Proofs.Computations
import ContentBlocker.Proofs.Json.Kinds

/-!
# The grammar of messages

What a client may send, without the order in which it is checked: `IsMessage` is a body with its
sender and its method.  `ofMessage_ok` says that these messages are read and no others, and
`Method.asks` what is read from them.
-/

namespace ContentBlocker

/-! ## Values -/

namespace Json

/-- A list of values of one kind, or null. -/
def IsListOf (kind : Json → Prop) (v : Json) : Prop :=
  v = .null ∨ ∃ items, v = .arr items ∧ ∀ item ∈ items, kind item

/-- The items of a list; null has none. -/
def items : Json → List Json
  | .arr items => items
  | _ => []

/-- Null, or an object of lists: it has no other keys than those of the lists, and under each of
them a list of its kind, or null. -/
def IsObjectOf (lists : List (String × (Json → Prop))) (v : Json) : Prop :=
  v = .null ∨ (∃ fields, v = .obj fields ∧ ∀ key ∈ Table.keys fields, ∃ l ∈ lists, key = l.1) ∧
    ∀ l ∈ lists, (v.field l.1).IsListOf l.2

@[simp] theorem isListOf_null (kind : Json → Prop) : IsListOf kind .null := .inl rfl

@[simp] theorem isListOf_arr {kind : Json → Prop} {items : List Json} :
    IsListOf kind (.arr items) ↔ ∀ item ∈ items, kind item := by
  simp [IsListOf]

theorem isObjectOf_obj {lists : List (String × (Json → Prop))} {fields : Fields} :
    IsObjectOf lists (.obj fields) ↔
      (∀ key ∈ fields.keys, ∃ l ∈ lists, key = l.1) ∧
        ∀ l ∈ lists, ((Json.obj fields).field l.1).IsListOf l.2 := by
  simp [IsObjectOf]

/-- Null has no lists, and so null under their keys. -/
theorem IsObjectOf.fields {key key' : String} {kind kind' : Json → Prop} {v : Json}
    (h : v.IsObjectOf [(key, kind), (key', kind')]) :
    (v.field key).IsListOf kind ∧ (v.field key').IsListOf kind' := by
  rcases h with rfl | ⟨-, lists⟩
  · exact ⟨.inl rfl, .inl rfl⟩
  · simpa using lists

end Json

/-! ## Messages -/

/-- The options that a method takes. -/
def Method.Takes : Method → Json → Prop
  | .getTier _, options | .getEnabledRulesets, options => options = .null ∨ options = .obj []
  | .updateTier _, options =>
    options.IsObjectOf [("addRules", Json.IsObject), ("removeRuleIds", Json.IsInteger)]
  | .updateEnabledRulesets, options =>
    options.IsObjectOf [("enableRulesetIds", Json.IsText), ("disableRulesetIds", Json.IsText)]

/-- A message of a client that names a method and has options that the method takes. -/
structure IsMessage (client : Option String) (body : Json) (who : String) (method : Method) :
    Prop where
  object : ∃ fields, body = .obj fields ∧
    ∀ key ∈ Table.keys fields, key = "method" ∨ key = "options"
  names : body.field "method" = .str method.name
  sender : client = some who
  filled : Text.isAllBlank who = false
  takes : method.Takes (body.field "options")

/-- What a method asks for with its options. -/
def Method.asks : Method → Json → Request
  | .updateTier tier, options =>
    .updateTier tier (options.field "addRules").items
      ((options.field "removeRuleIds").items.filterMap Json.int?)
  | .getTier tier, _ => .getTier tier
  | .getEnabledRulesets, _ => .getEnabledRulesets
  | .updateEnabledRulesets, options =>
    .updateEnabledRulesets ((options.field "enableRulesetIds").items.filterMap Json.str?)
      ((options.field "disableRulesetIds").items.filterMap Json.str?)

/-! ## Options -/

theorem firstUnknown?_eq_none {known keys : List Text} :
    firstUnknown? known keys = none ↔ ∀ key ∈ keys, key ∈ known := by
  have sorted (l : List Text) : l.mergeSort Text.notAfter = [] ↔ l = [] := by
    rw [← List.length_eq_zero_iff, List.length_mergeSort, List.length_eq_zero_iff]
  simp [firstUnknown?, List.head?_eq_none_iff, sorted, List.filter_eq_nil_iff]

theorem ListOption.read_ok {method : String} {fields : Fields} {o : ListOption}
    {found : String × List Json} :
    o.read method fields = .ok found ↔
      ((Json.obj fields).field o.name).IsListOf (o.accepts · = true) ∧
        found = (o.name, ((Json.obj fields).field o.name).items) := by
  have value : (Json.obj fields).field o.name = (fields.get? o.name).getD .null := rfl
  unfold read
  rw [value]
  cases (fields.get? o.name).getD .null with
  | null => simpa [Json.items] using eq_comm
  | arr items =>
    rw [Json.isListOf_arr, ← List.all_eq_true]
    dsimp only
    split
    · rename_i all
      simpa [Json.items, all] using eq_comm
    · rename_i some
      simp [some]
  | bool | int | float | str | obj => simp [Json.IsListOf]

/-- Options are read if they are of the lists that a method knows. -/
theorem readOptions_ok {method : String} {known : List ListOption} {options : Json}
    {found : Table String (List Json)} :
    readOptions method known options = .ok found ↔
      options.IsObjectOf (known.map fun o => (o.name, (o.accepts · = true))) ∧
        found = known.map fun o => (o.name, (options.field o.name).items) := by
  have row (fields : Fields) : known.mapM (·.read method fields) = .ok found ↔
      (∀ o ∈ known, ((Json.obj fields).field o.name).IsListOf (o.accepts · = true)) ∧
        found = known.map fun o => (o.name, ((Json.obj fields).field o.name).items) :=
    mapM_eq_ok fun _ _ => ListOption.read_ok
  cases options with
  | null =>
    -- null is read as an object without fields
    have none : ∀ o ∈ known, ((Json.obj []).field o.name).IsListOf (o.accepts · = true) :=
      fun _ _ => .inl rfl
    show known.mapM (·.read method []) = .ok found ↔ _
    rw [row []]
    exact ⟨fun h => ⟨.inl rfl, h.2⟩, fun h => ⟨none, h.2⟩⟩
  | obj fields =>
    have keys : firstUnknown? (known.map fun o => ↑o.name) (Table.keys fields) = none ↔
        ∀ key ∈ Table.keys fields,
          ∃ l ∈ known.map fun o => (o.name, (o.accepts · = true)), key = Text.ofString l.1 := by
      refine firstUnknown?_eq_none.trans (forall₂_congr fun key _ => ?_)
      simp only [List.mem_map, exists_exists_and_eq_and]
      exact exists_congr fun o => and_congr_right fun _ => eq_comm
    rw [Json.isObjectOf_obj, ← keys, List.forall_mem_map]
    unfold readOptions
    dsimp only
    split
    · rename_i key unknown
      simp [unknown]
    · rename_i allKnown
      simpa [allKnown] using row fields
  | bool | int | float | str | arr => simp [readOptions, Json.IsObjectOf]

/-! ## Requests -/

theorem Method.name_ne_empty (method : Method) : (Text.ofString method.name).isEmpty = false := by
  rcases method with tier | tier | _ | _ <;> (try cases tier) <;> decide

theorem Method.named?_eq_some {method : Method} {s : Text} :
    Method.named? s = some method ↔ s = method.name := by
  constructor
  · intro found
    simpa [eq_comm] using List.find?_some found
  · rintro rfl
    exact Method.named?_name method

namespace Request

variable {client : Option String} {who : String} {method : Method} {body options : Json}
  {request : Request}

theorem withoutOptions_ok {name : String} {r : Request} :
    withoutOptions name options r = .ok request ↔
      (options = .null ∨ options = .obj []) ∧ request = r := by
  unfold withoutOptions
  split
  · simpa using eq_comm
  · simpa using eq_comm
  · rename_i other empty
    have neither : ¬ (options = .null ∨ options = .obj []) := fun h => h.elim other empty
    simp [neither]

/-- Options are read if the method takes them. -/
theorem ofOptions_ok :
    ofOptions method options = .ok request ↔
      method.Takes options ∧ request = method.asks options := by
  have rules : ruleOptions.map (fun o => (o.name, (o.accepts · = true))) =
      [("addRules", Json.IsObject), ("removeRuleIds", Json.IsInteger)] := by
    simp [ruleOptions, Json.isSome_obj?, Json.isSome_int?]
  have rulesets : rulesetOptions.map (fun o => (o.name, (o.accepts · = true))) =
      [("enableRulesetIds", Json.IsText), ("disableRulesetIds", Json.IsText)] := by
    simp [rulesetOptions, Json.isSome_str?]
  cases method with
  | updateTier tier =>
    simp only [ofOptions, map_eq_ok, readOptions_ok, rules]
    constructor
    · rintro ⟨_, ⟨fits, rfl⟩, rfl⟩
      exact ⟨fits, rfl⟩
    · rintro ⟨fits, rfl⟩
      exact ⟨_, ⟨fits, rfl⟩, rfl⟩
  | updateEnabledRulesets =>
    simp only [ofOptions, map_eq_ok, readOptions_ok, rulesets]
    constructor
    · rintro ⟨_, ⟨fits, rfl⟩, rfl⟩
      exact ⟨fits, rfl⟩
    · rintro ⟨fits, rfl⟩
      exact ⟨_, ⟨fits, rfl⟩, rfl⟩
  | getTier | getEnabledRulesets => exact withoutOptions_ok

theorem methodOf_ok {fields : Fields} :
    methodOf fields = .ok method ↔ fields.get? "method" = some (.str method.name) := by
  unfold methodOf
  split
  · rename_i name found
    rw [found, Option.some.injEq, Json.str.injEq, ← Method.named?_eq_some]
    split
    · rename_i empty
      have unnamed : Method.named? name ≠ some method := by
        intro named
        rw [Method.named?_eq_some.1 named, method.name_ne_empty] at empty
        cases empty
      simp [unnamed]
    · split
      · rename_i m named
        simp [named]
      · rename_i unknown
        simp [unknown]
  · rename_i other
    have unnamed : fields.get? "method" ≠ some (.str method.name) := other _
    simp [unnamed]

theorem clientOf_ok :
    clientOf client = .ok who ↔ client = some who ∧ Text.isAllBlank who = false := by
  cases client with
  | none => simp [clientOf]
  | some c =>
    rw [Option.some.injEq]
    by_cases blank : Text.isAllBlank c
    · simp only [clientOf, blank, if_true]
      constructor
      · rintro ⟨⟩
      · rintro ⟨rfl, filled⟩
        cases blank.symm.trans filled
    · rw [clientOf, if_neg blank, Except.ok.injEq]
      exact ⟨fun same => ⟨same, same ▸ Bool.eq_false_iff.2 blank⟩, And.left⟩

/-- What is read of a message is what the method asks for that it names. -/
theorem ofMessage_ok :
    ofMessage client body = .ok (who, request) ↔
      ∃ method, IsMessage client body who method ∧
        request = method.asks (body.field "options") := by
  have keys {fields : Fields} :
      firstUnknown? ["method", "options"] (Table.keys fields) = none ↔
        ∀ key ∈ Table.keys fields, key = "method" ∨ key = "options" := by
    simp [firstUnknown?_eq_none]
  constructor
  · intro read
    cases body with
    | obj fields =>
      change ofFields client fields = .ok (who, request) at read
      unfold ofFields at read
      split at read
      · cases read
      · rename_i known
        obtain ⟨method, named, read⟩ := bind_eq_ok.1 read
        obtain ⟨sender, sent, read⟩ := bind_eq_ok.1 read
        obtain ⟨asked, taken, read⟩ := bind_eq_ok.1 read
        cases read
        obtain ⟨rfl, filled⟩ := clientOf_ok.1 sent
        obtain ⟨takes, rfl⟩ := ofOptions_ok.1 taken
        have names := Json.field_eq_str.2 (methodOf_ok.1 named)
        exact ⟨method, ⟨⟨fields, rfl, keys.1 known⟩, names, rfl, filled, takes⟩, rfl⟩
    | null | bool | int | float | str | arr => cases read
  · rintro ⟨method, ⟨⟨fields, rfl, known⟩, names, rfl, filled, takes⟩, rfl⟩
    show ofFields (some who) fields = _
    unfold ofFields
    rw [keys.2 known]
    refine bind_eq_ok.2 ⟨method, methodOf_ok.2 (Json.field_eq_str.1 names), ?_⟩
    refine bind_eq_ok.2 ⟨who, clientOf_ok.2 ⟨rfl, filled⟩, ?_⟩
    exact bind_eq_ok.2 ⟨_, ofOptions_ok.2 ⟨takes, rfl⟩, rfl⟩

end Request

end ContentBlocker
