import ContentBlocker.Proofs.Rule.RoundTrip

/-!
# Written rules as projections

What is written of a rule is a projection of the value that it was read from: the fields that are
known, as far as their values are of the required kind, with these values as they are.  `Projects`
says what a projection is, from a table of known fields, and `written_rules_are_projections` that
reading and writing a rule make one, which is read and written as it is.
-/

namespace ContentBlocker

/-! ## Projections -/

/-- A field that is known. -/
structure Known where
  key : String
  /-- the values that count -/
  counts : Json → Prop
  /-- what is written of a value that counts -/
  writes : Json → Json → Prop

namespace Known

/-- A field whose value is written as it is. -/
def whole (key : String) (kind : Json → Prop) : Known := ⟨key, kind, fun a b => b = a⟩

/-- What is left of a field: something just where there was a value that counts, and then what is
written of it. -/
structure Leaves (f : Known) (before after : Option Json) : Prop where
  isSome_iff : after.isSome ↔ ∃ a, before = some a ∧ f.counts a
  writes : ∀ a b, before = some a → after = some b → f.writes a b

end Known

/-- An object that has known fields alone, each once, with what is left of those of a value. -/
structure Projects (known : List Known) (v w : Json) : Prop where
  object : ∃ fields, w = .obj fields ∧ (Table.keys fields).Nodup ∧
    ∀ key ∈ Table.keys fields, ∃ f ∈ known, key = f.key
  field : ∀ f ∈ known, f.Leaves (v.get? f.key) (w.get? f.key)

/-! ## The fields of rules -/

def redirectFields : List Known :=
  [.whole "url" Json.IsText, .whole "extensionPath" Json.IsText, .whole "transform" Json.IsObject,
    .whole "regexSubstitution" Json.IsText]

def headerFields : List Known :=
  [.whole "header" Json.IsText, .whole "operation" Json.IsText, .whole "value" Json.IsText]

/-- An entry with a header and an operation. -/
def IsHeaderChange (v : Json) : Prop :=
  (∃ a, v.get? "header" = some a ∧ a.IsText) ∧ ∃ a, v.get? "operation" = some a ∧ a.IsText

/-- What is written of a list of header changes: the entries that are some, in order. -/
inductive WritesChanges : List Json → List Json → Prop
  | nil : WritesChanges [] []
  | keep {v w : Json} {vs ws : List Json} :
    IsHeaderChange v → Projects headerFields v w → WritesChanges vs ws →
      WritesChanges (v :: vs) (w :: ws)
  | skip {v : Json} {vs ws : List Json} :
    ¬ IsHeaderChange v → WritesChanges vs ws → WritesChanges (v :: vs) ws

/-- A field that lists header changes. -/
def headers (key : String) : Known :=
  ⟨key, Json.IsArray, fun a b => ∃ vs ws, a = .arr vs ∧ b = .arr ws ∧ WritesChanges vs ws⟩

def actionFields : List Known :=
  [.whole "type" (Json.IsWordOf actionWords), ⟨"redirect", Json.IsObject, Projects redirectFields⟩,
    headers "requestHeaders", headers "responseHeaders"]

def conditionFields : List Known :=
  [.whole "urlFilter" Json.IsText, .whole "regexFilter" Json.IsText,
    .whole "isUrlFilterCaseSensitive" Json.IsBool,
    .whole "initiatorDomains" (Json.IsArrayOf Json.IsText),
    .whole "excludedInitiatorDomains" (Json.IsArrayOf Json.IsText),
    .whole "requestDomains" (Json.IsArrayOf Json.IsText),
    .whole "excludedRequestDomains" (Json.IsArrayOf Json.IsText),
    .whole "domains" (Json.IsArrayOf Json.IsText),
    .whole "excludedDomains" (Json.IsArrayOf Json.IsText),
    .whole "resourceTypes" (Json.IsArrayOf Json.IsText),
    .whole "excludedResourceTypes" (Json.IsArrayOf Json.IsText),
    .whole "requestMethods" (Json.IsArrayOf Json.IsText),
    .whole "excludedRequestMethods" (Json.IsArrayOf Json.IsText),
    .whole "domainType" (Json.IsWordOf ["firstParty", "thirdParty"]),
    .whole "tabIds" (Json.IsArrayOf Json.IsInteger),
    .whole "excludedTabIds" (Json.IsArrayOf Json.IsInteger)]

def ruleFields : List Known :=
  [.whole "id" Json.IsInteger, .whole "priority" Json.IsInteger,
    ⟨"action", Json.IsObject, Projects actionFields⟩,
    ⟨"condition", Json.IsObject, Projects conditionFields⟩]

/-! ## Words -/

theorem Party.eq_name_of_named? {s : Text} {p : Party} (found : named? s = some p) :
    s = p.name := by
  simpa [eq_comm] using List.find?_some found

theorem Party.isSome_named? {s : Text} :
    (named? s).isSome ↔ Json.IsWordOf ["firstParty", "thirdParty"] (.str s) := by
  constructor
  · intro known
    obtain ⟨p, found⟩ := Option.isSome_iff_exists.1 known
    refine ⟨p.name, ?_, by rw [eq_name_of_named? found]⟩
    cases p <;> decide
  · rintro ⟨word, mem, same⟩
    have words : ["firstParty", "thirdParty"] = [first, third].map name := rfl
    obtain ⟨p, -, rfl⟩ := List.mem_map.1 (words ▸ mem)
    rw [Json.str.inj same, named?_name]
    rfl

/-! ## Values that are read and written -/

/-- The values of a kind, and no others, are read, and what is read is written as it was. -/
structure Inverts {α : Type} (kind : Json → Prop) (read : Json → Option α) (write : α → Json) :
    Prop where
  isSome_iff : ∀ a, (read a).isSome ↔ kind a
  write_eq : ∀ a x, read a = some x → write x = a

namespace Inverts

theorem text : Inverts Json.IsText Json.str? .str :=
  ⟨fun _ => Json.isSome_str?, fun _ _ read => (Json.str_of_str? read).symm⟩

theorem bool : Inverts Json.IsBool Json.bool? .bool :=
  ⟨fun _ => Json.isSome_bool?, fun _ _ read => (Json.bool_of_bool? read).symm⟩

theorem integer : Inverts Json.IsInteger Json.int? .int :=
  ⟨fun _ => Json.isSome_int?, fun _ _ read => (Json.int_of_int? read).symm⟩

theorem object : Inverts Json.IsObject Json.obj? .obj :=
  ⟨fun _ => Json.isSome_obj?, fun _ _ read => (Json.obj_of_obj? read).symm⟩

theorem party : Inverts (Json.IsWordOf ["firstParty", "thirdParty"])
    (fun v => v.str?.bind Party.named?) fun p => .str p.name := by
  constructor
  · intro a
    cases a with
    | str s => exact Party.isSome_named?
    | null | bool | int | float | arr | obj => simp [Json.str?, Json.IsWordOf]
  · intro a p read
    obtain ⟨s, here, named⟩ := Option.bind_eq_some_iff.1 read
    rw [Json.str_of_str? here, Party.eq_name_of_named? named]

section Array

variable {α : Type} {kind : Json → Prop} {read : Json → Option α} {write : α → Json}
  (inverts : Inverts kind read write)
include inverts

theorem isSome_mapM (items : List Json) :
    (items.mapM read).isSome ↔ ∀ item ∈ items, kind item := by
  induction items with
  | nil => simp
  | cons a items ih =>
    rw [List.forall_mem_cons, ← ih, ← inverts.isSome_iff]
    cases first : read a <;> cases rest : items.mapM read <;>
      simp [List.mapM_cons, first, rest]

theorem map_of_mapM {items : List Json} {xs : List α} (found : items.mapM read = some xs) :
    xs.map write = items := by
  induction items generalizing xs with
  | nil =>
    cases found
    rfl
  | cons a items ih =>
    rw [List.mapM_cons] at found
    obtain ⟨x, here, found⟩ := Option.bind_eq_some_iff.1 found
    obtain ⟨later, rest, same⟩ := Option.bind_eq_some_iff.1 found
    cases same
    rw [List.map_cons, inverts.write_eq a x here, ih rest]

/-- Arrays are read and written item by item. -/
theorem array : Inverts (Json.IsArrayOf kind) (fun v => v.arr?.bind fun items => items.mapM read)
    fun xs => .arr (xs.map write) := by
  constructor
  · intro a
    cases a with
    | arr items => simpa [Json.arr?, Json.IsArrayOf] using inverts.isSome_mapM items
    | null | bool | int | float | str | obj => simp [Json.arr?, Json.IsArrayOf]
  · intro a xs read
    obtain ⟨items, here, found⟩ := Option.bind_eq_some_iff.1 read
    rw [Json.arr_of_arr? here, inverts.map_of_mapM found]

end Array

end Inverts

/-! ## Fields that are read and written -/

namespace Known

variable {f : Known} {a b : Json}

theorem leaves_some (counts : f.counts a) (writes : f.writes a b) :
    f.Leaves (some a) (some b) := by
  refine ⟨iff_of_true rfl ⟨a, rfl, counts⟩, ?_⟩
  intro a' b' before after
  cases before
  cases after
  exact writes

/-- A field leaves what is written of the reading of its value. -/
theorem leaves_of_read {α : Type} {read : Json → Option α} {write : α → Json}
    (counts : ∀ a, (read a).isSome ↔ f.counts a)
    (writes : ∀ a x, read a = some x → f.writes a (write x)) (before : Option Json) :
    f.Leaves before ((before.bind read).map write) := by
  cases before with
  | none => exact ⟨by simp, by simp⟩
  | some a =>
    rw [Option.bind_some]
    refine ⟨by simp [counts], fun a' b before after => ?_⟩
    cases before
    obtain ⟨x, found, rfl⟩ := Option.map_eq_some_iff.1 after
    exact writes a x found

theorem leaves_whole {α : Type} {kind : Json → Prop} {read : Json → Option α} {write : α → Json}
    (inverts : Inverts kind read write) (key : String) (before : Option Json) :
    (whole key kind).Leaves before ((before.bind read).map write) :=
  leaves_of_read inverts.isSome_iff inverts.write_eq before

end Known

theorem projects_present {known : List Known} {v : Json} {pairs : Table Text (Option Json)}
    (plain : Json.Plain pairs)
    (each : List.Forall₂ (fun f p => p.1 = Text.ofString f.key ∧ f.Leaves (v.get? f.key) p.2)
      known pairs) :
    Projects known v (.obj (Table.present pairs)) := by
  constructor
  · refine ⟨_, rfl, plain.present.nodup, fun key mem => ?_⟩
    obtain ⟨⟨_, b⟩, here, rfl⟩ := List.mem_map.1 mem
    obtain ⟨p, pair, found⟩ := List.mem_filterMap.1 here
    obtain ⟨_, -, same⟩ := Option.map_eq_some_iff.1 found
    cases same
    obtain ⟨f, known, key, -⟩ := exists_of_forall₂ each.flip pair
    exact ⟨f, known, key⟩
  · intro f mem
    obtain ⟨p, pair, key, leaves⟩ := exists_of_forall₂ each mem
    have found : (Table.present pairs).get? (Text.ofString f.key) = p.2 := by
      rw [Table.get?_present plain.nodup, ← key, Table.get?_of_mem plain.nodup pair]
      rfl
    rw [Json.get?_obj, found]
    exact leaves

/-! ## Rules -/

theorem Redirect.projects (fields : Fields) :
    Projects redirectFields (.obj fields) (ofFields fields).toJson :=
  projects_present (plain_pairs _) <|
    .cons ⟨rfl, Known.leaves_whole .text ..⟩ <| .cons ⟨rfl, Known.leaves_whole .text ..⟩ <|
      .cons ⟨rfl, Known.leaves_whole .object ..⟩ <| .cons ⟨rfl, Known.leaves_whole .text ..⟩ .nil

theorem Condition.projects (fields : Fields) :
    Projects conditionFields (.obj fields) (ofFields fields).toJson := by
  have party : (Known.whole "domainType" (Json.IsWordOf ["firstParty", "thirdParty"])).Leaves
      (fields.get? "domainType")
      (((fields.str? "domainType").bind Party.named?).map fun p => .str p.name) := by
    rw [Fields.str?, Option.bind_assoc]
    exact Known.leaves_whole .party ..
  have texts (key : String) (before : Option Json) :=
    Known.leaves_whole Inverts.text.array key before
  have integers (key : String) (before : Option Json) :=
    Known.leaves_whole Inverts.integer.array key before
  exact projects_present (plain_pairs _) <|
    .cons ⟨rfl, Known.leaves_whole .text ..⟩ <| .cons ⟨rfl, Known.leaves_whole .text ..⟩ <|
    .cons ⟨rfl, Known.leaves_whole .bool ..⟩ <|
    .cons ⟨rfl, texts ..⟩ <| .cons ⟨rfl, texts ..⟩ <|
    .cons ⟨rfl, texts ..⟩ <| .cons ⟨rfl, texts ..⟩ <|
    .cons ⟨rfl, texts ..⟩ <| .cons ⟨rfl, texts ..⟩ <|
    .cons ⟨rfl, texts ..⟩ <| .cons ⟨rfl, texts ..⟩ <|
    .cons ⟨rfl, texts ..⟩ <| .cons ⟨rfl, texts ..⟩ <|
    .cons ⟨rfl, party⟩ <|
    .cons ⟨rfl, integers ..⟩ <| .cons ⟨rfl, integers ..⟩ .nil

/-! ## Header changes -/

namespace HeaderChange

variable {v : Json} {h : HeaderChange}

theorem ofJson?_eq_some :
    ofJson? v = some h ↔
      v.get? "header" = some (.str h.header) ∧ v.get? "operation" = some (.str h.operation) ∧
        h.value = (v.get? "value").bind Json.str? := by
  constructor
  · intro read
    obtain ⟨fields, object, read⟩ := Option.bind_eq_some_iff.1 read
    obtain ⟨header, hasHeader, read⟩ := Option.bind_eq_some_iff.1 read
    obtain ⟨operation, hasOperation, read⟩ := Option.bind_eq_some_iff.1 read
    cases read
    rw [Json.obj_of_obj? object]
    exact ⟨Fields.str?_eq_some.1 hasHeader, Fields.str?_eq_some.1 hasOperation, rfl⟩
  · rintro ⟨hasHeader, hasOperation, value⟩
    obtain ⟨fields, rfl, hasHeader⟩ := Json.obj_of_get? hasHeader
    have rest : fields.str? "value" = h.value := value.symm
    show (fields.str? "header").bind (fun header => (fields.str? "operation").bind fun operation =>
      some ⟨header, operation, fields.str? "value"⟩) = some h
    rw [Fields.str?_eq_some.2 hasHeader, Option.bind_some, Fields.str?_eq_some.2 hasOperation,
      Option.bind_some, rest]

theorem projects (read : ofJson? v = some h) : Projects headerFields v h.toJson := by
  obtain ⟨header, operation, value⟩ := ofJson?_eq_some.1 read
  have same {key : String} {s : Text} (here : v.get? key = some (.str s)) :
      (Known.whole key Json.IsText).Leaves (v.get? key) (some (.str s)) := by
    rw [here]
    exact Known.leaves_some ⟨s, rfl⟩ rfl
  have rest : (Known.whole "value" Json.IsText).Leaves (v.get? "value") (h.value.map .str) := by
    rw [value]
    exact Known.leaves_whole .text ..
  exact projects_present h.plain_pairs <|
    .cons ⟨rfl, same header⟩ <| .cons ⟨rfl, same operation⟩ <| .cons ⟨rfl, rest⟩ .nil

theorem exists_ofJson? : (∃ h, ofJson? v = some h) ↔ IsHeaderChange v := by
  constructor
  · rintro ⟨h, read⟩
    obtain ⟨header, operation, -⟩ := ofJson?_eq_some.1 read
    exact ⟨⟨_, header, _, rfl⟩, ⟨_, operation, _, rfl⟩⟩
  · rintro ⟨⟨_, hasHeader, header, rfl⟩, ⟨_, hasOperation, operation, rfl⟩⟩
    exact ⟨⟨header, operation, _⟩, ofJson?_eq_some.2 ⟨hasHeader, hasOperation, rfl⟩⟩

theorem writesChanges (items : List Json) :
    WritesChanges items ((items.filterMap ofJson?).map (·.toJson)) := by
  induction items with
  | nil => exact .nil
  | cons v items ih =>
    cases read : ofJson? v with
    | none =>
      rw [List.filterMap_cons_none read]
      refine .skip (fun change => ?_) ih
      obtain ⟨h, found⟩ := exists_ofJson?.2 change
      cases read.symm.trans found
    | some h =>
      rw [List.filterMap_cons_some read, List.map_cons]
      exact .keep (exists_ofJson?.1 ⟨h, read⟩) (projects read) ih

theorem leaves_headers (fields : Fields) (key : String) :
    (headers key).Leaves (fields.get? key)
      ((ofField? fields key).map fun hs => .arr (hs.map (·.toJson))) := by
  have field : ofField? fields key =
      (fields.get? key).bind fun v => v.arr?.map fun items => items.filterMap ofJson? := by
    rw [ofField?, Fields.arr?, Option.map_bind]
    rfl
  rw [field]
  refine Known.leaves_of_read (fun a => ?_) (fun a hs read => ?_) _
  · rw [Option.isSome_map]
    exact Json.isSome_arr?
  · obtain ⟨items, array, rfl⟩ := Option.map_eq_some_iff.1 read
    exact ⟨items, _, Json.arr_of_arr? array, rfl, writesChanges items⟩

end HeaderChange

/-! ## Actions and rules -/

theorem Action.projects {v : Json} {a : Action} (read : ofJson v = .ok a) :
    Projects actionFields v a.toJson := by
  obtain ⟨fields, rfl, type, made⟩ := ofJson_ok.1 read
  have types : (Known.whole "type" (Json.IsWordOf actionWords)).Leaves (fields.get? "type")
      (some (.str a.type.name)) := by
    rw [type]
    exact Known.leaves_some ⟨_, a.type.name_mem, rfl⟩ rfl
  have redirect : Known.Leaves ⟨"redirect", Json.IsObject, Projects redirectFields⟩
      (fields.get? "redirect") (a.redirect.map (·.toJson)) := by
    have field : a.redirect =
        (fields.get? "redirect").bind fun v => v.obj?.map Redirect.ofFields := by
      rw [made, withType, Fields.obj?, Option.map_bind]
      rfl
    rw [field]
    refine Known.leaves_of_read (fun b => ?_) (fun b r read => ?_) _
    · rw [Option.isSome_map]
      exact Json.isSome_obj?
    · obtain ⟨inner, object, rfl⟩ := Option.map_eq_some_iff.1 read
      rw [Json.obj_of_obj? object]
      exact Redirect.projects inner
  have requests := HeaderChange.leaves_headers fields "requestHeaders"
  have responses := HeaderChange.leaves_headers fields "responseHeaders"
  rw [show HeaderChange.ofField? fields "requestHeaders" = a.requestHeaders by rw [made]; rfl]
    at requests
  rw [show HeaderChange.ofField? fields "responseHeaders" = a.responseHeaders by rw [made]; rfl]
    at responses
  exact projects_present a.plain_pairs <|
    .cons ⟨rfl, types⟩ <| .cons ⟨rfl, redirect⟩ <|
      .cons ⟨rfl, requests⟩ <| .cons ⟨rfl, responses⟩ .nil

theorem Rule.projects {v : Json} {rule : Rule} (read : ofJson v = .ok rule) :
    Projects ruleFields v rule.toJson := by
  obtain ⟨id, ⟨a, hasAction, action⟩, ⟨c, hasCondition, condition⟩, priority⟩ := ofJson_ok.1 read
  obtain ⟨actionParts, rfl, -⟩ := Action.ofJson_ok.1 action
  obtain ⟨conditionParts, rfl, made⟩ := Condition.ofJson_ok.1 condition
  have ids : (Known.whole "id" Json.IsInteger).Leaves (v.get? "id") (some (.int rule.id)) := by
    rw [id]
    exact Known.leaves_some ⟨_, rfl⟩ rfl
  have priorities : (Known.whole "priority" Json.IsInteger).Leaves (v.get? "priority")
      (rule.priority.map .int) := by
    rw [priority]
    exact Known.leaves_whole .integer ..
  have actions : Known.Leaves ⟨"action", Json.IsObject, Projects actionFields⟩ (v.get? "action")
      (some rule.action.toJson) := by
    rw [hasAction]
    exact Known.leaves_some ⟨_, rfl⟩ (Action.projects action)
  have conditions : Known.Leaves ⟨"condition", Json.IsObject, Projects conditionFields⟩
      (v.get? "condition") (some rule.condition.toJson) := by
    rw [hasCondition, made]
    exact Known.leaves_some ⟨_, rfl⟩ (Condition.projects conditionParts)
  exact projects_present rule.plain_pairs <|
    .cons ⟨rfl, ids⟩ <| .cons ⟨rfl, priorities⟩ <|
      .cons ⟨rfl, actions⟩ <| .cons ⟨rfl, conditions⟩ .nil

/-- What is written of a rule that was read is read as the same rule, so that it is written as it
is.  It is a projection of the value that the rule was read from: of the known fields of the value,
of its action, its redirection, its header changes and its condition, it has those whose values are
of the required kind, with these values, and it has no other fields. -/
theorem written_rules_are_projections (v : Json) (rule : Rule) (read : Rule.ofJson v = .ok rule) :
    Rule.ofJson rule.toJson = .ok rule ∧
      (Rule.ofJson rule.toJson).map (·.toJson) = .ok rule.toJson ∧
      Projects ruleFields v rule.toJson := by
  have back := rule.ofJson_toJson
  refine ⟨back, ?_, Rule.projects read⟩
  rw [back]
  rfl

/-- Of a value with fields that are unknown or of the wrong kind only the others are written, also
those that are empty, zero or false. -/
theorem void_values_are_written :
    let v : Json := .obj
      [("note", .str "x"), ("id", .int 0), ("priority", .int 0),
        ("action", .obj
          [("type", .str "redirect"), ("redirect", .obj [("transform", .obj []), ("url", .null)]),
            ("requestHeaders", .arr
              [.str "cookie", .obj [("header", .str "x")],
                .obj [("operation", .str ""), ("header", .str "x"), ("value", .int 5)]]),
            ("responseHeaders", .arr [])]),
        ("condition", .obj
          [("urlFilter", .str ""), ("isUrlFilterCaseSensitive", .bool false), ("domains", .arr []),
            ("resourceTypes", .arr [.str "script", .int 3]), ("domainType", .str "sameSite"),
            ("tabIds", .arr [.int 0]), ("excludedTabIds", .arr [.bool true])])]
    let w : Json := .obj
      [("id", .int 0), ("priority", .int 0),
        ("action", .obj
          [("type", .str "redirect"), ("redirect", .obj [("transform", .obj [])]),
            ("requestHeaders", .arr [.obj [("header", .str "x"), ("operation", .str "")]]),
            ("responseHeaders", .arr [])]),
        ("condition", .obj
          [("urlFilter", .str ""), ("isUrlFilterCaseSensitive", .bool false), ("domains", .arr []),
            ("tabIds", .arr [.int 0])])]
    ∃ rule, Rule.ofJson v = .ok rule ∧ rule.toJson = w ∧ Rule.ofJson w = .ok rule ∧
      Projects ruleFields v w := by
  intro v w
  obtain ⟨rule, read, written⟩ : ∃ rule, Rule.ofJson v = .ok rule ∧ rule.toJson = w :=
    ⟨_, rfl, rfl⟩
  obtain ⟨back, -, projects⟩ := written_rules_are_projections v rule read
  rw [written] at back projects
  exact ⟨rule, read, written, back, projects⟩

end ContentBlocker
