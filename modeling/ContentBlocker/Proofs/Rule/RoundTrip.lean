import ContentBlocker.Proofs.Json.Fields
import ContentBlocker.Proofs.Lists
import ContentBlocker.Proofs.Rule.Acceptance
import ContentBlocker.Rule.Batch
import ContentBlocker.Rule.Writing

/-!
# Rules written and read

A rule that is written as JSON is read back as it is (`Rule.ofJson_toJson`), whatever its fields
hold, so that a batch of written rules has no malformed entries.
-/

namespace ContentBlocker

/-! ## Arrays -/

theorem Json.strs?_texts (texts : List Text) : (Json.texts texts).strs? = some texts :=
  mapM_map_some str (fun _ => rfl) texts

theorem Json.ints?_ints (numbers : List Int) : (Json.ints numbers).ints? = some numbers :=
  mapM_map_some int (fun _ => rfl) numbers

/-! ## Fields that may be absent -/

section Pairs

variable {pairs : Table Text (Option Json)} (plain : Json.Plain pairs) {key : Text}
include plain

theorem get?_pair {v : Option Json} (i : Nat) (here : pairs[i]? = some (key, v)) :
    (Table.present pairs).get? key = v := by
  rw [Table.get?_present plain.nodup, Table.get?_of_mem plain.nodup (List.mem_of_getElem? here)]
  rfl

/-- A value that is written under a key is read under it. -/
theorem read_pair {α : Type} (write : α → Json) {read : Json → Option α}
    (back : ∀ a, read (write a) = some a) {value : Option α}
    (i : Nat) (here : pairs[i]? = some (key, value.map write)) :
    ((Table.present pairs).get? key).bind read = value := by
  rw [get?_pair plain i here]
  cases value with
  | none => rfl
  | some a => exact back a

theorem str?_pair {value : Option Text} (i : Nat)
    (here : pairs[i]? = some (key, value.map .str)) :
    Fields.str? (Table.present pairs) key = value :=
  read_pair plain .str (fun _ => rfl) i here

theorem bool?_pair {value : Option Bool} (i : Nat)
    (here : pairs[i]? = some (key, value.map .bool)) :
    Fields.bool? (Table.present pairs) key = value :=
  read_pair plain .bool (fun _ => rfl) i here

theorem int?_pair {value : Option Int} (i : Nat)
    (here : pairs[i]? = some (key, value.map .int)) :
    Fields.int? (Table.present pairs) key = value :=
  read_pair plain .int (fun _ => rfl) i here

theorem obj?_pair {value : Option Fields} (i : Nat)
    (here : pairs[i]? = some (key, value.map .obj)) :
    Fields.obj? (Table.present pairs) key = value :=
  read_pair plain .obj (fun _ => rfl) i here

theorem strs?_pair {value : Option (List Text)}
    (i : Nat) (here : pairs[i]? = some (key, value.map .texts)) :
    Fields.strs? (Table.present pairs) key = value :=
  read_pair plain .texts Json.strs?_texts i here

theorem ints?_pair {value : Option (List Int)}
    (i : Nat) (here : pairs[i]? = some (key, value.map .ints)) :
    Fields.ints? (Table.present pairs) key = value :=
  read_pair plain .ints Json.ints?_ints i here

end Pairs

/-! ## Actions -/

namespace Redirect

/-- The fields of a redirection, with those that it may lack. -/
def pairs (r : Redirect) : Table Text (Option Json) :=
  [("url", r.url.map .str),
    ("extensionPath", r.extensionPath.map .str),
    ("transform", r.transform.map .obj),
    ("regexSubstitution", r.regexSubstitution.map .str)]

theorem plain_pairs (r : Redirect) : Json.Plain r.pairs :=
  Json.plain_of_strings ["url", "extensionPath", "transform", "regexSubstitution"] rfl (by decide)

theorem obj?_toJson (r : Redirect) : r.toJson.obj?.map ofFields = some r := by
  have plain := r.plain_pairs
  have read : ofFields (Table.present r.pairs) = r := by
    unfold ofFields
    rw [str?_pair plain 0 rfl, str?_pair plain 1 rfl, obj?_pair plain 2 rfl, str?_pair plain 3 rfl]
  exact congrArg some read

end Redirect

namespace HeaderChange

/-- The fields of a header change, with the one that it may lack. -/
def pairs (h : HeaderChange) : Table Text (Option Json) :=
  [("header", some (.str h.header)),
    ("operation", some (.str h.operation)),
    ("value", h.value.map .str)]

theorem plain_pairs (h : HeaderChange) : Json.Plain h.pairs :=
  Json.plain_of_strings ["header", "operation", "value"] rfl (by decide)

theorem ofJson?_toJson (h : HeaderChange) : ofJson? h.toJson = some h := by
  have plain := h.plain_pairs
  have header : Fields.str? (Table.present h.pairs) "header" = some h.header :=
    str?_pair plain 0 rfl
  have operation : Fields.str? (Table.present h.pairs) "operation" = some h.operation :=
    str?_pair plain 1 rfl
  have value : Fields.str? (Table.present h.pairs) "value" = h.value := str?_pair plain 2 rfl
  show (Fields.str? (Table.present h.pairs) "header").bind (fun header =>
    (Fields.str? (Table.present h.pairs) "operation").bind fun operation =>
      some ⟨header, operation, Fields.str? (Table.present h.pairs) "value"⟩) = some h
  rw [header, operation, value]
  rfl

end HeaderChange

namespace Action

/-- The fields of an action, with those that it may lack. -/
def pairs (a : Action) : Table Text (Option Json) :=
  [("type", some (.str a.type.name)),
    ("redirect", a.redirect.map (·.toJson)),
    ("requestHeaders", a.requestHeaders.map fun hs => .arr (hs.map (·.toJson))),
    ("responseHeaders", a.responseHeaders.map fun hs => .arr (hs.map (·.toJson)))]

theorem plain_pairs (a : Action) : Json.Plain a.pairs :=
  Json.plain_of_strings ["type", "redirect", "requestHeaders", "responseHeaders"] rfl (by decide)

theorem ofJson_toJson (a : Action) : ofJson a.toJson = .ok a := by
  have plain := a.plain_pairs
  have type : ActionType.ofField (Table.present a.pairs) = .ok a.type := by
    have named : Fields.str? (Table.present a.pairs) "type" = some (Text.ofString a.type.name) :=
      str?_pair plain 0 rfl
    simp only [ActionType.ofField, named, ActionType.named?_name]
  have redirect : (Fields.obj? (Table.present a.pairs) "redirect").map Redirect.ofFields =
      a.redirect := by
    rw [Fields.obj?, Option.map_bind]
    exact read_pair plain Redirect.toJson Redirect.obj?_toJson 1 rfl
  have headers {key : Text} {changes : Option (List HeaderChange)} (i : Nat)
      (here : a.pairs[i]? =
        some (key, changes.map fun hs => .arr (hs.map HeaderChange.toJson))) :
      HeaderChange.ofField? (Table.present a.pairs) key = changes := by
    rw [HeaderChange.ofField?, Fields.arr?, Option.map_bind]
    exact read_pair plain (fun hs : List HeaderChange => .arr (hs.map HeaderChange.toJson))
      (fun hs => congrArg some (filterMap_map_some _ HeaderChange.ofJson?_toJson hs)) i here
  show (ActionType.ofField (Table.present a.pairs)).map (withType (Table.present a.pairs)) = .ok a
  rw [type]
  refine congrArg Except.ok ?_
  unfold withType
  rw [redirect, headers 2 rfl, headers 3 rfl]

end Action

/-! ## Conditions -/

namespace Condition

/-- The fields of a condition, with those that it may lack. -/
def pairs (c : Condition) : Table Text (Option Json) :=
  [("urlFilter", c.urlFilter.map .str),
    ("regexFilter", c.regexFilter.map .str),
    ("isUrlFilterCaseSensitive", c.isUrlFilterCaseSensitive.map .bool),
    ("initiatorDomains", c.initiatorDomains.map .texts),
    ("excludedInitiatorDomains", c.excludedInitiatorDomains.map .texts),
    ("requestDomains", c.requestDomains.map .texts),
    ("excludedRequestDomains", c.excludedRequestDomains.map .texts),
    ("domains", c.domains.map .texts),
    ("excludedDomains", c.excludedDomains.map .texts),
    ("resourceTypes", c.resourceTypes.map .texts),
    ("excludedResourceTypes", c.excludedResourceTypes.map .texts),
    ("requestMethods", c.requestMethods.map .texts),
    ("excludedRequestMethods", c.excludedRequestMethods.map .texts),
    ("domainType", c.party.map fun p => .str p.name),
    ("tabIds", c.tabIds.map .ints),
    ("excludedTabIds", c.excludedTabIds.map .ints)]

theorem plain_pairs (c : Condition) : Json.Plain c.pairs :=
  Json.plain_of_strings
    ["urlFilter", "regexFilter", "isUrlFilterCaseSensitive", "initiatorDomains",
      "excludedInitiatorDomains", "requestDomains", "excludedRequestDomains", "domains",
      "excludedDomains", "resourceTypes", "excludedResourceTypes", "requestMethods",
      "excludedRequestMethods", "domainType", "tabIds", "excludedTabIds"]
    rfl (by decide)

theorem ofJson_toJson (c : Condition) : ofJson c.toJson = .ok c := by
  have plain := c.plain_pairs
  have party : (Fields.str? (Table.present c.pairs) "domainType").bind Party.named? = c.party := by
    rw [Fields.str?, Option.bind_assoc]
    exact read_pair plain (fun p : Party => .str p.name) Party.named?_name 13 rfl
  show Except.ok (ofFields (Table.present c.pairs)) = .ok c
  refine congrArg Except.ok ?_
  unfold ofFields
  rw [str?_pair plain 0 rfl, str?_pair plain 1 rfl, bool?_pair plain 2 rfl, strs?_pair plain 3 rfl,
    strs?_pair plain 4 rfl, strs?_pair plain 5 rfl, strs?_pair plain 6 rfl, strs?_pair plain 7 rfl,
    strs?_pair plain 8 rfl, strs?_pair plain 9 rfl, strs?_pair plain 10 rfl,
    strs?_pair plain 11 rfl, strs?_pair plain 12 rfl, party, ints?_pair plain 14 rfl,
    ints?_pair plain 15 rfl]

end Condition

/-! ## Rules -/

namespace Rule

/-- The fields of a rule, with the one that it may lack. -/
def pairs (r : Rule) : Table Text (Option Json) :=
  [("id", some (.int r.id)),
    ("priority", r.priority.map .int),
    ("action", some r.action.toJson),
    ("condition", some r.condition.toJson)]

theorem plain_pairs (r : Rule) : Json.Plain r.pairs :=
  Json.plain_of_strings ["id", "priority", "action", "condition"] rfl (by decide)

theorem ofJson_toJson (r : Rule) : ofJson r.toJson = .ok r := by
  have plain := r.plain_pairs
  have id : Table.get? (Table.present r.pairs) "id" = some (.int r.id) := get?_pair plain 0 rfl
  have priority : Fields.int? (Table.present r.pairs) "priority" = r.priority :=
    int?_pair plain 1 rfl
  have action : Table.get? (Table.present r.pairs) "action" = some r.action.toJson :=
    get?_pair plain 2 rfl
  have condition : Table.get? (Table.present r.pairs) "condition" = some r.condition.toJson :=
    get?_pair plain 3 rfl
  exact ofJson_ok.2 ⟨id, ⟨_, action, r.action.ofJson_toJson⟩,
    ⟨_, condition, r.condition.ofJson_toJson⟩, priority.symm⟩

end Rule

/-- Written rules are a batch without malformed entries. -/
theorem Batch.ofItems_toJson (rules : List Rule) :
    ofItems (rules.map (·.toJson)) = ⟨rules, []⟩ := by
  have read : (rules.map (·.toJson)).map Rule.ofJson = rules.map .ok := by
    rw [List.map_map]
    exact List.map_congr_left fun r _ => r.ofJson_toJson
  have accepted : (rules.map Except.ok).filterMap accepted? = rules :=
    filterMap_map_some Except.ok (fun _ => rfl) rules
  have rejected : (rules.map Except.ok).zipIdx.filterMap rejected? = [] := by
    rw [List.zipIdx_map, List.filterMap_map]
    exact List.filterMap_eq_nil_iff.2 fun _ _ => rfl
  unfold ofItems
  dsimp only
  rw [read, accepted, rejected]

end ContentBlocker
