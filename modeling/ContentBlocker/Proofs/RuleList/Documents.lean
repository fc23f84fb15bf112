import ContentBlocker.Proofs.Json.ReadBack
import ContentBlocker.RuleList.Conversion
import ContentBlocker.RuleList.Validation

/-!
# Documents of conversions

The document of a conversion is read back as an array with one value for each entry, so that its
validation counts the entries.
-/

namespace ContentBlocker.RuleList

/-! ## Values of entries -/

theorem exact_texts (texts : List Text) : (Json.texts texts).Exact := by
  refine .arr fun v mem => ?_
  obtain ⟨s, -, rfl⟩ := List.mem_map.1 mem
  exact .str s

theorem exact_strings (strings : List String) : (Json.strings strings).Exact := by
  refine .arr fun v mem => ?_
  obtain ⟨s, -, rfl⟩ := List.mem_map.1 mem
  exact .str s

/-- The fields of a trigger, with those that it may lack. -/
def Trigger.pairs (t : Trigger) : Table Text (Option Json) :=
  [("url-filter", some (.str t.urlFilter)),
    ("url-filter-is-case-sensitive", if t.caseSensitive then some (.bool true) else none),
    ("resource-type", t.resourceTypes.map fun ts => .strings (ts.map (·.name))),
    ("load-type", t.loadType.map fun l => .strings [l.name]),
    ("if-domain", t.ifDomain.map .texts),
    ("unless-domain", t.unlessDomain.map .texts)]

/-- The values in the fields of a trigger. -/
theorem Trigger.forall_fields {P : Json → Prop} {t : Trigger} (filter : P (.str t.urlFilter))
    (flag : P (.bool true)) (words : ∀ names, P (.strings names))
    (patterns : ∀ domains, t.ifDomain = some domains ∨ t.unlessDomain = some domains →
      P (.texts domains)) : ∀ f ∈ Table.present t.pairs, P f.2 := by
  suffices each : ∀ p ∈ t.pairs, ∀ v, p.2 = some v → P v by
    intro f mem
    obtain ⟨p, here, found⟩ := List.mem_filterMap.1 mem
    obtain ⟨v, some, rfl⟩ := Option.map_eq_some_iff.1 found
    exact each p here v some
  unfold pairs
  simp only [List.forall_mem_cons, Option.some.injEq, Option.map_eq_some_iff]
  refine ⟨?_, ?_, ?_, ?_, ?_, ?_, List.forall_mem_nil _⟩
  · rintro v rfl
    exact filter
  · intro v some
    split at some
    · cases some
      exact flag
    · cases some
  · rintro v ⟨types, -, rfl⟩
    exact words _
  · rintro v ⟨type, -, rfl⟩
    exact words _
  · rintro v ⟨domains, given, rfl⟩
    exact patterns domains (.inl given)
  · rintro v ⟨domains, given, rfl⟩
    exact patterns domains (.inr given)

theorem Trigger.exact_toJson (t : Trigger) : t.toJson.Exact :=
  .obj (forall_fields (.str _) (.bool true) exact_strings fun domains _ => exact_texts domains)

theorem Entry.exact_toJson (e : Entry) : e.toJson.Exact := by
  refine .obj ?_
  simp only [List.forall_mem_cons, List.not_mem_nil, false_imp_iff, implies_true, and_true]
  refine ⟨e.trigger.exact_toJson, .obj ?_⟩
  simp only [List.forall_mem_cons, List.not_mem_nil, false_imp_iff, implies_true, and_true]
  exact .str _

theorem Conversion.exact_toJson (c : Conversion) : c.toJson.Exact := by
  refine .arr fun v mem => ?_
  obtain ⟨e, -, rfl⟩ := List.mem_map.1 mem
  exact e.exact_toJson

/-! ## Documents -/

theorem Conversion.read_document (c : Conversion) :
    Json.read c.document = .ok (.arr (c.entries.map fun e => e.toJson.reread)) := by
  rw [document, Json.read_pretty c.exact_toJson, toJson, Json.reread, Json.rereadItems_eq_map,
    List.map_map]
  rfl

/-- In an array within the bound the entries are checked. -/
theorem validate_of_read {document : String} {entries : List Json}
    (read : Json.read document = .ok (.arr entries)) (few : entries.length ≤ entryBound) :
    validate document = (checkEntries 0 entries).map fun _ => entries.length := by
  unfold validate
  rw [read]
  exact if_neg (Nat.not_lt.2 few)

/-- The count of a document that is valid is the number of entries. -/
theorem Conversion.count_of_validate {c : Conversion} {count : Nat}
    (valid : validate c.document = .ok count) : count = c.entries.length := by
  unfold validate at valid
  rw [c.read_document] at valid
  simp only [checkDocument, List.length_map] at valid
  split at valid
  · cases valid
  · cases checked : checkEntries 0 (c.entries.map fun e => e.toJson.reread) with
    | error finding => simp [checked, Except.map] at valid
    | ok =>
      simp only [checked, Except.map, Except.ok.injEq] at valid
      exact valid.symm

end ContentBlocker.RuleList
