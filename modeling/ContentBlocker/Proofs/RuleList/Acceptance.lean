import ContentBlocker.Proofs.Computations
import ContentBlocker.Proofs.Json.Fields
import ContentBlocker.Proofs.RuleList.Documents
import ContentBlocker.Proofs.RuleList.Patterns

/-!
# Acceptance of conversions

Of an entry that stands for a rule, only the filter can be at fault: `checkEntry_toJson` says that
its other fields pass their checks.  So the document of a conversion is accepted just if the filters
are, which for filters that were written as such is no more than that they are in ASCII and not
empty: `accepted_iff`.
-/

namespace ContentBlocker.RuleList

/-! ## Checks that pass -/

theorem optional_ok {fields : Fields} {key : Text} {check : Json → Check Unit}
    (passes : ∀ v, fields.get? key = some v → check v = .ok ()) :
    optional fields key check = .ok () := by
  unfold optional
  split
  · rfl
  · rename_i v found
    split
    · rfl
    · exact passes v found

section Words

variable {words : List String} {unknown : String → EntryFault}

theorem checkWord_ok {word : String} (known : word ∈ words) :
    checkWord words unknown (.str word) = .ok () := by
  have listed : isWord words (.str word) = true := by
    simp [isWord, Text.string?_ofString, known]
  change require (isWord words (.str word)) _ = .ok ()
  rw [listed]
  rfl

theorem reread_strings (strings : List String) :
    (Json.strings strings).reread = .strings strings := by
  rw [Json.strings, Json.reread, Json.rereadItems_eq_map, List.map_map]
  refine congrArg Json.arr (List.map_congr_left fun s _ => ?_)
  change Json.str (Text.ofString s).rejoined = _
  rw [Text.rejoined_ofString]

theorem checkWords_ok {notList : EntryFault} {found : List String} (some : found ≠ [])
    (known : ∀ word ∈ found, word ∈ words) :
    checkWords words notList unknown (Json.strings found).reread = .ok () := by
  rw [reread_strings]
  obtain ⟨word, rest, rfl⟩ := List.exists_cons_of_ne_nil some
  have each : ∀ v ∈ (word :: rest).map fun s : String => Json.str s,
      checkWord words unknown v = .ok () := by
    intro v mem
    obtain ⟨s, here, rfl⟩ := List.mem_map.1 mem
    exact checkWord_ok (known s here)
  exact forM_ok each

end Words

theorem checkDomains_ok {field : String} {domains : List Text} (some : domains ≠ [])
    (filled : ∀ domain ∈ domains, domain ≠ []) :
    checkDomains field (Json.texts domains).reread = .ok () := by
  have items : (Json.texts domains).reread = .texts (domains.map Text.rejoined) := by
    rw [Json.texts, Json.reread, Json.rereadItems_eq_map, List.map_map, Json.texts, List.map_map]
    rfl
  have all : ((domains.map Text.rejoined).map Json.str).all isNonEmptyText = true := by
    simp only [List.map_map, List.all_map, List.all_eq_true, Function.comp_apply, isNonEmptyText,
      Bool.not_eq_true', List.isEmpty_eq_false_iff]
    intro domain mem
    exact mt Text.rejoined_eq_nil.1 (filled domain mem)
  rw [items]
  obtain ⟨domain, rest, rfl⟩ := List.exists_cons_of_ne_nil some
  change require (((domain :: rest).map Text.rejoined).map Json.str |>.all isNonEmptyText) _ = _
  rw [all]
  rfl

/-! ## Entries of rules -/

/-- What a conversion sees to. -/
structure Entry.Fits (e : Entry) : Prop where
  effect : e.effect ≠ .hideElements
  resourceTypes : e.trigger.resourceTypes ≠ some []
  ifDomain : ∀ domains, e.trigger.ifDomain = some domains →
    domains ≠ [] ∧ ∀ domain ∈ domains, domain ≠ []
  unlessDomain : ∀ domains, e.trigger.unlessDomain = some domains →
    domains ≠ [] ∧ ∀ domain ∈ domains, domain ≠ []

theorem domainPatterns?_filled {candidates : List (Option (List Text))} {domains : List Text}
    (patterns : domainPatterns? candidates = some domains) :
    domains ≠ [] ∧ ∀ domain ∈ domains, domain ≠ [] := by
  unfold domainPatterns? nonEmpty? at patterns
  split at patterns
  · rename_i p rest all
    obtain rfl := Option.some.inj patterns
    refine ⟨List.cons_ne_nil p rest, fun domain mem => ?_⟩
    rw [← Option.some.inj all] at mem
    obtain ⟨source, -, made⟩ := List.mem_filterMap.1 mem
    unfold domainPattern? at made
    split at made
    · cases made
    · rw [← Option.some.inj made]
      exact List.cons_ne_nil _ _
  · cases patterns

/-- The trigger of an entry is that of the condition. -/
theorem Entry.trigger_of_rule {rule : Rule} {e : Entry} (converted : Entry.ofRule? rule = some e) :
    ResourceType.ofCondition rule.condition ≠ some [] ∧
      e.trigger = .withTypes rule.condition (ResourceType.ofCondition rule.condition) := by
  obtain ⟨effect, -, converted⟩ := Option.bind_eq_some_iff.1 converted
  obtain ⟨trigger, condition, converted⟩ := Option.bind_eq_some_iff.1 converted
  obtain rfl : ⟨trigger, effect⟩ = e := Option.some.inj converted
  unfold Trigger.ofCondition? at condition
  split at condition
  · cases condition
  · rename_i known
    exact ⟨known, (Option.some.inj condition).symm⟩

theorem Entry.fits_of_rule {rule : Rule} {e : Entry} (converted : Entry.ofRule? rule = some e) :
    e.Fits ∧ e.trigger.urlFilter = patternOf rule.condition := by
  obtain ⟨known, made⟩ := Entry.trigger_of_rule converted
  obtain ⟨effect, action, converted⟩ := Option.bind_eq_some_iff.1 converted
  obtain ⟨trigger, -, converted⟩ := Option.bind_eq_some_iff.1 converted
  obtain rfl : ⟨trigger, effect⟩ = e := Option.some.inj converted
  obtain rfl : trigger = _ := made
  refine ⟨⟨?_, known, fun _ => domainPatterns?_filled, fun _ => domainPatterns?_filled⟩, rfl⟩
  rintro rfl
  unfold Effect.ofAction? at action
  split at action <;> cases action

/-! ## Entries read back -/

theorem Trigger.plain_pairs (t : Trigger) : Json.Plain t.pairs := by
  refine Json.plain_of_strings ["url-filter", "url-filter-is-case-sensitive", "resource-type",
    "load-type", "if-domain", "unless-domain"] rfl (by decide)

theorem Trigger.get?_reread (t : Trigger) :
    ∃ read : Fields, t.toJson.reread = .obj read ∧
      ∀ key, read.get? key = (t.pairs.get? key).join.map Json.reread := by
  obtain ⟨read, eq, answers⟩ := Json.get?_reread t.plain_pairs.present
  refine ⟨read, eq, fun key => ?_⟩
  rw [answers, Table.get?_present t.plain_pairs.nodup]

section Fields

variable {t : Trigger} {read : Fields}
  (answers : ∀ key, read.get? key = (t.pairs.get? key).join.map Json.reread)
include answers

theorem caseSensitive_ok : optional read "url-filter-is-case-sensitive"
    (fun v => require v.bool?.isSome .caseNotBoolean) = .ok () := by
  refine optional_ok fun v found => ?_
  have field : t.pairs.get? "url-filter-is-case-sensitive" =
      some (if t.caseSensitive then some (.bool true) else none) := rfl
  rw [answers, field] at found
  split at found
  · cases found
    rfl
  · cases found

theorem resourceTypes_ok (fits : t.resourceTypes ≠ some []) : optional read "resource-type"
    (checkWords resourceTypes .resourceTypesNotList .unknownResourceType) = .ok () := by
  refine optional_ok fun v found => ?_
  have field : t.pairs.get? "resource-type" =
      some (t.resourceTypes.map fun ts => .strings (ts.map (·.name))) := rfl
  rw [answers, field] at found
  cases listed : t.resourceTypes with
  | none =>
    rw [listed] at found
    cases found
  | some types =>
    rw [listed] at found
    cases found
    have some : types ≠ [] := fun none => fits (none ▸ listed)
    refine checkWords_ok (by simpa using some) fun word mem => ?_
    obtain ⟨type, -, rfl⟩ := List.mem_map.1 mem
    exact List.mem_map_of_mem (ResourceType.mem_all type)

theorem loadType_ok : optional read "load-type"
    (checkWords loadTypes .loadTypesNotList .unknownLoadType) = .ok () := by
  refine optional_ok fun v found => ?_
  have field : t.pairs.get? "load-type" =
      some (t.loadType.map fun l => .strings [l.name]) := rfl
  rw [answers, field] at found
  cases listed : t.loadType with
  | none =>
    rw [listed] at found
    cases found
  | some load =>
    rw [listed] at found
    cases found
    refine checkWords_ok (by simp) fun word mem => ?_
    rw [List.mem_singleton.1 mem]
    cases load <;> decide

/-- A field of domains passes if it lists some, none empty, or if the trigger lacks it. -/
theorem domains_ok {field : String} {domains : Option (List Text)}
    (filled : ∀ ds, domains = some ds → ds ≠ [] ∧ ∀ d ∈ ds, d ≠ [])
    (here : (t.pairs.get? field).join = domains.map .texts) :
    optional read field (checkDomains field) = .ok () := by
  refine optional_ok fun v found => ?_
  rw [answers, here] at found
  cases domains with
  | none => cases found
  | some ds =>
    cases found
    exact checkDomains_ok (filled ds rfl).1 (filled ds rfl).2

end Fields

/-- Every field of a fitting trigger but its filter passes its check. -/
theorem checkTrigger_toJson {e : Entry} (fits : e.Fits) :
    checkTrigger (some e.trigger.toJson.reread) =
      checkFilter (some (.str e.trigger.urlFilter.rejoined)) := by
  obtain ⟨read, eq, answers⟩ := e.trigger.get?_reread
  have filter : read.get? "url-filter" = some (.str e.trigger.urlFilter.rejoined) := by
    rw [answers]
    rfl
  have domains : (domainFields.forM fun field => optional read field (checkDomains field)) =
      .ok () := by
    have missing : ∀ ds : List Text, none = some ds → ds ≠ [] ∧ ∀ d ∈ ds, d ≠ [] := by simp
    refine forM_ok ?_
    simp only [domainFields, List.forall_mem_cons]
    exact ⟨domains_ok answers fits.ifDomain rfl, domains_ok answers fits.unlessDomain rfl,
      domains_ok answers missing rfl, domains_ok answers missing rfl, by simp⟩
  rw [eq]
  change (checkFilter (read.get? "url-filter") >>= fun _ => _) = _
  rw [filter]
  cases checkFilter (some (.str e.trigger.urlFilter.rejoined)) with
  | error finding => rfl
  | ok =>
    change (optional read "url-filter-is-case-sensitive" _ >>= fun _ => _) = _
    rw [caseSensitive_ok answers]
    change (optional read "resource-type" _ >>= fun _ => _) = _
    rw [resourceTypes_ok answers fits.resourceTypes]
    change (optional read "load-type" _ >>= fun _ => _) = _
    rw [loadType_ok answers]
    exact domains

theorem checkAction_toJson {effect : Effect} (fits : effect ≠ .hideElements) :
    checkAction (some (Json.obj [("type", .str effect.name)]).reread) = .ok () := by
  let fields : Fields := [("type", .str effect.name)]
  have plain : Json.Plain fields := Json.plain_of_strings ["type"] rfl (by decide)
  obtain ⟨read, eq, answers⟩ := Json.get?_reread plain
  have type : read.get? "type" = some (.str effect.name) := by
    rw [answers]
    change some (Json.str (Text.ofString effect.name).rejoined) = _
    rw [Text.rejoined_ofString]
  have known : checkWord actionTypes .unknownAction (.str effect.name) = .ok () := by
    refine checkWord_ok (List.mem_map_of_mem ?_)
    cases effect <;> decide
  have other : decide ((Json.str effect.name).str? ≠ some ↑"css-display-none") = true := by
    cases effect with
    | hideElements => exact absurd rfl fits
    | _ => simp [Json.str?, Text.ofString_inj, Effect.name]
  rw [eq]
  unfold checkAction
  simp only [type, Option.getD_some, known, other, Bool.true_or]
  rfl

theorem checkFilter_str (s : Text) :
    checkFilter (some (.str s)) =
      if s = [] then reject .filterMissing
      else if s.IsAscii then checkPattern (s.map CodePoint.char) else reject .filterNotAscii := by
  unfold checkFilter
  by_cases empty : s = []
  · simp [empty]
  · by_cases ascii : s.IsAscii
    · have none : (s.any fun p => 128 ≤ p.toNat) = false :=
        List.any_eq_false.2 fun p mem => by simpa using ascii p mem
      simp [empty, ascii, none]
    · have some : (s.any fun p => 128 ≤ p.toNat) = true := by
        simpa [Text.IsAscii] using ascii
      simp [empty, ascii, some]

/-- The check of a filter does not depend on surrogates that stand together. -/
theorem checkFilter_rejoined (s : Text) :
    checkFilter (some (.str s.rejoined)) = checkFilter (some (.str s)) := by
  by_cases ascii : s.IsAscii
  · rw [ascii.rejoined]
  · simp only [checkFilter_str, Text.rejoined_eq_nil, Text.isAscii_rejoined, ascii, if_false]

theorem checkEntry_toJson {e : Entry} (fits : e.Fits) :
    checkEntry e.toJson.reread = checkFilter (some (.str e.trigger.urlFilter)) := by
  let fields : Fields :=
    [("trigger", e.trigger.toJson), ("action", .obj [("type", .str e.effect.name)])]
  have plain : Json.Plain fields :=
    Json.plain_of_strings ["trigger", "action"] rfl (by decide)
  obtain ⟨read, eq, answers⟩ := Json.get?_reread plain
  have trigger : read.get? "trigger" = some e.trigger.toJson.reread := answers _
  have action : read.get? "action" = some (Json.obj [("type", .str e.effect.name)]).reread :=
    answers _
  have same : e.toJson.reread = .obj read := eq
  rw [same]
  change (checkTrigger (read.get? "trigger") >>= fun _ => checkAction (read.get? "action")) = _
  rw [trigger, action, checkTrigger_toJson fits, checkAction_toJson fits.effect,
    checkFilter_rejoined]
  cases checkFilter (some (.str e.trigger.urlFilter)) <;> rfl

/-! ## Documents of conversions -/

/-- What is found in an entry of a document, as what is found in the document. -/
def Finding.inEntry (index : Nat) : Finding EntryFault → Finding Rejection
  | .fault f => .fault (.entry index f)
  | .defect d => .defect d

theorem checkEntries_cons (index : Nat) (entry : Json) (rest : List Json) :
    checkEntries index (entry :: rest) =
      match checkEntry entry with
      | .ok () => checkEntries (index + 1) rest
      | .error found => .error (found.inEntry index) := by
  rw [checkEntries]
  cases checkEntry entry with
  | ok => rfl
  | error found => cases found <;> rfl

theorem checkEntries_ok_iff (index : Nat) (values : List Json) :
    checkEntries index values = .ok () ↔ ∀ v ∈ values, checkEntry v = .ok () := by
  induction values generalizing index with
  | nil => simp [checkEntries]
  | cons v rest ih =>
    rw [checkEntries_cons, List.forall_mem_cons]
    cases checked : checkEntry v with
    | ok => simp [ih]
    | error found => simp

/-- What is found in a document is what is found in the first of its entries that does not pass. -/
theorem checkEntries_error {index : Nat} {values : List Json} {finding : Finding Rejection}
    (error : checkEntries index values = .error finding) :
    ∃ n v found, values[n]? = some v ∧ checkEntry v = .error found ∧
      (∀ w ∈ values.take n, checkEntry w = .ok ()) ∧ finding = found.inEntry (index + n) := by
  induction values generalizing index with
  | nil => cases error
  | cons v rest ih =>
    rw [checkEntries_cons] at error
    cases checked : checkEntry v with
    | ok =>
      rw [checked] at error
      obtain ⟨n, w, found, here, fault, before, rfl⟩ := ih error
      refine ⟨n + 1, w, found, here, fault, List.forall_mem_cons.2 ⟨checked, before⟩, ?_⟩
      rw [Nat.add_right_comm]
      rfl
    | error found =>
      rw [checked] at error
      cases error
      exact ⟨0, v, found, rfl, checked, List.forall_mem_nil _, rfl⟩

theorem Conversion.validate_document {c : Conversion} (few : c.entries.length ≤ entryBound) :
    validate c.document = (checkEntries 0 (c.entries.map fun e => e.toJson.reread)).map fun _ =>
      c.entries.length := by
  rw [validate_of_read c.read_document (by rwa [List.length_map]), List.length_map]

theorem Conversion.mem_entries {rules : List Rule} {e : Entry} :
    e ∈ (ofRules rules).entries ↔ ∃ rule ∈ rules, Entry.ofRule? rule = some e := by
  simp [ofRules, List.filterMap_map]

/-- The document of one rule is accepted if its filter is. -/
theorem Conversion.validate_singleton {rule : Rule} (converted : (Entry.ofRule? rule).isSome) :
    validate (ofRules [rule]).document =
      match checkFilter (some (.str (patternOf rule.condition))) with
      | .ok () => .ok 1
      | .error found => .error (found.inEntry 0) := by
  obtain ⟨e, converted⟩ := Option.isSome_iff_exists.1 converted
  obtain ⟨fits, filter⟩ := Entry.fits_of_rule converted
  have entries : (ofRules [rule]).entries = [e] := by
    simp [ofRules, converted]
  have few : (ofRules [rule]).entries.length ≤ entryBound := by
    rw [entries]
    exact Nat.succ_le_of_lt (by decide)
  rw [validate_document few, entries, List.map_singleton, checkEntries_cons,
    checkEntry_toJson fits, filter]
  cases checkFilter (some (.str (patternOf rule.condition))) <;> rfl

/-! ## Filters of conditions -/

/-- A pattern passes its check just if it is read. -/
theorem checkPattern_ok_iff (pattern : List Char) :
    checkPattern pattern = .ok () ↔ ∃ node, Regex.check pattern = .ok node := by
  unfold checkPattern
  cases Regex.check pattern with
  | ok node => simp
  | error refusal => cases refusal <;> simp [reject]

/-- The pattern of a condition is read, unless it is the condition's own and is malformed. -/
theorem check_patternOf (c : Condition) :
    (∃ node, Regex.check ((patternOf c).map CodePoint.char) = .ok node) ↔
      c.urlFilter.isSome ∨ c.regexFilter = none ∨
        ∃ pattern node, c.regexFilter = some pattern ∧
          Regex.check (pattern.map CodePoint.char) = .ok node := by
  cases filtered : c.urlFilter with
  | some filter =>
    have same : patternOf c = UrlFilter.pattern filter := by rw [patternOf, filtered]
    rw [same]
    exact iff_of_true ⟨_, UrlFilter.check_pattern filter⟩ (.inl rfl)
  | none =>
    cases own : c.regexFilter with
    | none =>
      have same : patternOf c = UrlFilter.pattern "*" := by
        rw [patternOf, filtered, own]
        rfl
      rw [same]
      exact iff_of_true ⟨_, UrlFilter.check_pattern "*"⟩ (.inr (.inl rfl))
    | some pattern =>
      have same : patternOf c = pattern := by rw [patternOf, filtered, own]
      rw [same]
      simp

/-- The filter of a condition is accepted just if it is not empty, in ASCII, and well-formed where
it is the condition's own pattern. -/
theorem checkFilter_patternOf (c : Condition) :
    checkFilter (some (.str (patternOf c))) = .ok () ↔
      patternOf c ≠ [] ∧ (patternOf c).IsAscii ∧
        (c.urlFilter.isSome ∨ c.regexFilter = none ∨
          ∃ pattern node, c.regexFilter = some pattern ∧
            Regex.check (pattern.map CodePoint.char) = .ok node) := by
  rw [← check_patternOf, ← checkPattern_ok_iff, checkFilter_str]
  by_cases empty : patternOf c = []
  · simp [empty, reject]
  · by_cases ascii : (patternOf c).IsAscii
    · rw [if_neg empty, if_pos ascii]
      simp [empty, ascii]
    · simp [empty, ascii, reject]

/-- The pattern of a filter in ASCII that is not empty is accepted. -/
theorem checkFilter_pattern {filter : Text} (some : filter ≠ []) (ascii : filter.IsAscii) :
    checkFilter (Option.some (.str (UrlFilter.pattern filter))) = .ok () := by
  rw [checkFilter_str, if_neg (UrlFilter.pattern_ne_nil some),
    if_pos (UrlFilter.isAscii_pattern ascii), checkPattern_ok_iff]
  exact ⟨_, UrlFilter.check_pattern filter⟩

/-! ## Conversions -/

/-- The document of a conversion is accepted just if each filter in it is not empty, in ASCII, and
well-formed where it is a rule's own pattern; the count is that of the entries.  The patterns that
filters are converted to are well-formed, and what is found in a document is always found in a
filter. -/
theorem accepted_iff (rules : List Rule)
    (few : (Conversion.ofRules rules).entries.length ≤ entryBound) :
    let c := Conversion.ofRules rules
    (∀ count, validate c.document = .ok count ↔
      count = c.entries.length ∧ ∀ rule ∈ rules, ∀ e, Entry.ofRule? rule = some e →
        e.trigger.urlFilter ≠ [] ∧ e.trigger.urlFilter.IsAscii ∧
          (rule.condition.urlFilter.isSome ∨ rule.condition.regexFilter = none ∨
            ∃ pattern node, rule.condition.regexFilter = some pattern ∧
              Regex.check (pattern.map CodePoint.char) = .ok node)) ∧
      (∀ filter : Text, filter ≠ [] → filter.IsAscii →
        (∃ node, Regex.check ((UrlFilter.pattern filter).map CodePoint.char) = .ok node) ∧
          checkFilter (some (.str (UrlFilter.pattern filter))) = .ok ()) ∧
      ∀ finding, validate c.document = .error finding →
        ∃ index e found, c.entries[index]? = some e ∧
          checkFilter (some (.str e.trigger.urlFilter)) = .error found ∧
            finding = found.inEntry index := by
  intro c
  have validated := Conversion.validate_document few
  have entry {e : Entry} (mem : e ∈ c.entries) :
      checkEntry e.toJson.reread = checkFilter (some (.str e.trigger.urlFilter)) := by
    obtain ⟨rule, -, converted⟩ := Conversion.mem_entries.1 mem
    exact checkEntry_toJson (Entry.fits_of_rule converted).1
  refine ⟨fun count => ?_, fun filter some ascii =>
    ⟨⟨_, UrlFilter.check_pattern filter⟩, checkFilter_pattern some ascii⟩, ?_⟩
  · have accepted : checkEntries 0 (c.entries.map fun e => e.toJson.reread) = .ok () ↔
        ∀ rule ∈ rules, ∀ e, Entry.ofRule? rule = some e →
          e.trigger.urlFilter ≠ [] ∧ e.trigger.urlFilter.IsAscii ∧
            (rule.condition.urlFilter.isSome ∨ rule.condition.regexFilter = none ∨
              ∃ pattern node, rule.condition.regexFilter = some pattern ∧
                Regex.check (pattern.map CodePoint.char) = .ok node) := by
      rw [checkEntries_ok_iff, List.forall_mem_map]
      constructor
      · intro passes rule mem e converted
        have here : e ∈ c.entries := Conversion.mem_entries.2 ⟨rule, mem, converted⟩
        rw [(Entry.fits_of_rule converted).2, ← checkFilter_patternOf,
          ← (Entry.fits_of_rule converted).2, ← entry here]
        exact passes e here
      · intro filters e here
        obtain ⟨rule, mem, converted⟩ := Conversion.mem_entries.1 here
        have filter := filters rule mem e converted
        rw [(Entry.fits_of_rule converted).2, ← checkFilter_patternOf] at filter
        rw [entry here, (Entry.fits_of_rule converted).2]
        exact filter
    rw [validated, ← accepted]
    cases checkEntries 0 (c.entries.map fun e => e.toJson.reread) with
    | ok => simp [Except.map, c, eq_comm]
    | error finding => simp [Except.map]
  · intro finding rejected
    rw [validated] at rejected
    cases checked : checkEntries 0 (c.entries.map fun e => e.toJson.reread) with
    | ok =>
      rw [checked] at rejected
      cases rejected
    | error other =>
      rw [checked] at rejected
      cases rejected
      obtain ⟨n, v, found, here, fault, -, rfl⟩ := checkEntries_error checked
      rw [List.getElem?_map] at here
      obtain ⟨e, at_, rfl⟩ := Option.map_eq_some_iff.1 here
      rw [entry (List.mem_of_getElem? at_)] at fault
      exact ⟨n, e, found, at_, fault, congrArg found.inEntry (Nat.zero_add n)⟩

/-- Two entries, one with a filter and one with a pattern of its own, are accepted. -/
theorem filter_and_pattern_accepted :
    let rule (urlFilter regexFilter : Option Text) : Rule :=
      ⟨1, none, ⟨.block, none, none, none⟩, ⟨urlFilter, regexFilter, none, none, none, none, none,
        none, none, none, none, none, none, none, none, none⟩⟩
    let rules := [rule (some "||ads.example^(x|") none, rule none (some "^https?://a[.]b/")]
    (Conversion.ofRules rules).entries.length ≤ entryBound ∧
      validate (Conversion.ofRules rules).document = .ok 2 := by
  intro rule rules
  have few : (Conversion.ofRules rules).entries.length ≤ entryBound := by decide
  have read : checkPattern ((Text.ofString "^https?://a[.]b/").map CodePoint.char) = .ok () := by
    decide +kernel
  obtain ⟨node, read⟩ := (checkPattern_ok_iff _).1 read
  refine ⟨few, ((accepted_iff rules few).1 2).2 ⟨rfl, ?_⟩⟩
  intro r mem e converted
  rcases List.mem_pair.1 mem with rfl | rfl
  · rw [(Entry.fits_of_rule converted).2]
    exact ⟨by decide, by decide, .inl rfl⟩
  · rw [(Entry.fits_of_rule converted).2]
    exact ⟨by decide, by decide, .inr (.inr ⟨_, node, rfl, read⟩)⟩

end ContentBlocker.RuleList
