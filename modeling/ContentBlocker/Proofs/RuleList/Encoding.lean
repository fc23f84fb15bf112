import ContentBlocker.Proofs.Json.Canonical
import ContentBlocker.Proofs.RuleList.Acceptance

/-!
# The encoding of rule lists

Rules whose texts hold no half of a surrogate pair are converted to a value that its document tells
all of: `Conversion.lossless_toJson`.  `documents_are_canonical` says what this means, for rule lists
and for any other value of the kind.
-/

namespace ContentBlocker

/-! ## Texts without surrogates -/

/-- A code point that is no half of a surrogate pair. -/
def CodePoint.IsScalar (p : CodePoint) : Prop := p.toNat < 0xD800 ∨ 0xE000 ≤ p.toNat

namespace Text

/-- A text without halves of surrogate pairs. -/
def IsWhole (s : Text) : Prop := ∀ p ∈ s, p.IsScalar

theorem IsWhole.rejoined {s : Text} (whole : s.IsWhole) : s.rejoined = s := by
  refine rejoined_of_plain fun p mem => ?_
  have outside : ¬ (0xD800 ≤ p.toNat ∧ p.toNat < 0xDC00) := by
    have := whole p mem
    unfold CodePoint.IsScalar at this
    omega
  simpa [Json.isHighSurrogate] using outside

theorem isWhole_trim {s : Text} (whole : s.IsWhole) : (trim s).IsWhole := by
  intro p mem
  refine whole p ?_
  unfold trim trimEnd trimStart at mem
  rw [List.mem_reverse] at mem
  exact (List.dropWhile_sublist _).mem (List.mem_reverse.1 ((List.dropWhile_sublist _).mem mem))

/-! ## Lower case -/

/-- No letter has half of a surrogate pair as its lower-case form. -/
theorem caseRuns_apart : ∀ run ∈ caseRuns,
    (run.last + run.shift : Int) < 0xD800 ∨ (0xE000 : Int) ≤ run.first + run.shift := by
  decide +kernel

theorem isScalar_ofNat {n : Nat} (apart : n < 0xD800 ∨ 0xE000 ≤ n) :
    (CodePoint.ofNat n).IsScalar := by
  unfold CodePoint.ofNat CodePoint.IsScalar
  split
  · exact apart
  · decide

theorem isWhole_lowerOne {p : CodePoint} (scalar : p.IsScalar) : (lowerOne p).IsWhole := by
  unfold lowerOne
  split
  · unfold IsWhole CodePoint.IsScalar
    decide
  · dsimp only
    split
    · rename_i run found
      have apart := caseRuns_apart run (List.mem_of_find?_eq_some found)
      have among := List.find?_some found
      simp only [Bool.and_eq_true, decide_eq_true_eq] at among
      intro q mem
      rw [List.mem_singleton.1 mem]
      exact isScalar_ofNat (by omega)
    · exact List.forall_mem_singleton.2 scalar

theorem isWhole_lower {s : Text} (whole : s.IsWhole) : (lower s).IsWhole := by
  have one {before after : Text} {p : CodePoint} (scalar : p.IsScalar) :
      (lowerAmid before after p).IsWhole := by
    unfold lowerAmid
    split
    · exact isWhole_lowerOne scalar
    · split <;>
      · unfold IsWhole CodePoint.IsScalar
        decide
  suffices general : ∀ before, (lowerAfter before s).IsWhole from general []
  induction s with
  | nil => exact fun _ => List.forall_mem_nil _
  | cons p s ih =>
    obtain ⟨first, later⟩ := List.forall_mem_cons.1 whole
    exact fun before => List.forall_mem_append.2 ⟨one first, ih later _⟩

end Text

namespace RuleList

/-! ## Rules without surrogates -/

/-- The texts of a condition that its trigger tells. -/
def conditionTexts (c : Condition) : List Text :=
  c.urlFilter.toList ++ c.regexFilter.toList ++
    [c.initiatorDomains, c.domains, c.requestDomains, c.excludedInitiatorDomains,
      c.excludedDomains, c.excludedRequestDomains].flatMap (·.getD [])

theorem isWhole_patternOf {c : Condition} (whole : ∀ s ∈ conditionTexts c, s.IsWhole) :
    (patternOf c).IsWhole := by
  have ascii {s : Text} (ascii : s.IsAscii) : s.IsWhole := fun p mem => .inl (by
    have := ascii p mem
    omega)
  unfold patternOf
  split
  · rename_i filter given
    have own : filter.IsWhole := whole filter (by simp [conditionTexts, given])
    intro q mem
    rcases UrlFilter.mem_pattern mem with small | here
    · exact .inl (by omega)
    · exact own q here
  · rename_i pattern _ given
    exact whole pattern (by simp [conditionTexts, given])
  · exact ascii (by decide)

theorem eq_of_nonEmpty? {α : Type} {given : Option (List α)} {items : List α}
    (some : nonEmpty? given = .some items) : given = .some items := by
  unfold nonEmpty? at some
  split at some
  · exact some
  · cases some

theorem isWhole_domainPatterns? {candidates : List (Option (List Text))} {domains : List Text}
    (whole : ∀ s ∈ candidates.flatMap (·.getD []), s.IsWhole)
    (patterns : domainPatterns? candidates = some domains) : ∀ s ∈ domains, s.IsWhole := by
  obtain rfl : domainPatterns candidates = domains := Option.some.inj (eq_of_nonEmpty? patterns)
  intro s mem
  obtain ⟨domain, listed, made⟩ := List.mem_filterMap.1 mem
  have own : domain.IsWhole := by
    cases first : candidates.findSome? nonEmpty? with
    | none => simp [first] at listed
    | some names =>
      rw [first, Option.getD_some] at listed
      obtain ⟨given, among, same⟩ := List.exists_of_findSome?_eq_some first
      obtain rfl : given = some names := eq_of_nonEmpty? same
      exact whole domain (List.mem_flatMap.2 ⟨_, among, listed⟩)
  unfold domainPattern? at made
  split at made
  · cases made
  · rw [← Option.some.inj made]
    refine List.forall_mem_append.2 ⟨?_, Text.isWhole_lower (Text.isWhole_trim own)⟩
    unfold CodePoint.IsScalar
    decide

/-! ## Values of rule lists -/

theorem lossless_strings (strings : List String) : (Json.strings strings).Lossless := by
  refine .arr fun v mem => ?_
  obtain ⟨s, -, rfl⟩ := List.mem_map.1 mem
  exact .str (Text.rejoined_ofString s)

theorem lossless_texts {texts : List Text} (whole : ∀ s ∈ texts, s.IsWhole) :
    (Json.texts texts).Lossless := by
  refine .arr fun v mem => ?_
  obtain ⟨s, here, rfl⟩ := List.mem_map.1 mem
  exact .str (whole s here).rejoined

theorem Trigger.lossless_toJson {t : Trigger} (filter : t.urlFilter.IsWhole)
    (patterns : ∀ domains, t.ifDomain = some domains ∨ t.unlessDomain = some domains →
      ∀ s ∈ domains, s.IsWhole) : t.toJson.Lossless :=
  .obj t.plain_pairs.present (forall_fields (.str filter.rejoined) (.bool true) lossless_strings
    fun domains given => lossless_texts (patterns domains given))

theorem Entry.lossless_toJson {rule : Rule} {e : Entry} (converted : Entry.ofRule? rule = some e)
    (whole : ∀ s ∈ conditionTexts rule.condition, s.IsWhole) : e.toJson.Lossless := by
  have trigger : e.trigger.toJson.Lossless := by
    rw [(Entry.trigger_of_rule converted).2]
    refine Trigger.lossless_toJson (isWhole_patternOf whole) fun domains given => ?_
    rcases given with given | given
    all_goals
      refine isWhole_domainPatterns? (fun s mem => whole s ?_) given
      simp only [conditionTexts, List.mem_append, List.flatMap_cons] at mem ⊢
      tauto
  have plain {α : Type} (keys : List String) (fields : Table Text α)
      (named : fields.keys = keys.map Text.ofString) (nodup : keys.Nodup) : Json.Plain fields :=
    Json.plain_of_strings keys named nodup
  refine .obj (plain ["trigger", "action"] _ rfl (by decide)) ?_
  simp only [List.forall_mem_cons, List.not_mem_nil, false_imp_iff, implies_true, and_true]
  refine ⟨trigger, .obj (plain ["type"] _ rfl (by decide)) ?_⟩
  exact List.forall_mem_singleton.2 (.str (Text.rejoined_ofString _))

/-- Rules without halves of surrogate pairs are converted to a value that its document tells all
of. -/
theorem Conversion.lossless_toJson {rules : List Rule}
    (whole : ∀ rule ∈ rules, ∀ s ∈ conditionTexts rule.condition, s.IsWhole) :
    (Conversion.ofRules rules).toJson.Lossless := by
  refine .arr fun v mem => ?_
  obtain ⟨e, among, rfl⟩ := List.mem_map.1 mem
  obtain ⟨rule, here, converted⟩ := Conversion.mem_entries.1 among
  exact Entry.lossless_toJson converted (whole rule here)

/-! ## Documents -/

/-- A document is in ASCII and is read back as the value that it was written for, up to the order of
fields.  Its objects tell each field once, in the order of the keys.  Two values have one document
just if they are the same up to that order.  Rule lists are such values, if the rules have no halves
of surrogate pairs in their texts. -/
theorem documents_are_canonical :
    (∀ v : Json, v.Lossless →
      (∀ c ∈ v.pretty.toList, c.toNat < 128) ∧
        ∃ w, Json.read v.pretty = .ok w ∧ v.Same w ∧ w.Ordered) ∧
      (∀ (fields : Fields) (level : Nat), (Json.obj fields).Lossless →
        ∃ lines : Fields, lines.Perm fields ∧ lines.keys.Pairwise Text.Before ∧
          Json.prettyChars level (.obj fields) =
            Json.block level '\x7b' '\x7d' (lines.map fun f =>
              Json.stringText f.1 ++ [':', ' '] ++ Json.prettyChars (level + 1) f.2)) ∧
      (∀ v w : Json, v.Lossless → w.Lossless → (v.pretty = w.pretty ↔ v.Same w)) ∧
      ∀ rules : List Rule,
        (∀ rule ∈ rules, ∀ s ∈ conditionTexts rule.condition, s.IsWhole) →
          (Conversion.ofRules rules).toJson.Lossless := by
  refine ⟨fun v lossless => ⟨?_, Json.read_pretty_same lossless⟩, fun fields level lossless => ?_,
    fun v w left right => Json.pretty_eq_iff left right,
    fun rules whole => Conversion.lossless_toJson whole⟩
  · rw [Json.pretty, String.toList_ofList]
    exact Json.isAscii_prettyChars lossless.exact 0
  · cases lossless with
    | obj plain => exact Json.exists_lines plain level

/-- A value with a smiling face, a line break and empty containers has one document in either order
of its fields; a rule list with a domain in Cyrillic letters is read back from its document. -/
theorem faces_and_domains_are_canonical :
    let face : Text := [CodePoint.ofNat 0x1F600, CodePoint.ofNat 10]
    let v : Json := .obj [("b", .arr [.int (-12), .str face]), ("a", .obj []), ("\"", .arr [])]
    let w : Json := .obj [("\"", .arr []), ("b", .arr [.int (-12), .str face]), ("a", .obj [])]
    let rule : Rule :=
      ⟨1, none, ⟨.block, none, none, none⟩, ⟨some "||ads.example^", none, none, some ["БАННЕР.РФ"],
        none, none, none, none, none, none, none, none, none, none, none, none⟩⟩
    v.Lossless ∧ w.Lossless ∧ v.pretty = w.pretty ∧ v.Same w ∧
      ∃ u, Json.read (Conversion.ofRules [rule]).document = .ok u ∧
        (Conversion.ofRules [rule]).toJson.Same u := by
  intro face v w rule
  have plain (keys : List String) (fields : Fields)
      (named : fields.keys = keys.map Text.ofString) (nodup : keys.Nodup) : Json.Plain fields :=
    Json.plain_of_strings keys named nodup
  have list : (Json.arr [.int (-12), .str face]).Lossless := by
    refine .arr ?_
    simp only [List.forall_mem_cons, List.not_mem_nil, false_imp_iff, implies_true, and_true]
    exact ⟨.int (by decide), .str (by decide)⟩
  have noItems : (Json.arr []).Lossless := .arr (List.forall_mem_nil _)
  have noFields : (Json.obj []).Lossless :=
    .obj (plain [] [] rfl (by decide)) (List.forall_mem_nil _)
  have left : v.Lossless := by
    refine .obj (plain ["b", "a", "\""] _ rfl (by decide)) ?_
    simp only [List.forall_mem_cons, List.not_mem_nil, false_imp_iff, implies_true, and_true]
    exact ⟨list, noFields, noItems⟩
  have right : w.Lossless := by
    refine .obj (plain ["\"", "b", "a"] _ rfl (by decide)) ?_
    simp only [List.forall_mem_cons, List.not_mem_nil, false_imp_iff, implies_true, and_true]
    exact ⟨noItems, list, noFields⟩
  have whole : ∀ r ∈ [rule], ∀ s ∈ conditionTexts r.condition, s.IsWhole := by
    rw [List.forall_mem_singleton]
    unfold Text.IsWhole CodePoint.IsScalar
    decide
  obtain ⟨back, -, one, lists⟩ := documents_are_canonical
  have same : v.Same w := Json.same_of_perm (List.perm_append_singleton _ [_, _]) left
  obtain ⟨u, read, like, -⟩ := (back _ (lists [rule] whole)).2
  exact ⟨left, right, (one v w left right).2 same, same, u, read, like⟩

end RuleList

end ContentBlocker
