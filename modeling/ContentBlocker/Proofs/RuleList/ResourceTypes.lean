import ContentBlocker.Proofs.Lists
import ContentBlocker.Proofs.RuleList.Acceptance
import Mathlib.Data.Finset.Insert
import Mathlib.Data.List.Induction
import Mathlib.Data.Set.Basic

/-!
# Kinds of loads of conditions

A condition names kinds of loads by words, some of which name none.  `ofCondition_eq` says what
becomes of its words, and `resource_types_are_exact` what this means for triggers: only words that
all name nothing leave a condition without one, and no trigger applies to more kinds of loads than
were named.
-/

namespace ContentBlocker.RuleList

/-! ## Lists without repetitions -/

section Order

variable {α : Type} [DecidableEq α]

/-- A list has the members of another, each once, in the order of their first places there. -/
structure ListsFirsts (list of : List α) : Prop where
  mem_iff : ∀ a, a ∈ list ↔ a ∈ of
  order : list.Pairwise fun a b => of.idxOf a < of.idxOf b

theorem ListsFirsts.nodup {list of : List α} (h : ListsFirsts list of) : list.Nodup := by
  refine List.Pairwise.imp ?_ h.order
  rintro a _ lt rfl
  exact Nat.lt_irrefl _ lt

theorem listsFirsts_eraseDups (of : List α) : ListsFirsts of.eraseDups of := by
  refine ⟨fun a => List.mem_eraseDups, ?_⟩
  -- the last member is listed only if it is new, and then behind all others
  induction of using List.reverseRecOn with
  | nil => exact .nil
  | append_singleton of a ih =>
    have place {b : α} (mem : b ∈ of) : (of ++ [a]).idxOf b = of.idxOf b := by
      rw [List.idxOf_append, if_pos mem]
    have before : of.eraseDups.Pairwise fun b c => (of ++ [a]).idxOf b < (of ++ [a]).idxOf c := by
      refine ih.imp_of_mem fun {b c} first second lt => ?_
      rwa [place (List.mem_eraseDups.1 first), place (List.mem_eraseDups.1 second)]
    by_cases old : a ∈ of
    · rwa [eraseDups_concat_of_mem old]
    · rw [eraseDups_concat_of_not_mem old, List.pairwise_append]
      refine ⟨before, List.pairwise_singleton _ _, fun b mem c last => ?_⟩
      rw [List.mem_singleton.1 last, place (List.mem_eraseDups.1 mem), List.idxOf_append,
        if_neg old, List.idxOf_cons_self]
      exact (List.idxOf_lt_length_of_mem (List.mem_eraseDups.1 mem)).trans_eq (Nat.zero_add _).symm

end Order

/-! ## Words -/

/-- The lower-case forms of the words of a list, which has none if it is absent. -/
def lowerForms (given : Option (List Text)) : Set Text :=
  {form | ∃ word ∈ given.getD [], Text.lower word = form}

theorem lowerForms_eq_empty {given : Option (List Text)} :
    lowerForms given = ∅ ↔ given.getD [] = [] := by
  simp [lowerForms, Set.eq_empty_iff_forall_notMem, List.eq_nil_iff_forall_not_mem]

theorem nonEmpty?_of_nil {α : Type} {given : Option (List α)} (none : given.getD [] = []) :
    nonEmpty? given = .none := by
  match given, none with
  | .none, _ | some [], _ => rfl

theorem nonEmpty?_of_ne {α : Type} {given : Option (List α)} (filled : given.getD [] ≠ []) :
    nonEmpty? given = some (given.getD []) := by
  match given, filled with
  | none, filled | some [], filled => exact absurd rfl filled
  | some (a :: as), _ => rfl

namespace ResourceType

variable {words : List Text} {t : ResourceType}

theorem mem_ofWords : t ∈ ofWords words ↔ ∃ word ∈ words, named? word = some t := by
  rw [ofWords, List.mem_eraseDups, List.mem_filterMap]

/-- Which kinds words name depends on their lower-case forms alone. -/
theorem mem_ofWords_iff {given : Option (List Text)} :
    t ∈ ofWords (given.getD []) ↔ ∃ form ∈ lowerForms given, form.string?.bind ofWord? = some t := by
  rw [mem_ofWords]
  constructor
  · rintro ⟨word, mem, named⟩
    exact ⟨_, ⟨word, mem, rfl⟩, named⟩
  · rintro ⟨_, ⟨word, mem, rfl⟩, named⟩
    exact ⟨word, mem, named⟩

theorem ofWords_eq_nil : ofWords words = [] ↔ words.filterMap named? = [] := by
  simp only [List.eq_nil_iff_forall_not_mem, mem_ofWords, List.mem_filterMap]

/-- Raw loads have no name. -/
theorem named?_ne_raw (word : Text) : named? word ≠ some .raw := by
  unfold named?
  intro named
  obtain ⟨form, -, named⟩ := Option.bind_eq_some_iff.1 named
  unfold ofWord? at named
  split at named <;> cases named

/-- The kinds that are left if words are excluded. -/
theorem except_ne_nil (words : List Text) :
    (all.filter fun t => !(ofWords words).contains t) ≠ [] := by
  have raw : ResourceType.raw ∉ ofWords words := by
    rw [mem_ofWords]
    rintro ⟨word, -, named⟩
    exact named?_ne_raw word named
  exact List.ne_nil_of_mem (List.mem_filter.2 ⟨mem_all .raw, by simpa using raw⟩)

theorem name_injective : Function.Injective name := by
  intro t u same
  cases t <;> cases u <;> first | rfl | exact absurd same (by decide)

theorem nodup_all : all.Nodup := by decide

theorem toFinset_ofWords {given given' : Option (List Text)}
    (same : lowerForms given = lowerForms given') :
    (ofWords (given.getD [])).toFinset = (ofWords (given'.getD [])).toFinset := by
  ext t
  rw [List.mem_toFinset, List.mem_toFinset, mem_ofWords_iff, mem_ofWords_iff, same]

/-! ## Conditions -/

/-- The words for kinds of loads count if there are any, else those for excluded kinds. -/
theorem ofCondition_eq (c : Condition) :
    ofCondition c =
      if c.resourceTypes.getD [] ≠ [] then some (ofWords (c.resourceTypes.getD []))
      else if c.excludedResourceTypes.getD [] ≠ [] then
        some (all.filter fun t => !(ofWords (c.excludedResourceTypes.getD [])).contains t)
      else none := by
  unfold ofCondition
  split_ifs with wanted excluded
  · rw [nonEmpty?_of_ne wanted]
  · rw [nonEmpty?_of_nil (not_not.1 wanted), nonEmpty?_of_ne excluded]
  · rw [nonEmpty?_of_nil (not_not.1 wanted), nonEmpty?_of_nil (not_not.1 excluded)]

theorem nodup_of_ofCondition {c : Condition} {types : List ResourceType}
    (here : ofCondition c = some types) : types.Nodup := by
  rw [ofCondition_eq] at here
  split_ifs at here
  · obtain rfl := Option.some.inj here
    exact (listsFirsts_eraseDups _).nodup
  · obtain rfl := Option.some.inj here
    exact nodup_all.filter _

/-- Which kinds of loads a condition restricts a rule to depends on the lower-case forms of the
words that count. -/
theorem toFinset_ofCondition {c c' : Condition}
    (same : lowerForms c.resourceTypes = lowerForms c'.resourceTypes)
    (sameExcluded : lowerForms c.resourceTypes = ∅ →
      lowerForms c.excludedResourceTypes = lowerForms c'.excludedResourceTypes) :
    (ofCondition c).map List.toFinset = (ofCondition c').map List.toFinset := by
  rw [ofCondition_eq, ofCondition_eq]
  by_cases none : lowerForms c.resourceTypes = ∅
  · have none' : lowerForms c'.resourceTypes = ∅ := same ▸ none
    rw [if_neg (not_not.2 (lowerForms_eq_empty.1 none)),
      if_neg (not_not.2 (lowerForms_eq_empty.1 none'))]
    have some : c.excludedResourceTypes.getD [] ≠ [] ↔ c'.excludedResourceTypes.getD [] ≠ [] := by
      rw [Ne, Ne, ← lowerForms_eq_empty, ← lowerForms_eq_empty, sameExcluded none]
    have listed (t : ResourceType) : t ∈ ofWords (c.excludedResourceTypes.getD []) ↔
        t ∈ ofWords (c'.excludedResourceTypes.getD []) := by
      rw [mem_ofWords_iff, mem_ofWords_iff, sameExcluded none]
    simp only [some, List.contains_eq_mem, listed]
  · have none' : lowerForms c'.resourceTypes ≠ ∅ := same ▸ none
    rw [if_pos (mt lowerForms_eq_empty.2 none), if_pos (mt lowerForms_eq_empty.2 none'),
      Option.map_some, Option.map_some, toFinset_ofWords same]

end ResourceType

/-! ## Triggers -/

/-- What a trigger has in a field. -/
def Trigger.field? (t : Trigger) (key : Text) : Option Json :=
  t.toJson.obj?.bind fun fields => fields.get? key

theorem Trigger.field?_eq (t : Trigger) (key : Text) : t.field? key = (t.pairs.get? key).join :=
  Table.get?_present t.plain_pairs.nodup key

namespace Trigger

variable {c c' : Condition} {t t' : Trigger}

theorem ofCondition?_eq_none_iff_types :
    ofCondition? c = none ↔ ResourceType.ofCondition c = some [] := by
  unfold ofCondition?
  split
  · rename_i none
    simp [none]
  · rename_i other
    exact iff_of_false (by simp) other

/-- Only a condition whose words for kinds of loads name none has no trigger. -/
theorem ofCondition?_eq_none :
    ofCondition? c = none ↔
      c.resourceTypes.getD [] ≠ [] ∧
        (c.resourceTypes.getD []).filterMap ResourceType.named? = [] := by
  rw [ofCondition?_eq_none_iff_types, ResourceType.ofCondition_eq, ← ResourceType.ofWords_eq_nil]
  split_ifs with wanted excluded
  · simp [wanted]
  · exact iff_of_false (fun same => ResourceType.except_ne_nil _ (Option.some.inj same))
      fun h => wanted h.1
  · simp [wanted]

theorem resourceTypes_of_ofCondition? (made : ofCondition? c = some t) :
    t.resourceTypes = ResourceType.ofCondition c := by
  unfold ofCondition? at made
  split at made
  · cases made
  · rw [← Option.some.inj made]
    rfl

theorem resourceTypes_ne_nil (made : ofCondition? c = some t) : t.resourceTypes ≠ some [] := by
  rw [resourceTypes_of_ofCondition? made, Ne, ← ofCondition?_eq_none_iff_types, made]
  exact Option.some_ne_none t

theorem field?_resourceTypes (t : Trigger) :
    t.field? "resource-type" = t.resourceTypes.map fun types => .strings (types.map (·.name)) :=
  t.field?_eq "resource-type"

/-- A condition has no trigger just if it has words for kinds of loads and none of them names one.
Words that name some make the field of the trigger: these kinds, each once, in the order in which
they are first named.  Without words, those for excluded kinds leave all others, in the order of the
vocabulary; without either there is no such field.  The kinds in it are known, differ and are never
none, and which they are depends only on the lower-case forms of the words that count. -/
theorem resource_types_are_exact (c : Condition) :
    let words := c.resourceTypes.getD []
    let excluded := c.excludedResourceTypes.getD []
    (ofCondition? c = none ↔ words ≠ [] ∧ ∀ word ∈ words, ResourceType.named? word = none) ∧
      (∀ t, ofCondition? c = some t →
        (t.field? "resource-type" =
          t.resourceTypes.map fun types => .strings (types.map (·.name))) ∧
        (words ≠ [] → ∃ types, t.resourceTypes = some types ∧
          ListsFirsts types (words.filterMap ResourceType.named?)) ∧
        (words = [] → excluded ≠ [] → t.resourceTypes =
          some (ResourceType.all.filter fun type =>
            ∀ word ∈ excluded, ResourceType.named? word ≠ some type)) ∧
        (words = [] → excluded = [] → t.resourceTypes = none) ∧
        ∀ types, t.resourceTypes = some types →
          types ≠ [] ∧ (types.map (·.name)).Nodup ∧ types.map (·.name) ⊆ RuleList.resourceTypes) ∧
      ∀ c', lowerForms c.resourceTypes = lowerForms c'.resourceTypes →
        (lowerForms c.resourceTypes = ∅ →
          lowerForms c.excludedResourceTypes = lowerForms c'.excludedResourceTypes) →
        (ofCondition? c = none ↔ ofCondition? c' = none) ∧
        ∀ t t', ofCondition? c = some t → ofCondition? c' = some t' →
          t.resourceTypes.map List.toFinset = t'.resourceTypes.map List.toFinset := by
  intro words excluded
  refine ⟨?_, fun t made => ?_, fun c' same sameExcluded => ?_⟩
  · rw [ofCondition?_eq_none, List.filterMap_eq_nil_iff]
  · have types := (resourceTypes_of_ofCondition? made).trans (ResourceType.ofCondition_eq c)
    refine ⟨t.field?_resourceTypes, fun some => ?_, fun none some => ?_, fun none noneExcluded => ?_,
      fun listed here => ⟨?_, ?_, ?_⟩⟩
    · exact ⟨_, types.trans (if_pos some), listsFirsts_eraseDups _⟩
    · rw [types, if_neg (not_not.2 none), if_pos some]
      refine congrArg Option.some (List.filter_congr fun type _ => Bool.eq_iff_iff.2 ?_)
      simp [ResourceType.mem_ofWords, excluded]
    · rw [types, if_neg (not_not.2 none), if_neg (not_not.2 noneExcluded)]
    · rintro rfl
      exact resourceTypes_ne_nil made here
    · rw [resourceTypes_of_ofCondition? made] at here
      exact (ResourceType.nodup_of_ofCondition here).map ResourceType.name_injective
    · exact List.map_subset _ fun type _ => ResourceType.mem_all type
  · have sets := ResourceType.toFinset_ofCondition same sameExcluded
    refine ⟨?_, fun t t' made made' => ?_⟩
    · have empty (d : Condition) : ofCondition? d = none ↔
          (ResourceType.ofCondition d).map List.toFinset = some ∅ := by
        simp [ofCondition?_eq_none_iff_types, List.toFinset_eq_empty_iff]
      rw [empty, empty, sets]
    · rw [resourceTypes_of_ofCondition? made, resourceTypes_of_ofCondition? made', sets]

/-- Words in another order and case, some twice, name the same kinds of loads. -/
theorem order_and_case_of_words_do_not_count :
    let condition (resourceTypes : List Text) : Condition :=
      ⟨some "||ads.example^", none, none, none, none, none, none, none, none, some resourceTypes,
        some ["image"], none, none, none, none, none⟩
    let c := condition ["sub_frame", "Ping", "csp", "main_frame"]
    let c' := condition ["PING", "csp", "Main_Frame", "sub_frame", "ping"]
    ∃ t t', ofCondition? c = some t ∧ ofCondition? c' = some t' ∧
      lowerForms c.resourceTypes = lowerForms c'.resourceTypes ∧
      (t.field? "resource-type" = some (.strings ["document", "ping"]) ∧
        ∃ types, t.resourceTypes = some types ∧
          ListsFirsts types [.document, .ping, .document]) ∧
      t.resourceTypes.map List.toFinset = t'.resourceTypes.map List.toFinset := by
  intro condition c c'
  have within {d d' : Condition} (names : ∀ word ∈ d.resourceTypes.getD [],
      ∃ word' ∈ d'.resourceTypes.getD [], Text.lower word' = Text.lower word) :
      lowerForms d.resourceTypes ⊆ lowerForms d'.resourceTypes := by
    rintro _ ⟨word, mem, rfl⟩
    exact names word mem
  have same : lowerForms c.resourceTypes = lowerForms c'.resourceTypes :=
    (within (by decide +kernel)).antisymm (within (by decide +kernel))
  have sameExcluded : lowerForms c.resourceTypes = ∅ →
      lowerForms c.excludedResourceTypes = lowerForms c'.excludedResourceTypes := fun _ => rfl
  obtain ⟨without, fields, independent⟩ := resource_types_are_exact c
  have made : ofCondition? c ≠ none := fun none =>
    absurd ((without.1 none).2 "Ping" (by decide)) (by decide +kernel)
  have made' := mt (independent c' same sameExcluded).1.2 made
  obtain ⟨t, here⟩ := Option.ne_none_iff_exists'.1 made
  obtain ⟨t', here'⟩ := Option.ne_none_iff_exists'.1 made'
  obtain ⟨field, some, -⟩ := fields t here
  obtain ⟨types, listed, firsts⟩ := some (by decide)
  have named : (c.resourceTypes.getD []).filterMap ResourceType.named? =
      [.document, .ping, .document] := by decide +kernel
  have eq : t.resourceTypes = Option.some [.document, .ping] := by
    rw [resourceTypes_of_ofCondition? here, ResourceType.ofCondition_eq, if_pos (by decide),
      ResourceType.ofWords, named]
    rfl
  rw [named] at firsts
  rw [eq] at field
  exact ⟨t, t', here, here', same, ⟨field, types, listed, firsts⟩,
    (independent c' same sameExcluded).2 t t' here here'⟩

end Trigger

end ContentBlocker.RuleList
