import ContentBlocker.Proofs.RuleList.ResourceTypes
import ContentBlocker.Rule.Reading
import Mathlib.Data.List.DropRight

/-!
# Domains of conditions

A condition restricts a rule to the first of three lists of domains that lists any.  Its entry keeps
to them unless all of them are blank, in which case it applies to every site:
`entries_keep_to_domains_iff`.
-/

namespace ContentBlocker

theorem Text.trim_eq_nil {s : Text} : trim s = [] ↔ ∀ p ∈ s, isBlank p := by
  change (s.dropWhile isBlank).rdropWhile isBlank = [] ↔ _
  rw [List.rdropWhile_eq_nil_iff]
  refine ⟨fun later p mem => ?_, fun all p mem => all p ((List.dropWhile_sublist _).mem mem)⟩
  rw [← List.takeWhile_append_dropWhile (p := isBlank) (l := s), List.mem_append] at mem
  exact mem.elim List.mem_takeWhile_imp (later p)

namespace RuleList

/-! ## Lists of domains -/

/-- The first of several lists that has an item. -/
def FirstListed (lists : List (Option (List Text))) (domains : List Text) : Prop :=
  ∃ before after, lists = before ++ some domains :: after ∧ domains ≠ [] ∧
    ∀ given ∈ before, given.getD [] = []

/-- Whether a text names a domain. -/
def IsNamed (domain : Text) : Prop := ∃ p ∈ domain, ¬ Text.isBlank p

section FirstListed

variable {lists : List (Option (List Text))} {domains : List Text}

theorem exists_firstListed (filled : ∃ given ∈ lists, given.getD [] ≠ []) :
    ∃ domains, FirstListed lists domains := by
  induction lists with
  | nil => simp at filled
  | cons given rest ih =>
    by_cases none : given.getD [] = []
    · obtain ⟨domains, before, after, rfl, some, empty⟩ := ih (by simpa [none] using filled)
      exact ⟨domains, given :: before, after, rfl, some, List.forall_mem_cons.2 ⟨none, empty⟩⟩
    · cases given with
      | none => exact absurd rfl none
      | some domains => exact ⟨domains, [], rest, rfl, none, List.forall_mem_nil _⟩

theorem FirstListed.domainPatterns_eq (first : FirstListed lists domains) :
    domainPatterns lists = domains.filterMap domainPattern? := by
  obtain ⟨before, after, rfl, some, empty⟩ := first
  have skipped : before.findSome? nonEmpty? = none :=
    List.findSome?_eq_none_iff.2 fun given mem => nonEmpty?_of_nil (empty given mem)
  have here : nonEmpty? (Option.some domains) = Option.some domains := nonEmpty?_of_ne some
  rw [domainPatterns, List.findSome?_append, skipped, List.findSome?_cons, here]
  rfl

end FirstListed

/-! ## Patterns of domains -/

theorem domainPattern?_eq_some {domain pattern : Text} :
    domainPattern? domain = some pattern ↔
      IsNamed domain ∧ pattern = "*" ++ Text.lower (Text.trim domain) := by
  have named : IsNamed domain ↔ Text.trim domain ≠ [] := by
    rw [Ne, Text.trim_eq_nil, IsNamed]
    push Not
    rfl
  unfold domainPattern?
  split
  · rename_i blank
    simp [named, blank]
  · rename_i filled
    rw [named, Option.some.injEq, and_iff_right filled, eq_comm]

/-- A trigger that applies only to given domains, or some of them, and those below them. -/
def Trigger.KeepsTo (t : Trigger) (domains : List Text) : Prop :=
  ∃ patterns, t.field? "if-domain" = some (.texts patterns) ∧ patterns ≠ [] ∧
    ∀ pattern ∈ patterns, ∃ domain ∈ domains, pattern = "*" ++ Text.lower (Text.trim domain)

theorem Trigger.field?_ifDomain (t : Trigger) :
    t.field? "if-domain" = t.ifDomain.map .texts :=
  t.field?_eq "if-domain"

theorem Trigger.KeepsTo.field?_ne_none {t : Trigger} {domains : List Text}
    (keeps : t.KeepsTo domains) : t.field? "if-domain" ≠ none := by
  obtain ⟨patterns, field, -⟩ := keeps
  rw [field]
  exact Option.some_ne_none _

/-! ## Entries -/

section Entries

variable {rule : Rule} {e : Entry} {domains : List Text}
  (converted : Entry.ofRule? rule = some e)
  (first : FirstListed [rule.condition.initiatorDomains, rule.condition.domains,
    rule.condition.requestDomains] domains)
include converted first

theorem Entry.ifDomain_of_rule :
    e.trigger.ifDomain = nonEmpty? (some (domains.filterMap domainPattern?)) := by
  rw [(Entry.trigger_of_rule converted).2, ← first.domainPatterns_eq]
  rfl

/-- One domain is enough for an entry that keeps to the domains of its rule. -/
theorem Entry.keepsTo_of_isNamed (named : ∃ domain ∈ domains, IsNamed domain) :
    e.trigger.KeepsTo domains := by
  obtain ⟨domain, mem, name⟩ := named
  have filled : domains.filterMap domainPattern? ≠ [] :=
    List.ne_nil_of_mem (List.mem_filterMap.2 ⟨domain, mem, domainPattern?_eq_some.2 ⟨name, rfl⟩⟩)
  have all : nonEmpty? (some (domains.filterMap domainPattern?)) =
      some (domains.filterMap domainPattern?) := nonEmpty?_of_ne filled
  refine ⟨domains.filterMap domainPattern?, ?_, filled, fun pattern here => ?_⟩
  · rw [Trigger.field?_ifDomain, Entry.ifDomain_of_rule converted first, all]
    rfl
  · obtain ⟨source, among, made⟩ := List.mem_filterMap.1 here
    exact ⟨source, among, (domainPattern?_eq_some.1 made).2⟩

theorem Entry.field?_ifDomain_of_blank (blank : ¬ ∃ domain ∈ domains, IsNamed domain) :
    e.trigger.field? "if-domain" = none := by
  have empty : domains.filterMap domainPattern? = [] := by
    refine List.filterMap_eq_nil_iff.2 fun domain mem => Option.eq_none_iff_forall_ne_some.2 ?_
    exact fun pattern made => blank ⟨domain, mem, (domainPattern?_eq_some.1 made).1⟩
  rw [Trigger.field?_ifDomain, Entry.ifDomain_of_rule converted first, empty]
  rfl

end Entries

/-! ## Rules without entries -/

theorem Effect.ofAction?_eq_none {action : ActionType} :
    Effect.ofAction? action = none ↔ action = .modifyHeaders := by
  cases action <;> simp [Effect.ofAction?]

theorem Entry.ofRule?_eq_none {rule : Rule} :
    Entry.ofRule? rule = none ↔
      rule.action.type = .modifyHeaders ∨
        rule.condition.resourceTypes.getD [] ≠ [] ∧
          ∀ word ∈ rule.condition.resourceTypes.getD [], ResourceType.named? word = none := by
  rw [← Effect.ofAction?_eq_none, ← List.filterMap_eq_nil_iff, ← Trigger.ofCondition?_eq_none]
  unfold Entry.ofRule?
  cases Effect.ofAction? rule.action.type with
  | none => simp
  | some effect => cases Trigger.ofCondition? rule.condition <;> simp

/-- A rule that names domains, in the first list that has any, has an entry that keeps to them just
if it has no entry at all, as its effect or its kinds of loads have no counterpart, or if a text in
that list is not blank.  Otherwise its entry applies to every site. -/
theorem entries_keep_to_domains_iff (rule : Rule) :
    let lists := [rule.condition.initiatorDomains, rule.condition.domains,
      rule.condition.requestDomains]
    ((∃ given ∈ lists, given.getD [] ≠ []) → ∃ domains, FirstListed lists domains) ∧
      ∀ domains, FirstListed lists domains →
        ((∀ e, Entry.ofRule? rule = some e → e.trigger.KeepsTo domains) ↔
          rule.action.type = .modifyHeaders ∨
            (rule.condition.resourceTypes.getD [] ≠ [] ∧
              ∀ word ∈ rule.condition.resourceTypes.getD [], ResourceType.named? word = none) ∨
            ∃ domain ∈ domains, IsNamed domain) ∧
        ∀ e, Entry.ofRule? rule = some e → ¬ e.trigger.KeepsTo domains →
          e.trigger.field? "if-domain" = none := by
  intro lists
  refine ⟨exists_firstListed, fun domains first => ?_⟩
  refine ⟨⟨fun keeps => ?_, ?_⟩, fun e converted widened => ?_⟩
  · by_contra none
    rw [← or_assoc, ← Entry.ofRule?_eq_none, not_or] at none
    obtain ⟨e, converted⟩ := Option.ne_none_iff_exists'.1 none.1
    exact (keeps e converted).field?_ne_none
      (Entry.field?_ifDomain_of_blank converted first none.2)
  · rw [← or_assoc, ← Entry.ofRule?_eq_none]
    rintro (none | named) e converted
    · rw [none] at converted
      cases converted
    · exact Entry.keepsTo_of_isNamed converted first named
  · exact Entry.field?_ifDomain_of_blank converted first fun named =>
      widened (Entry.keepsTo_of_isNamed converted first named)

/-- A list with one blank text, behind one without any, is the first that lists a domain; among
blank texts, one domain is enough. -/
theorem one_domain_among_blanks :
    let rule (domains : List Text) : Rule :=
      ⟨1, none, ⟨.block, none, none, none⟩, ⟨some "||ads.example^", none, none, some [], none,
        some ["other.example"], none, some domains, none, none, none, none, none, none, none, none⟩⟩
    FirstListed [some [], some [" ", " Shop.Example "], some ["other.example"]]
        [" ", " Shop.Example "] ∧
      ∃ e, Entry.ofRule? (rule [" ", " Shop.Example "]) = some e ∧
        e.trigger.KeepsTo [" ", " Shop.Example "] := by
  intro rule
  have first : FirstListed [some [], some [" ", " Shop.Example "], some ["other.example"]]
      [" ", " Shop.Example "] :=
    ⟨[some []], [some ["other.example"]], rfl, List.cons_ne_nil _ _, by simp⟩
  have named : IsNamed " Shop.Example " := ⟨CodePoint.ofNat 0x53, by decide, by decide⟩
  have keeps := (((entries_keep_to_domains_iff (rule [" ", " Shop.Example "])).2 _ first).1).2
    (.inr (.inr ⟨_, by simp, named⟩))
  obtain ⟨e, converted⟩ : ∃ e, Entry.ofRule? (rule [" ", " Shop.Example "]) = some e := ⟨_, rfl⟩
  exact ⟨first, e, converted, keeps e converted⟩

/-- A rule whose only domain is a blank applies to every site. -/
theorem blank_domain_is_lost :
    let v : Json := .obj [("id", .int 1), ("action", .obj [("type", .str "block")]),
      ("condition", .obj [("urlFilter", .str "||ads.example^"),
        ("initiatorDomains", .arr [.str " "])])]
    let blank : Text := " "
    ∃ rule e, Rule.ofJson v = .ok rule ∧ rule.condition.initiatorDomains = some [blank] ∧
      Entry.ofRule? rule = some e ∧ ¬ e.trigger.KeepsTo [blank] ∧
        e.trigger.field? "if-domain" = none := by
  intro v blank
  obtain ⟨rule, e, read, listed, converted, none⟩ : ∃ rule e, Rule.ofJson v = .ok rule ∧
      rule.condition.initiatorDomains = some [blank] ∧ Entry.ofRule? rule = some e ∧
        e.trigger.ifDomain = none := ⟨_, _, rfl, rfl, rfl, rfl⟩
  have lost : e.trigger.field? "if-domain" = Option.none := by
    rw [Trigger.field?_ifDomain, none]
    rfl
  exact ⟨rule, e, read, listed, converted, fun keeps => keeps.field?_ne_none lost, lost⟩

end RuleList

end ContentBlocker
