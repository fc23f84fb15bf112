import ContentBlocker.Proofs.Manager.Removal
import ContentBlocker.Proofs.Manager.Rest
import ContentBlocker.Proofs.Message.Answers
import ContentBlocker.Proofs.Rule.RoundTrip
import ContentBlocker.Proofs.Store.Limits

/-!
# Rules sent back

A client that reads a tier and sends the rules back, with their ids as those to remove, changes
nothing.  `resubmission_changes_nothing` says so after any operations, and what the client is
answered.
-/

namespace ContentBlocker

/-! ## The store -/

section Tier

variable {s : Store} {client : String} {tier : Tier} {add : List Rule} {ids : List Int}

/-- An update that leaves a tier the rules that it has changes nothing. -/
theorem Store.updateTier_of_kept (known : s.has client)
    (fits : (((s.rulesOf client).tier tier).length : Int) ≤ s.limits.tier tier)
    (same : kept ((s.rulesOf client).tier tier) ids ++ add = (s.rulesOf client).tier tier) :
    let rules := (s.rulesOf client).tier tier
    s.updateTier client tier add ids =
      .ok (⟨tier, add.length, rules.length - (kept rules ids).length, rules.length⟩, s) := by
  have written : s.clients.set client
      ((s.rulesOf client).setTier tier ((s.rulesOf client).tier tier)) = s.clients := by
    obtain ⟨c, found⟩ := Option.isSome_iff_exists.1 known
    have back : (s.rulesOf client).setTier tier ((s.rulesOf client).tier tier) = c := by
      rw [← rulesOf_of_known found]
      cases tier <;> rfl
    rw [back]
    exact Table.set_of_get? found
  unfold updateTier
  dsimp only
  rw [same, if_neg fits.not_gt, written]

/-- A tier whose rules are replaced by themselves stays as it is. -/
theorem Store.updateTier_same (known : s.has client)
    (fits : (((s.rulesOf client).tier tier).length : Int) ≤ s.limits.tier tier)
    (all : ∀ r ∈ (s.rulesOf client).tier tier, r.id ∈ ids) :
    let rules := (s.rulesOf client).tier tier
    s.updateTier client tier rules ids = .ok (⟨tier, rules.length, rules.length, rules.length⟩, s) := by
  intro rules
  have none : kept rules ids = [] :=
    List.filter_eq_nil_iff.2 fun r mem => by simpa using all r mem
  have same : kept rules ids ++ rules = rules := by rw [none, List.nil_append]
  have made := updateTier_of_kept known fits same
  dsimp only at made
  rw [none] at made
  exact made

end Tier

namespace Manager

/-- The rules of every client are within the limits. -/
theorem within_replay {σ : Type} {limits : Limits} (nonneg : limits.Nonnegative)
    (service : Service σ) (state : σ) (expose : Bool) (ops : List Operation) (client : String) :
    ((((fresh limits state).replay service expose ops).store.rulesOf client).Within limits) := by
  let P (m : Manager σ) : Prop :=
    m.store.limits = limits ∧ ∀ client, (m.store.rulesOf client).Within limits
  have fresh : P (fresh limits state) := ⟨rfl, fun _ => ClientRules.within_empty nonneg⟩
  have step {m m' : Manager σ} (transition : Transition service m m') (h : P m) : P m' := by
    obtain ⟨rfl, within⟩ := h
    refine ⟨transition.limits, fun client => ?_⟩
    cases transition with
    | stay => exact within client
    | @compile _ change store accepted writes known =>
      cases change with
      | none =>
        cases accepted
        exact within client
      | some c => exact (Store.accepted_of_apply accepted).within nonneg within client
    | remove who => exact Store.Accepted.removeClient.within nonneg within client
  exact (replay_preserves_of_transition step fresh expose ops).2 client

theorem ofJson_jsonRules (rules : List Rule) : Batch.ofJson (jsonRules rules) = .ok ⟨rules, []⟩ := by
  rw [jsonRules, Batch.ofJson_arr, Batch.ofItems_toJson]

/-- The rules of the first client that gets any. -/
theorem store_updateTier_fresh {limits : Limits} (service : Service Archive) (client : String)
    (tier : Tier) {rules : List Rule} (fits : (rules.length : Int) ≤ limits.tier tier) :
    ((fresh limits .empty).replay service false
      [.updateTier client tier (jsonRules rules) .null]).store =
        ⟨limits, [(client, ClientRules.empty.setTier tier rules)]⟩ := by
  have none : ruleIds .null = .ok [] := rfl
  have made : (Store.empty limits).updateTier client tier rules [] =
      .ok (⟨tier, rules.length, 0, rules.length⟩,
        ⟨limits, [(client, ClientRules.empty.setTier tier rules)]⟩) := by
    have new : (Store.kept (ClientRules.empty.tier tier) [] ++ rules) = rules := by
      cases tier <;> rfl
    have unknown : (Store.empty limits).rulesOf client = .empty := rfl
    unfold Store.updateTier
    dsimp only
    rw [unknown, new]
    refine (if_neg fits.not_gt).trans ?_
    cases tier <;> rfl
  show ((fresh limits .empty).updateTier service client tier (jsonRules rules) .null).2.store = _
  unfold updateTier
  rw [ofJson_jsonRules, none]
  dsimp only
  rw [show (fresh limits Archive.empty).store.updateTier client tier rules [] = _ from made]
  rfl

/-! ## Messages -/

/-- The message that reads a tier. -/
def reading (tier : Tier) : Json := .obj [("method", .str (Method.getTier tier).name)]

/-- The message that removes rules of a tier and adds others. -/
def replacing (tier : Tier) (add : Json) (remove : List Int) : Json :=
  .obj
    [("method", .str (Method.updateTier tier).name),
      ("options", .obj [("addRules", add), ("removeRuleIds", .ints remove)])]

variable {client : String}

theorem isMessage_reading (filled : Text.isAllBlank client = false) (tier : Tier) :
    IsMessage (some client) (reading tier) client (.getTier tier) where
  object := ⟨_, rfl, by simp [Table.keys]⟩
  names := rfl
  sender := rfl
  filled := filled
  takes := .inl rfl

theorem isMessage_replacing (filled : Text.isAllBlank client = false) (tier : Tier)
    (add : List Rule) (remove : List Int) :
    IsMessage (some client) (replacing tier (jsonRules add) remove) client (.updateTier tier) where
  object := ⟨_, rfl, by simp [Table.keys]⟩
  names := rfl
  sender := rfl
  filled := filled
  takes := by
    refine Json.isObjectOf_obj.2 ⟨by simp [Table.keys], ?_⟩
    simp only [List.forall_mem_cons]
    refine ⟨.inr ⟨_, rfl, List.forall_mem_map.2 fun r _ => ⟨_, rfl⟩⟩,
      .inr ⟨_, rfl, List.forall_mem_map.2 fun n _ => ⟨n, rfl⟩⟩, by simp⟩

/-- What a tier holds is read as it is. -/
theorem handleMessage_reading (service : Service Archive) (m : Manager Archive) (expose : Bool)
    (filled : Text.isAllBlank client = false) (tier : Tier) :
    handleMessage expose (perform service) (some client) (reading tier) m =
      (resultAnswer (jsonRules (m.rules client tier)), m) :=
  handleMessage_of_isMessage service m expose (isMessage_reading filled tier)

/-- A message that replaces rules of a tier is answered as the operation. -/
theorem handleMessage_replacing (service : Service Archive) (m : Manager Archive) (expose : Bool)
    (filled : Text.isAllBlank client = false) (tier : Tier) (add : List Rule)
    (remove : List Int) :
    let step := m.updateTier service client tier (jsonRules add) (.ints remove)
    handleMessage expose (perform service) (some client) (replacing tier (jsonRules add) remove) m =
      (outcomeAnswer expose ((step.1.map (·.toJson)).mapError (·.report)), step.2) := by
  intro step
  have items : ((Json.ints remove).items).filterMap Json.int? = remove :=
    filterMap_map_some Json.int (fun _ => rfl) remove
  have asked : (Method.updateTier tier).asks
      ((replacing tier (jsonRules add) remove).field "options") =
        .updateTier tier (add.map (·.toJson)) remove :=
    congrArg (Request.updateTier tier _) items
  rw [handleMessage_of_isMessage service m expose (isMessage_replacing filled tier add remove),
    asked]
  rfl

/-! ## Resubmissions -/

section Resubmission

variable {m : Manager Archive} {tier : Tier} {ids : List Int} (known : m.store.has client)
  (fits : ((m.rules client tier).length : Int) ≤ m.store.limits.tier tier)
  (all : ∀ r ∈ m.rules client tier, r.id ∈ ids)
include known fits all

/-- The rules of a tier in place of themselves: the rules that there are are compiled again. -/
theorem updateTier_same (service : Service Archive) :
    let rules := m.rules client tier
    m.updateTier service client tier (jsonRules rules) (.ints ids) =
      m.recompiled service client m.store fun s => ⟨rules.length, rules.length, [], s⟩ := by
  intro rules
  have same := Store.updateTier_same known fits all
  unfold updateTier
  rw [ofJson_jsonRules, ruleIds_ints]
  dsimp only
  rw [show m.store.updateTier client tier rules ids = _ from same]
  rfl

/-- What a client is answered that sends the rules of a tier back. -/
theorem handleMessage_same (rests : m.Rests) (expose : Bool)
    (filled : Text.isAllBlank client = false) :
    let rules := m.rules client tier
    let answered := handleMessage expose (perform Archive.service) (some client)
      (replacing tier (jsonRules rules) ids) m
    answered.2 = m ∧
      if m.state client = .failed ∧ (m.store.rulesOf client).merged ≠ [] then
        ∃ text, m.lastError client = some text ∧
          answered.1 = Report.answer expose ⟨.caller .compilationFailed, text⟩
      else
        ∃ summary, answered.1 =
          resultAnswer (UpdateResult.toJson ⟨rules.length, rules.length, [], summary⟩) := by
  intro rules answered
  have made : answered = _ := handleMessage_replacing Archive.service m expose filled tier rules ids
  rw [updateTier_same known fits all] at made
  obtain ⟨stays, ended⟩ :=
    rests.recompiled_spec client fun s => (⟨rules.length, rules.length, [], s⟩ : UpdateResult)
  rw [made]
  refine ⟨stays, ?_⟩
  split
  · rename_i failed
    rw [if_pos failed] at ended
    obtain ⟨text, told, outcome⟩ := ended
    rw [outcome]
    exact ⟨text, told, rfl⟩
  · rename_i failed
    rw [if_neg failed] at ended
    obtain ⟨summary, outcome⟩ := ended
    rw [outcome]
    exact ⟨summary, rfl⟩

end Resubmission

/-- After any operations within limits that are not negative, a client with rules that reads a tier
and sends the rules back, with at least their ids as those to remove, leaves the manager as it is.
It is told that as many rules were removed and added, and none left out; or else, if its rules could
not be compiled, what was told of that. -/
theorem resubmission_changes_nothing {limits : Limits} (nonneg : limits.Nonnegative)
    (expose : Bool) (ops : List Operation) {client : String}
    (filled : Text.isAllBlank client = false) (tier : Tier) :
    let m := (fresh limits .empty).replay Archive.service expose ops
    let send (body : Json) :=
      handleMessage expose (perform Archive.service) (some client) body m
    let rules := m.rules client tier
    m.store.has client →
      send (reading tier) = (resultAnswer (jsonRules rules), m) ∧
      ∀ ids, (∀ r ∈ rules, r.id ∈ ids) →
        let answered := send (replacing tier ((send (reading tier)).1.field "result") ids)
        answered.2 = m ∧
          if m.state client = .failed ∧ (m.store.rulesOf client).merged ≠ [] then
            ∃ text, m.lastError client = some text ∧
              answered.1 = Report.answer expose ⟨.caller .compilationFailed, text⟩
          else
            ∃ summary, answered.1 =
              resultAnswer (UpdateResult.toJson ⟨rules.length, rules.length, [], summary⟩) := by
  intro m send rules known
  have read : send (reading tier) = (resultAnswer (jsonRules rules), m) :=
    handleMessage_reading Archive.service m expose filled tier
  have fits : (rules.length : Int) ≤ m.store.limits.tier tier := by
    rw [limits_replay]
    exact (within_replay nonneg Archive.service .empty expose ops client).tier tier
  refine ⟨read, fun ids all => ?_⟩
  rw [read]
  exact handleMessage_same known fits all (rests_replay limits expose ops) expose filled

/-- Two rules with one id are sent back, with the id once. -/
theorem repeated_ids_are_sent_back :
    let rule : Rule :=
      ⟨7, none, ⟨.block, none, none, none⟩, ⟨none, none, none, none, none, none, none, none, none,
        none, none, none, none, none, none, none⟩⟩
    let m := (fresh .standard .empty).replay Archive.service false
      [.updateTier "e" .session (jsonRules [rule, rule]) .null]
    Limits.standard.Nonnegative ∧ Text.isAllBlank "e" = false ∧ m.store.has "e" ∧
      (m.rules "e" .session).map (·.id) = [7, 7] ∧
      (handleMessage false (perform Archive.service) (some "e")
        (replacing .session (jsonRules (m.rules "e" .session)) [7]) m).2 = m := by
  intro rule m
  have nonneg : Limits.standard.Nonnegative := ⟨by decide, by decide, by decide, by decide⟩
  have filled : Text.isAllBlank "e" = false := by decide
  have store : m.store = ⟨.standard, [("e", ⟨[], [], [rule, rule]⟩)]⟩ :=
    store_updateTier_fresh Archive.service "e" .session (by decide)
  have known : m.store.has "e" := by
    rw [store]
    rfl
  have rules : m.rules "e" .session = [rule, rule] := by
    rw [Manager.rules, store]
    rfl
  have ids : ∀ r ∈ m.rules "e" .session, r.id ∈ [7] := by
    rw [rules]
    simp [rule]
  obtain ⟨read, same⟩ := resubmission_changes_nothing nonneg false
    [.updateTier "e" .session (jsonRules [rule, rule]) .null] filled .session known
  have unchanged := (same [7] ids).1
  rw [read] at unchanged
  exact ⟨nonneg, filled, known, by rw [rules]; rfl, unchanged⟩

/-! ## Rules that are not sent back as they are -/

section Pattern

variable (client : String) (filter : Text)

/-- A rule with a pattern of its own. -/
def patternRule : Rule :=
  ⟨1, none, ⟨.block, none, none, none⟩, ⟨none, some filter, none, none, none, none, none, none,
    none, none, none, none, none, none, none, none⟩⟩

/-- A manager whose only client has one rule. -/
def withPattern : Manager Archive :=
  (fresh .standard .empty).replay Archive.service false
    [.updateTier client .dynamic (jsonRules [patternRule filter]) .null]

/-- What the client is answered that sends its rule back. -/
def answerToPattern : Json :=
  (handleMessage false (perform Archive.service) (some client)
    (replacing .dynamic (jsonRules ((withPattern client filter).rules client .dynamic)) [1])
    (withPattern client filter)).1

theorem store_withPattern : (withPattern client filter).store =
    ⟨.standard, [(client, ⟨[], [patternRule filter], []⟩)]⟩ :=
  store_updateTier_fresh Archive.service client .dynamic (show (1 : Int) ≤ 5000 by decide)

theorem has_withPattern : (withPattern client filter).store.has client := by
  rw [store_withPattern, Store.has, Table.get?_cons, if_pos rfl]
  rfl

theorem rulesOf_withPattern :
    (withPattern client filter).store.rulesOf client = ⟨[], [patternRule filter], []⟩ := by
  rw [store_withPattern, Store.rulesOf, Table.get?_cons, if_pos rfl]
  rfl

end Pattern

/-- The pattern of a look-behind that breaks off with the line. -/
def brokenPattern : Text := "(?<\n)"

def brokenPatternText : String :=
  "Rule list entry 0: invalid url-filter regex: " ++
    "unknown extension ?<\n at position 1 (line 1, column 2)"

theorem verdict_brokenPattern : verdict "a" [patternRule brokenPattern] =
    .error ⟨.caller .compilationFailed, brokenPatternText⟩ := by
  have found : RuleList.checkFilter (some (.str brokenPattern)) = .error (.fault (.filterMalformed
      "unknown extension ?<\n at position 1 (line 1, column 2)")) := by
    decide +kernel
  have pattern : RuleList.patternOf (patternRule brokenPattern).condition = brokenPattern := rfl
  unfold verdict
  rw [Archive.service_compile, if_neg (by decide),
    RuleList.Conversion.validate_singleton (by rfl), pattern, found]
  rfl

/-- A client whose id is blank has rules that it cannot send back, and what is told of a failure is
not all of its text if that has a line break. -/
theorem blank_clients_and_line_breaks_differ :
    ((withPattern " " "x").store.has " " ∧
        (answerToPattern " " "x").field "error" = .str "invalidRequest") ∧
      (withPattern "a" brokenPattern).store.has "a" ∧
      (withPattern "a" brokenPattern).state "a" = .failed ∧
      ((withPattern "a" brokenPattern).store.rulesOf "a").merged ≠ [] ∧
      ∃ text, (withPattern "a" brokenPattern).lastError "a" = some text ∧
        (answerToPattern "a" brokenPattern).field "message" ≠ .str text := by
  refine ⟨⟨has_withPattern .., field_error_of_not_isMessage _ _ _ ?_⟩, has_withPattern .., ?_⟩
  · rintro ⟨client, method, fits⟩
    have filled := fits.filled
    cases fits.sender
    revert filled
    decide
  · have merged : ((withPattern "a" brokenPattern).store.rulesOf "a").merged =
        [patternRule brokenPattern] := by
      rw [rulesOf_withPattern]
      rfl
    have some : ((withPattern "a" brokenPattern).store.rulesOf "a").merged ≠ [] :=
      merged ▸ List.cons_ne_nil _ _
    have rests : (withPattern "a" brokenPattern).Rests := rests_replay .standard false _
    obtain ⟨failed, lastError⟩ := rests.failed_of_rejected some (merged ▸ verdict_brokenPattern)
    have rules : (withPattern "a" brokenPattern).rules "a" .dynamic =
        [patternRule brokenPattern] := by
      rw [Manager.rules, rulesOf_withPattern]
      rfl
    have fits : (((withPattern "a" brokenPattern).rules "a" .dynamic).length : Int) ≤
        (withPattern "a" brokenPattern).store.limits.tier .dynamic := by
      rw [rules, store_withPattern]
      exact show (1 : Int) ≤ 5000 by decide
    have ids : ∀ r ∈ (withPattern "a" brokenPattern).rules "a" .dynamic, r.id ∈ [(1 : Int)] := by
      rw [rules]
      decide
    have told := (handleMessage_same (has_withPattern ..) fits ids rests false (by decide)).2
    rw [if_pos ⟨failed, some⟩] at told
    obtain ⟨text, last, told⟩ := told
    refine ⟨failed, some, text, last, fun same => ?_⟩
    rw [show answerToPattern "a" brokenPattern = _ from told,
      ← Option.some.inj (lastError.symm.trans last)] at same
    exact absurd (Json.str.inj same) (by decide +kernel)

end Manager

end ContentBlocker
