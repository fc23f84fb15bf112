import ContentBlocker.Proofs.Manager.Resubmission
import ContentBlocker.Proofs.Store.Switches

/-!
# Idle operations

An operation is idle (`IsIdle`) if it asks for nothing that is not so already: to compile the rules
of a client once more, to remove from a tier what is not in it, or to switch on what is on and off
what is off.  The store takes it as a change to what it has, and a manager at rest has nothing new to
compile: `idle_operations_change_nothing`.
-/

namespace ContentBlocker

/-! ## Switches to what is so already -/

namespace Ruleset

theorem switch_same {r : Ruleset} {on off : List Text} (shown : r.id ∈ on → r.enabled)
    (hidden : r.id ∈ off → ¬ r.enabled) : r.switch on off = r := by
  rw [switch_eq]
  by_cases here : r.id ∈ on
  · rw [if_pos here, ← shown here]
  · by_cases there : r.id ∈ off
    · rw [if_neg here, if_pos there, ← Bool.eq_false_iff.2 (hidden there)]
    · rw [if_neg here, if_neg there]

end Ruleset

namespace ClientRules

variable {c : ClientRules} {on off : List Text}

theorem mem_enabled {id : Text} : id ∈ c.enabled ↔ ∃ r ∈ c.rulesets, r.enabled ∧ r.id = id := by
  simp only [enabled, List.mem_map, List.mem_filter, and_assoc]

/-- The rulesets of some ids are on already, and those of others are off. -/
structure IsSwitched (c : ClientRules) (on off : List Text) : Prop where
  on : ∀ id ∈ on, id ∈ c.enabled
  off : ∀ id ∈ off, id ∈ Ruleset.ids c.rulesets ∧ id ∉ c.enabled

theorem IsSwitched.named (h : c.IsSwitched on off) :
    ∀ id ∈ on ++ off, id ∈ Ruleset.ids c.rulesets := by
  refine List.forall_mem_append.2 ⟨fun id here => ?_, fun id here => (h.off id here).1⟩
  obtain ⟨r, mem, -, rfl⟩ := mem_enabled.1 (h.on id here)
  exact List.mem_map_of_mem mem

theorem IsSwitched.map_switch (h : c.IsSwitched on off) (nodup : (Ruleset.ids c.rulesets).Nodup) :
    c.rulesets.map (·.switch on off) = c.rulesets := by
  refine (List.map_congr_left fun r mem => ?_).trans (List.map_id _)
  refine Ruleset.switch_same (fun here => ?_) fun here enabled => ?_
  · obtain ⟨r', mem', enabled, same⟩ := mem_enabled.1 (h.on _ here)
    -- the ids differ, so that the ruleset of that id is no other
    rwa [List.inj_on_of_nodup_map nodup mem mem' same.symm]
  · exact (h.off _ here).2 (mem_enabled.2 ⟨r, mem, enabled, rfl⟩)

end ClientRules

namespace Store

variable {s : Store} {client : String} {on off : List Text}

/-- Switching on what is on and off what is off changes nothing. -/
theorem switchRulesets_same (known : s.has client) (within : (s.rulesOf client).Within s.limits)
    (switched : (s.rulesOf client).IsSwitched on off) :
    s.switchRulesets client on off = .ok ((s.rulesOf client).enabled, s) := by
  have same := switched.map_switch within.nodup
  have written : s.put client (s.rulesOf client) = s := by
    obtain ⟨c, found⟩ := Option.isSome_iff_exists.1 known
    rw [rulesOf_of_known found, put, Table.set_of_get? found]
  refine switchRulesets_eq_ok.2 ⟨⟨known, switched.named, ?_⟩, ?_, ?_⟩
  · rw [same]
    exact within.enabled
  · rw [same]
  · rw [same]
    exact written.symm

/-- Removing what is not in a tier changes nothing. -/
theorem updateTier_foreign {tier : Tier} {ids : List Int} (known : s.has client)
    (fits : (((s.rulesOf client).tier tier).length : Int) ≤ s.limits.tier tier)
    (foreign : ∀ r ∈ (s.rulesOf client).tier tier, r.id ∉ ids) :
    s.updateTier client tier [] ids =
      .ok (⟨tier, 0, 0, ((s.rulesOf client).tier tier).length⟩, s) := by
  have all : kept ((s.rulesOf client).tier tier) ids = (s.rulesOf client).tier tier :=
    List.filter_eq_self.2 fun r mem => by simpa using foreign r mem
  have same : kept ((s.rulesOf client).tier tier) ids ++ [] = (s.rulesOf client).tier tier := by
    rw [all, List.append_nil]
  have made := updateTier_of_kept known fits same
  dsimp only at made
  rw [all, Nat.sub_self] at made
  exact made

/-- Texts that name rulesets of a client are read. -/
theorem rulesetIds_of_named {enable disable : Json} (known : s.has client)
    (enables : enable.valuesOrNone = .ok (on.map .str))
    (disables : disable.valuesOrNone = .ok (off.map .str))
    (named : ∀ id ∈ on ++ off, id ∈ Ruleset.ids (s.rulesOf client).rulesets) :
    rulesetIds s client enable disable = .ok (on, off) := by
  obtain ⟨c, found⟩ := Option.isSome_iff_exists.1 known
  have ids : s.rulesetIds? client = some (Ruleset.ids (s.rulesOf client).rulesets) := by
    rw [rulesetIds?, found, rulesOf_of_known found]
    rfl
  have hashed : (on.map Json.str ++ off.map Json.str).forM
      (fun v => v.hashable.mapError Failure.defect) = .ok () := by
    rw [← List.map_append]
    exact forM_ok (List.forall_mem_map.2 fun _ _ => rfl)
  have read {texts : List Text}
      (known : ∀ id ∈ texts, id ∈ Ruleset.ids (s.rulesOf client).rulesets) :
      (texts.map Json.str).mapM (fun v => (rulesetId
        (Ruleset.ids (s.rulesOf client).rulesets) v).mapError (Failure.store client)) =
          .ok texts := by
    refine mapM_map_ok Json.str fun id mem => ?_
    have contains := List.contains_iff_mem.2 (known id mem)
    simp only [rulesetId, contains, if_true]
    rfl
  obtain ⟨shown, hidden⟩ := List.forall_mem_append.1 named
  unfold rulesetIds
  rw [enables, disables, ids]
  refine bind_eq_ok.2 ⟨_, rfl, bind_eq_ok.2 ⟨_, rfl, bind_eq_ok.2 ⟨(), hashed, ?_⟩⟩⟩
  exact bind_eq_ok.2 ⟨on, read shown, bind_eq_ok.2 ⟨off, read hidden, rfl⟩⟩

end Store

namespace Manager

/-! ## Idle operations -/

/-- An operation on a client that asks for nothing new, and the answer that it makes of a summary of
the client's rules. -/
inductive IsIdle {σ : Type} (m : Manager σ) (client : String) :
    Operation → (Summary → Answer) → Prop
  | recompile : IsIdle m client (.recompile client) .summary
  /-- no rule is added, and the ids to remove are those of no rule in the tier -/
  | updateTier {tier : Tier} {add remove : Json} {rejected : List Rejected} {ids : List Int}
    (adds : Batch.ofJson add = .ok ⟨[], rejected⟩) (removes : ruleIds remove = .ok ids)
    (foreign : ∀ r ∈ m.rules client tier, r.id ∉ ids) :
    IsIdle m client (.updateTier client tier add remove) fun s => .update ⟨0, 0, rejected, s⟩
  /-- what is to be switched on is on, and what is to be switched off is off -/
  | switchRulesets {enable disable : Json} {on off : List Text}
    (enables : enable.valuesOrNone = .ok (on.map .str))
    (disables : disable.valuesOrNone = .ok (off.map .str))
    (switched : (m.store.rulesOf client).IsSwitched on off) :
    IsIdle m client (.switchRulesets client enable disable) .summary

/-- An idle operation compiles the rules that there are. -/
theorem IsIdle.operate_eq {σ : Type} {service : Service σ} {m : Manager σ} {client : String}
    {op : Operation} {answer : Summary → Answer} (idle : m.IsIdle client op answer)
    (known : m.store.has client) (within : (m.store.rulesOf client).Within m.store.limits)
    (expose : Bool) :
    m.operate service expose op = m.recompiled service client m.store answer := by
  cases idle with
  | recompile =>
    have made : m.recompile service client = m.recompiled service client m.store id := if_pos known
    exact recompiled_map made Answer.summary
  | @updateTier tier add remove rejected ids adds removes foreign =>
    have made : m.updateTier service client tier add remove =
        m.recompiled service client m.store fun s => ⟨0, 0, rejected, s⟩ := by
      have same := Store.updateTier_foreign known (within.tier tier) foreign
      unfold Manager.updateTier
      rw [adds, removes]
      dsimp only
      rw [same]
    exact recompiled_map made Answer.update
  | @switchRulesets enable disable on off enables disables switched =>
    have made : m.switchRulesets service client enable disable =
        m.recompiled service client m.store id := by
      unfold Manager.switchRulesets
      rw [Store.rulesetIds_of_named known enables disables switched.named]
      dsimp only
      rw [Store.switchRulesets_same known within switched]
    exact recompiled_map made Answer.summary

/-- After any operations within limits that are not negative, over an archive with any lists, an
idle operation on a client with rules leaves the manager as it is.  It is answered with a summary;
or else, if the rules of the client could not be compiled, with what was told of that.  Doing it
again is answered the same. -/
theorem idle_operations_change_nothing {limits : Limits} (nonneg : limits.Nonnegative)
    {archive : Archive} (sorted : archive.identifiers.Pairwise (· < ·)) (expose : Bool)
    (ops : List Operation) {client : String} :
    let m := (fresh limits archive).replay Archive.service expose ops
    m.store.has client → ∀ {op answer}, m.IsIdle client op answer →
      let step := m.operate Archive.service expose op
      step.2 = m ∧
        (if m.state client = .failed ∧ (m.store.rulesOf client).merged ≠ [] then
          ∃ text, m.lastError client = some text ∧ step.1 = .error (.compilation client text)
        else ∃ summary, step.1 = .ok (answer summary)) ∧
        (step.2.operate Archive.service expose op).1 = step.1 := by
  intro m known op answer idle step
  have within : (m.store.rulesOf client).Within m.store.limits := by
    rw [limits_replay]
    exact within_replay nonneg Archive.service archive expose ops client
  have rests : m.Rests := rests_replay_of_sorted limits sorted expose ops
  have made : step = m.recompiled Archive.service client m.store answer :=
    idle.operate_eq known within expose
  obtain ⟨stays, ended⟩ := rests.recompiled_spec client answer
  rw [← made] at stays ended
  exact ⟨stays, ended, by rw [stays]⟩

/-- A client whose pattern is rejected, and that removes a rule which it has not, is told of the
pattern again. -/
theorem idle_updates_tell_of_failures :
    let m := withPattern "a" brokenPattern
    let op : Operation := .updateTier "a" .dynamic (.arr []) (.ints [2])
    let step := m.operate Archive.service false op
    Limits.standard.Nonnegative ∧ Archive.empty.identifiers.Pairwise (· < ·) ∧
      m.store.has "a" ∧ m.IsIdle "a" op (fun s => .update ⟨0, 0, [], s⟩) ∧
      step.2 = m ∧ step.1 = .error (.compilation "a" brokenPatternText) := by
  intro m op step
  have nonneg : Limits.standard.Nonnegative := ⟨by decide, by decide, by decide, by decide⟩
  have known : m.store.has "a" := has_withPattern ..
  have rules : m.store.rulesOf "a" = ⟨[], [patternRule brokenPattern], []⟩ := rulesOf_withPattern ..
  have merged : (m.store.rulesOf "a").merged = [patternRule brokenPattern] := by
    rw [rules]
    rfl
  have some : (m.store.rulesOf "a").merged ≠ [] := merged ▸ List.cons_ne_nil _ _
  have foreign : ∀ r ∈ m.rules "a" .dynamic, r.id ∉ [(2 : Int)] := by
    rw [Manager.rules, rules]
    decide
  have idle : m.IsIdle "a" op fun s => .update ⟨0, 0, [], s⟩ :=
    .updateTier rfl (ruleIds_ints [2]) foreign
  have rests : m.Rests := rests_replay .standard false _
  obtain ⟨failed, lastError⟩ := rests.failed_of_rejected some (merged ▸ verdict_brokenPattern)
  obtain ⟨stays, told, -⟩ := idle_operations_change_nothing nonneg .nil false
    [.updateTier "a" .dynamic (jsonRules [patternRule brokenPattern]) .null] known idle
  rw [if_pos ⟨failed, some⟩] at told
  obtain ⟨text, last, told⟩ := told
  cases last.symm.trans lastError
  exact ⟨nonneg, .nil, known, idle, stays, told⟩

end Manager

end ContentBlocker
