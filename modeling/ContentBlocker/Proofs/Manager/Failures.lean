import ContentBlocker.Proofs.Compile.Archive
import ContentBlocker.Proofs.Compile.Direct
import ContentBlocker.Proofs.Computations
import ContentBlocker.Proofs.Manager.Moves
import ContentBlocker.Proofs.RuleList.Acceptance
import ContentBlocker.Proofs.Table

/-!
# Failures of operations

An operation that fails has changed nothing, unless it is the compilation that failed: then the
store has made the change, and the slot of the client reports the failure.  `FailsWith` follows the
failures of what is read first, `changed_error` those of the step after it, and
`failures_are_atomic` puts them together.
-/

namespace ContentBlocker

/-! ## Refusals -/

/-- A failure of an operation for a client that is not one of compilation. -/
def Failure.IsRefusal (client : String) : Failure → Prop
  | store who _ | noRules who => who = client
  | request who _ => who = some client
  | defect _ => True
  | compilation _ _ => False

namespace Failure.IsRefusal

variable {client : String} {failure : Failure}

theorem origin_ne (refusal : failure.IsRefusal client) :
    failure.report.origin ≠ .caller .compilationFailed := by
  cases failure with
  | store _ fault => cases fault <;> simp [report, StoreFault.kind]
  | noRules | request | defect => simp [report, Defect.report]
  | compilation => cases refusal

theorem client?_eq (refusal : failure.IsRefusal client) {kind : FailureKind}
    (called : failure.report.origin = .caller kind) : failure.client? = some client := by
  cases failure with
  | store | noRules | request =>
    cases refusal
    rfl
  | defect => cases called
  | compilation => cases refusal

end Failure.IsRefusal

section Reading

variable (s : Store) (client : String)

theorem failsWith_rulesetIds (enable disable : Json) :
    FailsWith (·.IsRefusal client) (rulesetIds s client enable disable) := by
  have defect (d : Defect) : (Failure.defect d).IsRefusal client := trivial
  have unknown (fault : StoreFault) : (Failure.store client fault).IsRefusal client := rfl
  unfold rulesetIds
  refine (failsWith_mapError defect _).bind fun enable => ?_
  refine (failsWith_mapError defect _).bind fun disable => ?_
  split
  · exact failsWith_error (unknown _)
  · refine (failsWith_forM (fun v => failsWith_mapError defect _) _).bind fun _ => ?_
    refine (failsWith_mapM (fun v => failsWith_mapError unknown _) _).bind fun _ => ?_
    exact (failsWith_mapM (fun v => failsWith_mapError unknown _) _).bind fun _ => failsWith_ok _

theorem failsWith_ofJson (v : Json) :
    FailsWith (·.IsRefusal client) (Ruleset.ofJson client v) := by
  have refused :
      (Failure.request (some client) .rulesetWithoutId).IsRefusal client := rfl
  unfold Ruleset.ofJson
  split
  · split
    · exact failsWith_error refused
    · split
      · exact failsWith_error trivial
      · exact failsWith_ok _
  · exact failsWith_error refused

theorem failsWith_listOfJson (v : Json) :
    FailsWith (·.IsRefusal client) (Ruleset.listOfJson client v) := by
  unfold Ruleset.listOfJson
  refine (failsWith_mapError (fun d => ?_) _).bind fun items => ?_
  · trivial
  · exact (failsWith_mapM (failsWith_ofJson client) _).bind fun _ => failsWith_ok _

end Reading

namespace Manager

variable {σ : Type} {service : Service σ} {m : Manager σ} {client : String}

/-- Arguments that cannot be read are refused. -/
theorem isRefusal_of_asked? {s : Store} {op : Operation} (own : op.client? = some client)
    {failure : Failure} (asks : op.asked? s = some (.error failure)) :
    failure.IsRefusal client := by
  cases op with
  | loadStaticRules who rules =>
    cases own
    have asks := Option.some.inj asks
    unfold Asked.loadStaticRules at asks
    split at asks <;> cases asks
    trivial
  | loadRulesets who rulesets =>
    cases own
    have asks := Option.some.inj asks
    unfold Asked.loadRulesets at asks
    split at asks
    · rename_i failed
      cases asks
      exact failsWith_listOfJson client rulesets _ failed
    · cases asks
  | updateTier who tier add remove =>
    cases own
    have asks := Option.some.inj asks
    unfold Asked.updateTier at asks
    split at asks <;> cases asks <;> trivial
  | switchRulesets who enable disable =>
    cases own
    have asks := Option.some.inj asks
    unfold Asked.switchRulesets at asks
    split at asks
    · rename_i failed
      cases asks
      exact failsWith_rulesetIds s client enable disable _ failed
    · cases asks
  | recompile who =>
    cases own
    have asks := Option.some.inj asks
    unfold Asked.recompile at asks
    split at asks <;> cases asks
    rfl
  | removeRules | getTier | getEnabledRulesets | getRuleList | message => cases asks

/-! ## Steps that fail -/

/-- A step that fails stays where it was, unless the service rejects the rules after the change. -/
theorem changed_error {α : Type} {asked : Asked} {answer : Summary → α} {failure : Failure}
    (failed : (m.changed service client asked answer).1 = .error failure) :
    (asked = .error failure ∨ ∃ fault, failure = .store client fault) ∧
        (m.changed service client asked answer).2 = m ∨
      ∃ change store report, asked = .ok change ∧ m.store.amended change = .ok store ∧
        (store.rulesOf client).merged ≠ [] ∧
        (m.compiler.answer service client (store.rulesOf client).merged).1 = .error report ∧
        failure = .compilation client (compilationText report) ∧
        (m.changed service client asked answer).2 = m.compiled service client store := by
  rcases m.changed_cases client asked with
    ⟨refusal, origin, refused⟩ | ⟨change, store, rfl, amended, made⟩
  · rw [refused] at failed ⊢
    cases failed
    exact .inl ⟨origin, rfl⟩
  · rw [made] at failed ⊢
    cases compiled : (m.compiler.compile service client (store.rulesOf client).merged).1 with
    | ok summary => simp [recompiled, compiled, Except.map] at failed
    | error cause =>
      simp only [recompiled, compiled, Except.map, Except.error.injEq] at failed
      subst failed
      obtain ⟨some, report, answered, rfl⟩ := Compiler.compile_error _ _ _ compiled
      exact .inr ⟨change, store, report, rfl, amended, some, answered, rfl, rfl⟩

/-! ## Clients that are known -/

/-- Only clients that are known have a slot. -/
def KnownBySlot (m : Manager σ) : Prop :=
  ∀ client, m.compiler.slots.get? client ≠ none → m.store.has client

theorem amended_get?_of_ne {s t : Store} {change : Option Store.Change}
    (accepted : s.amended change = .ok t) (writes : ∀ c ∈ change, c.writes client)
    {other : String} (ne : client ≠ other) :
    t.clients.get? other = s.clients.get? other := by
  cases change with
  | none =>
    cases accepted
    rfl
  | some c =>
    have about : c.client = client := (writes c rfl).client_eq
    exact (Store.accepted_of_apply accepted).get?_of_ne (about ▸ ne)

theorem Transition.knownBySlot {m' : Manager σ} (transition : Transition service m m')
    (h : m.KnownBySlot) : m'.KnownBySlot := by
  intro other slot
  cases transition with
  | stay => exact h other slot
  | @compile client change store accepted writes known =>
    by_cases same : client = other
    · exact same ▸ known
    · unfold compiled at slot ⊢
      rw [Compiler.get?_slots_compile_of_ne _ _ _ same] at slot
      have kept := h other slot
      unfold Store.has at kept ⊢
      rw [amended_get?_of_ne accepted writes same]
      exact kept
  | remove client =>
    have removed : (m.removeRules service client).2 =
        ⟨(m.store.removeClient client).2, (m.compiler.discard service client).2⟩ := rfl
    rw [removed] at slot ⊢
    simp only [Compiler.get?_slots_discard, Store.has, Store.get?_removeClient] at slot ⊢
    split at slot
    · exact absurd rfl slot
    · rename_i apart
      rw [if_neg apart]
      exact h other slot

theorem knownBySlot_fresh (limits : Limits) (state : σ) : (fresh limits state).KnownBySlot :=
  fun _ slot => absurd rfl slot

theorem knownBySlot_replay (limits : Limits) (state : σ) (expose : Bool) (ops : List Operation) :
    ((fresh limits state).replay service expose ops).KnownBySlot :=
  replay_preserves_of_transition Transition.knownBySlot (knownBySlot_fresh limits state) expose ops

/-- For a client that is not known there is nothing to remove. -/
theorem removeRules_of_unknown (h : m.KnownBySlot) (unknown : m.store.has client = false) :
    m.removeRules service client = (.error (.noRules client), m) := by
  have absent : m.store.clients.get? client = none := by
    simpa [Store.has] using unknown
  -- a slot can outlive the rules of a client, but not the client
  have slot : m.compiler.slots.get? client = none := by
    by_contra slot
    exact Bool.false_ne_true (unknown.symm.trans (h client slot))
  have removed : m.store.removeClient client = (false, m.store) := by
    unfold Store.removeClient
    rw [Table.erase_of_absent absent, unknown]
  have discarded : m.compiler.discard service client = (false, m.compiler) := by
    unfold Compiler.discard Compiler.slotOf
    rw [slot, Table.erase_of_absent slot]
    rfl
  unfold removeRules
  rw [removed, discarded]
  rfl

theorem removeRules_of_known (known : m.store.has client) :
    (m.removeRules service client).1 = .ok () := by
  unfold removeRules Store.removeClient
  rw [known]
  rfl

/-! ## Rejected rules -/

/-- A rejection of the rules of a client reaches its slot only. -/
theorem compiled_of_rejected {m : Manager Archive} {store : Store} {report : Report}
    (some : (store.rulesOf client).merged ≠ [])
    (answered : (m.compiler.answer Archive.service client (store.rulesOf client).merged).1 =
      .error report) :
    m.compiled Archive.service client store =
      ⟨store, ⟨m.compiler.slots.set client
        ((m.compiler.slotOf client).fail (compilationText report)), m.compiler.service⟩⟩ := by
  unfold compiled
  rw [Compiler.compile_snd _ _ _ some, answered]
  congr 2
  exact (Archive.service_compile_error answered).1

/-! ## Runs -/

theorem operate_error {m : Manager Archive} (h : m.KnownBySlot) (expose : Bool) {op : Operation}
    (own : op.client? = some client) {failure : Failure}
    (failed : (m.operate Archive.service expose op).1 = .error failure) :
    failure.IsRefusal client ∧ m.after Archive.service expose op = m ∨
      ∃ change store report, op.asked? m.store = some (.ok change) ∧
        m.store.amended change = .ok store ∧ (∀ c ∈ change, c.writes client) ∧
        failure = .compilation client (compilationText report) ∧
        m.after Archive.service expose op =
          ⟨store, ⟨m.compiler.slots.set client
            ((m.compiler.slotOf client).fail (compilationText report)), m.compiler.service⟩⟩ := by
  cases asks : op.asked? m.store with
  | some asked =>
    have makes : m.Makes Archive.service client asked (m.operate Archive.service expose op) :=
      makes_operate expose own asks
    obtain ⟨isFor, answer, same⟩ := makes
    unfold after
    rw [same] at failed ⊢
    rcases changed_error failed with ⟨refused | ⟨fault, rfl⟩, stays⟩ |
      ⟨change, store, report, rfl, amended, some, answered, rfl, moved⟩
    · exact .inl ⟨isRefusal_of_asked? own (refused ▸ asks), stays⟩
    · exact .inl ⟨rfl, stays⟩
    · refine .inr ⟨change, store, report, rfl, amended, ?_, rfl, ?_⟩
      · rintro c rfl
        exact isFor
      · rw [moved, compiled_of_rejected some answered]
  | none =>
    cases op with
    | loadStaticRules | loadRulesets | updateTier | switchRulesets | recompile => cases asks
    | removeRules who =>
      cases own
      cases known : m.store.has client with
      | true =>
        simp only [operate, removeRules_of_known known] at failed
        cases failed
      | false =>
        have refused : m.removeRules Archive.service client = (.error (.noRules client), m) :=
          removeRules_of_unknown h known
        simp only [operate, refused] at failed
        cases failed
        exact .inl ⟨rfl, congrArg Prod.snd refused⟩
    | getTier | getEnabledRulesets | getRuleList | message => cases failed

/-- An operation whose change is made fails if the service rejects the rules after it. -/
theorem operate_of_rejected (expose : Bool) {op : Operation} (own : op.client? = some client)
    {change : Option Store.Change} {store : Store} {report : Report}
    (asks : op.asked? m.store = some (.ok change)) (amended : m.store.amended change = .ok store)
    (some : (store.rulesOf client).merged ≠ [])
    (answered : (m.compiler.answer service client (store.rulesOf client).merged).1 =
      .error report) :
    (m.operate service expose op).1 = .error (.compilation client (compilationText report)) := by
  have makes : m.Makes service client (.ok change) (m.operate service expose op) :=
    makes_operate expose own asks
  obtain ⟨-, answer, same⟩ := makes
  rw [same]
  unfold changed
  simp only [amended, recompiled]
  rw [Compiler.compile_fst _ _ _ some, answered]
  rfl

/-- Whatever a manager over an empty archive was asked for, an operation that fails for any reason
but a rejection of rules changes nothing of any client.  One that fails with the rejection leaves
the store as the change makes it that the operation asks for, all lists as they were, and the
rejection as the last error of its client; nothing of another client changes.  Every failure that
callers can act on names the client of the operation. -/
theorem failures_are_atomic (limits : Limits) (expose : Bool) (ops : List Operation)
    {op : Operation} (own : op.client? = some client) :
    let m := (fresh limits .empty).replay Archive.service expose ops
    let m' := m.after Archive.service expose op
    ∀ failure, (m.operate Archive.service expose op).1 = .error failure →
      (failure.report.origin ≠ .caller .compilationFailed → m' = m) ∧
      (failure.report.origin = .caller .compilationFailed →
        (∃ change, op.asked? m.store = some (.ok change) ∧
          m.store.amended change = .ok m'.store) ∧
        m'.compiler.service = m.compiler.service ∧
        (∀ other, m'.ruleList other = m.ruleList other) ∧
        m'.state client = .failed ∧ m'.lastError client = some failure.report.text ∧
        ∀ other, client ≠ other →
          m'.store.clients.get? other = m.store.clients.get? other ∧
          m'.compiler.slotOf other = m.compiler.slotOf other) ∧
      ∀ kind, failure.report.origin = .caller kind → failure.client? = some client := by
  intro m m' failure failed
  have known : m.KnownBySlot := knownBySlot_replay limits Archive.empty expose ops
  rcases operate_error known expose own failed with
    ⟨refusal, stays⟩ | ⟨change, store, report, asks, amended, writes, rfl, moved⟩
  · exact ⟨fun _ => stays, fun called => absurd called refusal.origin_ne,
      fun _ => refusal.client?_eq⟩
  · have moved : m' = ⟨store, ⟨m.compiler.slots.set client
        ((m.compiler.slotOf client).fail (compilationText report)), m.compiler.service⟩⟩ := moved
    have slot (other : String) : m'.compiler.slotOf other =
        if client = other then (m.compiler.slotOf client).fail (compilationText report)
        else m.compiler.slotOf other := by
      rw [moved]
      exact Compiler.slotOf_set ..
    have own : m'.compiler.slotOf client =
        (m.compiler.slotOf client).fail (compilationText report) :=
      (slot client).trans (if_pos rfl)
    refine ⟨fun other => absurd rfl other, fun _ => ⟨⟨change, asks, ?_⟩, ?_, ?_, ?_, ?_, ?_⟩,
      fun _ _ => rfl⟩
    · rw [moved]
      exact amended
    · rw [moved]
    · intro other
      unfold ruleList
      rw [slot]
      split
      · rename_i same
        rw [← same]
        rfl
      · rfl
    · rw [state, own]
      rfl
    · rw [lastError, own]
      rfl
    · intro other ne
      refine ⟨?_, (slot other).trans (if_neg ne)⟩
      rw [moved]
      exact amended_get?_of_ne amended writes ne

/-- A rule whose filter is not in ASCII is taken into its tier, and then rejected. -/
theorem rejected_filter_stays_in_its_tier :
    let rule := Json.obj
      [("id", .int 1), ("condition", .obj [("urlFilter", .str "\u00e9")]),
        ("action", .obj [("type", .str "block")])]
    let op : Operation := .updateTier "a" .dynamic (.arr [rule]) .null
    let m := (fresh .standard Archive.empty).replay Archive.service false []
    let m' := m.after Archive.service false op
    let text := "Rule list entry 0: trigger.url-filter must be ASCII"
    op.client? = some "a" ∧
      (m.operate Archive.service false op).1 = .error (.compilation "a" text) ∧
      (m'.rules "a" .dynamic).map (·.id) = [1] ∧ m'.ruleList "a" = none ∧
      m'.state "a" = .failed ∧ m'.lastError "a" = some ↑text := by
  intro rule op m m' text
  let r : Rule :=
    ⟨1, none, ⟨.block, none, none, none⟩, ⟨some "\u00e9", none, none, none, none, none, none, none,
      none, none, none, none, none, none, none, none⟩⟩
  let c := RuleList.Conversion.ofRules [r]
  have own : op.client? = some "a" := rfl
  have asks : op.asked? m.store = some (.ok (some (.updateTier "a" .dynamic [r] []))) := rfl
  obtain ⟨store, amended, rules⟩ : ∃ store,
      m.store.amended (some (.updateTier "a" .dynamic [r] [])) = .ok store ∧
        store.rulesOf "a" = ⟨[], [r], []⟩ := ⟨_, rfl, rfl⟩
  have rejected : RuleList.validate c.document = .error (.fault (.entry 0 .filterNotAscii)) := by
    have few : c.entries.length ≤ RuleList.entryBound := by decide
    obtain ⟨e, entries, converted⟩ : ∃ e, c.entries = [e] ∧ RuleList.Entry.ofRule? r = some e :=
      ⟨_, rfl, rfl⟩
    obtain ⟨fits, filter⟩ := RuleList.Entry.fits_of_rule converted
    have found : RuleList.checkEntry e.toJson.reread = RuleList.reject .filterNotAscii := by
      rw [RuleList.checkEntry_toJson fits, filter]
      rfl
    rw [RuleList.Conversion.validate_document few, entries, List.map_singleton,
      RuleList.checkEntries_cons, found]
    rfl
  have merged : (store.rulesOf "a").merged = [r] := by
    rw [rules]
    rfl
  have answered : (m.compiler.answer Archive.service "a" (store.rulesOf "a").merged).1 =
      .error ⟨.caller .compilationFailed, text⟩ := by
    unfold Compiler.answer
    rw [merged, Archive.service_compile, if_neg (by decide), rejected]
    rfl
  have failed : (m.operate Archive.service false op).1 = .error (.compilation "a" text) :=
    operate_of_rejected false own asks amended (merged ▸ List.cons_ne_nil r []) answered
  have atomic := failures_are_atomic .standard false [] own _ failed
  obtain ⟨⟨change, asked, made⟩, -, lists, state, lastError, -⟩ := atomic.2.1 rfl
  have same : change = some (.updateTier "a" .dynamic [r] []) :=
    Except.ok.inj (Option.some.inj (asked.symm.trans asks))
  rw [same] at made
  have after : m'.store = store := Except.ok.inj (made.symm.trans amended)
  have kept : m'.rules "a" .dynamic = [r] := by
    unfold Manager.rules
    rw [after, rules]
    rfl
  refine ⟨own, failed, ?_, lists "a", state, lastError⟩
  rw [kept]
  rfl

end Manager

end ContentBlocker
