import ContentBlocker.Proofs.Manager.Coherence
import ContentBlocker.Proofs.Manager.Failures
import ContentBlocker.Proofs.Manager.Restriction
import ContentBlocker.Proofs.Message.Answers

/-!
# Isolation of clients

What a manager over an archive has for a client is written by operations for this client only:
`only_after_of_foreign` leaves it as it is after all others.  With `operate_only`, by which a client
is answered from nothing else, operations for others can be left out of any run:
`clients_are_isolated`.
-/

namespace ContentBlocker.Manager

variable {m m' : Manager Archive} {client other : String}

/-! ## What a manager has for a client -/

/-- The parts that a manager has for a client. -/
theorem only_congr (limits : m.store.limits = m'.store.limits)
    (rules : m.store.clients.get? client = m'.store.clients.get? client)
    (slot : m.compiler.slots.get? client = m'.compiler.slots.get? client)
    (list : m.compiler.service.lookup (listIdentifier client) =
      m'.compiler.service.lookup (listIdentifier client)) : m.only client = m'.only client := by
  unfold only Store.only Compiler.only Archive.only Table.only
  rw [limits, rules, slot, list]

theorem only_compiled_of_ne {change : Option Store.Change} {store : Store}
    (accepted : m.store.amended change = .ok store) (writes : ∀ c ∈ change, c.writes client)
    (ne : client ≠ other) :
    (m.compiled Archive.service client store).only other = m.only other := by
  apply only_congr
  · exact Store.limits_of_amended accepted
  · exact amended_get?_of_ne accepted writes ne
  · exact Compiler.get?_slots_compile_of_ne _ _ _ ne _
  · exact Compiler.lookup_compile_of_ne (mt listIdentifier_inj.1 ne)

theorem only_removeRules_of_ne (ne : client ≠ other) :
    (m.removeRules Archive.service client).2.only other = m.only other := by
  apply only_congr
  · rfl
  · exact (Store.get?_removeClient other).trans (if_neg ne)
  · exact (Compiler.get?_slots_discard ..).trans (if_neg ne)
  · exact Compiler.lookup_discard_of_ne (mt listIdentifier_inj.1 ne)

/-! ## Operations for others -/

theorem Makes.only_of_ne {α : Type} {asked : Asked} {step : Step Archive α}
    (makes : m.Makes Archive.service client asked step) (ne : client ≠ other) :
    step.2.only other = m.only other := by
  obtain ⟨isFor, answer, rfl⟩ := makes
  rcases m.changed_cases client asked with
    ⟨failure, -, refused⟩ | ⟨change, store, rfl, accepted, made⟩
  · rw [refused]
  · rw [made]
    refine only_compiled_of_ne accepted ?_ ne
    rintro c rfl
    exact isFor

theorem only_performRequest_of_ne (request : Request) (ne : client ≠ other) :
    (performRequest Archive.service client request m).2.only other = m.only other := by
  cases request with
  | updateTier tier add remove => exact (makes_updateTier tier _ _).only_of_ne ne
  | updateEnabledRulesets enable disable => exact (makes_switchRulesets _ _).only_of_ne ne
  | getTier | getEnabledRulesets => rfl

/-- A message is handled for the client that it comes from, if for any. -/
theorem only_handleMessage_of_ne (expose : Bool) {sender : Option String} (body : Json)
    (ne : sender ≠ some other) :
    (handleMessage expose (perform Archive.service) sender body m).2.only other = m.only other := by
  by_cases fit : ∃ client method, IsMessage sender body client method
  · obtain ⟨client, method, fits⟩ := fit
    rw [handleMessage_of_isMessage _ _ _ fits]
    refine only_performRequest_of_ne _ ?_
    rintro rfl
    exact ne fits.sender
  · obtain ⟨fault, refused⟩ := handleMessage_of_not_isMessage fit
    rw [refused]

/-- An operation leaves what the manager has for the clients that it is not for. -/
theorem only_after_of_foreign (expose : Bool) {op : Operation} (foreign : op.client? ≠ some other) :
    (m.after Archive.service expose op).only other = m.only other := by
  have ne {client : String} (apart : some client ≠ some other) : client ≠ other :=
    fun same => apart (congrArg some same)
  cases op with
  | loadStaticRules | loadRulesets | updateTier | switchRulesets | recompile =>
    exact (makes_operate expose rfl rfl).only_of_ne (ne foreign)
  | removeRules => exact only_removeRules_of_ne (ne foreign)
  | getTier | getEnabledRulesets | getRuleList => rfl
  | message sender body => exact only_handleMessage_of_ne expose body foreign

/-! ## Runs -/

/-- Operations in order, each with its answer. -/
def transcript {σ : Type} (service : Service σ) (expose : Bool) (m : Manager σ)
    (ops : List Operation) : List (Operation × Except Failure Answer) :=
  ops.zip (m.answers service expose ops)

/-- The operations for a client among others, each with its answer. -/
def transcriptOf {σ : Type} (service : Service σ) (expose : Bool) (m : Manager σ) (client : String)
    (ops : List Operation) : List (Operation × Except Failure Answer) :=
  (m.transcript service expose ops).filter (·.1.client? = some client)

section Transcripts

variable {σ : Type} (service : Service σ) (expose : Bool) (m : Manager σ) {op : Operation}
  (ops : List Operation)

theorem transcriptOf_cons_of_own (own : op.client? = some client) :
    m.transcriptOf service expose client (op :: ops) =
      (op, (m.operate service expose op).1) ::
        (m.after service expose op).transcriptOf service expose client ops :=
  List.filter_cons_of_pos (decide_eq_true own)

theorem transcriptOf_cons_of_foreign (foreign : op.client? ≠ some client) :
    m.transcriptOf service expose client (op :: ops) =
      (m.after service expose op).transcriptOf service expose client ops :=
  List.filter_cons_of_neg (by simpa using foreign)

end Transcripts

/-- Managers that have the same for a client answer it the same. -/
theorem operate_fst_congr (same : m.only client = m'.only client) (expose : Bool) {op : Operation}
    (own : op.client? = some client) :
    (m.operate Archive.service expose op).1 = (m'.operate Archive.service expose op).1 := by
  have answer (m : Manager Archive) : (m.operate Archive.service expose op).1 =
      ((m.only client).operate Archive.service expose op).1 := by
    rw [m.operate_only client expose own]
    rfl
  rw [answer, same, ← answer]

/-- Whomever an operation is for, managers that have the same for a client go on doing so. -/
theorem only_after_congr (same : m.only client = m'.only client) (expose : Bool) (op : Operation) :
    (m.after Archive.service expose op).only client =
      (m'.after Archive.service expose op).only client := by
  by_cases own : op.client? = some client
  · rw [← m.after_only client expose own, same, m'.after_only client expose own]
  · rw [only_after_of_foreign expose own, same, only_after_of_foreign expose own]

/-- A run and one that leaves out operations for others are alike for a client. -/
theorem alike_without_foreign (same : m.only client = m'.only client) (expose : Bool)
    {erased : Operation → Bool} (foreign : ∀ op, erased op → op.client? ≠ some client)
    (ops : List Operation) :
    m.transcriptOf Archive.service expose client ops =
        m'.transcriptOf Archive.service expose client (ops.filter (!erased ·)) ∧
      (m.replay Archive.service expose ops).only client =
        (m'.replay Archive.service expose (ops.filter (!erased ·))).only client := by
  induction ops generalizing m m' with
  | nil => exact ⟨rfl, same⟩
  | cons op ops ih =>
    cases left : erased op with
    | true =>
      -- only the first run has the operation, which is for another client
      have apart : op.client? ≠ some client := foreign op left
      rw [List.filter_cons_of_neg (by simp [left]), transcriptOf_cons_of_foreign _ _ _ _ apart]
      exact ih ((only_after_of_foreign expose apart).trans same)
    | false =>
      obtain ⟨answers, ends⟩ := ih (only_after_congr same expose op)
      rw [List.filter_cons_of_pos (by simp [left])]
      refine ⟨?_, ends⟩
      by_cases own : op.client? = some client
      · rw [transcriptOf_cons_of_own _ _ _ _ own, transcriptOf_cons_of_own _ _ _ _ own,
          operate_fst_congr same expose own, answers]
      · rw [transcriptOf_cons_of_foreign _ _ _ _ own, transcriptOf_cons_of_foreign _ _ _ _ own,
          answers]

/-- Operations for others can be left out of a run of a manager over an archive: every operation for
a client is answered the same, and in the end the manager has the same rules and rulesets for the
client, the same state, last failure and list in use, and the archive has the same list.  One
client's id may extend another's: their lists have different identifiers. -/
theorem clients_are_isolated (m : Manager Archive) (expose : Bool) (client : String)
    (ops : List Operation) {erased : Operation → Bool}
    (foreign : ∀ op, erased op → op.client? ≠ some client) :
    let rest := ops.filter (!erased ·)
    let whole := m.replay Archive.service expose ops
    let alone := m.replay Archive.service expose rest
    m.transcriptOf Archive.service expose client ops =
        m.transcriptOf Archive.service expose client rest ∧
      whole.store.clients.get? client = alone.store.clients.get? client ∧
      whole.compiler.slotOf client = alone.compiler.slotOf client ∧
      whole.compiler.service.lookup (listIdentifier client) =
        alone.compiler.service.lookup (listIdentifier client) ∧
      ∀ other, listIdentifier other = listIdentifier client → other = client := by
  intro rest whole alone
  obtain ⟨answers, ends⟩ := alike_without_foreign rfl expose foreign ops
  obtain ⟨rules, slot, list⟩ := shown_of_only ends
  exact ⟨answers, rules, slot, list, fun _ => listIdentifier_inj.1⟩

/-- The removal of a client is not seen by another whose id it extends. -/
theorem longer_id_is_isolated :
    let load (client : String) (id : Text) : Operation :=
      .loadRulesets client (.arr [.obj [("id", .str id), ("enabled", .bool true)]])
    let ops := [load "a" "r", load "a-rules" "s", .removeRules "a-rules", .getEnabledRulesets "a"]
    let erased (op : Operation) : Bool := op.client? = some "a-rules"
    let m := fresh .standard Archive.empty
    let rest := ops.filter (!erased ·)
    (∀ op, erased op → op.client? ≠ some "a") ∧
      rest = [load "a" "r", .getEnabledRulesets "a"] ∧
      m.transcriptOf Archive.service false "a" ops = m.transcript Archive.service false rest ∧
      (m.replay Archive.service false rest).enabledRulesets "a" = ["r"] := by
  intro load ops erased m rest
  have foreign : ∀ op, erased op → op.client? ≠ some "a" := by
    intro op left own
    have left : op.client? = some "a-rules" := of_decide_eq_true left
    rw [own] at left
    exact absurd left (by decide)
  obtain ⟨answers, -⟩ := clients_are_isolated m false "a" ops foreign
  have kept : m.transcriptOf Archive.service false "a" rest =
      m.transcript Archive.service false rest := rfl
  exact ⟨foreign, rfl, answers.trans kept, rfl⟩

end ContentBlocker.Manager
