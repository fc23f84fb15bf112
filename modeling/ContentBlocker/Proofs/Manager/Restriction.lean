import ContentBlocker.Proofs.Compile.Archive
import ContentBlocker.Proofs.Compile.Direct
import ContentBlocker.Manager.Operation
import ContentBlocker.Proofs.Message.Grammar
import ContentBlocker.Proofs.Store.Restriction

/-!
# Managers of one client

`Manager.only` is what a manager over an archive has for one client.  `operate_only` says that this
is all that an operation for the client depends on and all that it writes, and `answers_only` and
`replay_only` say the same of operations in order.
-/

namespace ContentBlocker

/-! ## Archives -/

namespace Archive

/-- What an archive has under one identifier. -/
def only (archive : Archive) (identifier : String) : Archive :=
  ⟨(archive.lookup identifier).toList⟩

variable (archive : Archive) (identifier : String)

theorem identifier_of_lookup {archive : Archive} {identifier : String} {a : Artifact}
    (found : archive.lookup identifier = some a) : a.identifier = identifier := by
  simpa using List.find?_some found

theorem lookup_only : (archive.only identifier).lookup identifier = archive.lookup identifier := by
  unfold only
  cases found : archive.lookup identifier with
  | none => rfl
  | some a => exact (lookup_cons a [] identifier).trans (if_pos (identifier_of_lookup found))

theorem insert_only {a : Artifact} (named : a.identifier = identifier) :
    Archive.mk (insert (archive.only identifier).lists a) =
      only ⟨insert archive.lists a⟩ identifier := by
  have here : only ⟨insert archive.lists a⟩ identifier = ⟨[a]⟩ := by
    rw [only, lookup_insert, if_pos named]
    rfl
  rw [here]
  unfold only
  cases found : archive.lookup identifier with
  | none => rfl
  | some b =>
    have same : b.identifier = a.identifier := (identifier_of_lookup found).trans named.symm
    exact congrArg Archive.mk (if_pos same)

theorem compile_only (document : String) :
    service.compile identifier document (archive.only identifier) =
      Prod.map id (·.only identifier) (service.compile identifier document archive) := by
  rw [service_compile, service_compile]
  split
  · rfl
  · cases RuleList.validate document with
    | error finding => rfl
    | ok count => exact congrArg (Prod.mk _) (insert_only archive identifier rfl)

theorem remove_only :
    (service.remove identifier (archive.only identifier)).2 =
      (service.remove identifier archive).2.only identifier := by
  have gone : (service.remove identifier archive).2.only identifier = ⟨[]⟩ := by
    rw [only, lookup_remove, if_pos rfl]
    rfl
  rw [gone]
  simp only [service, remove, lookup_only]
  cases found : archive.lookup identifier with
  | none => simp [only, found]
  | some a => simp [only, found, identifier_of_lookup found]

end Archive

/-! ## Compilers -/

namespace Compiler

/-- What a compiler has for one client. -/
def only (c : Compiler Archive) (client : String) : Compiler Archive :=
  ⟨c.slots.only client, c.service.only (listIdentifier client)⟩

variable (c : Compiler Archive) (client : String)

@[simp] theorem slotOf_only : (c.only client).slotOf client = c.slotOf client :=
  congrArg (Option.getD · Slot.empty) (Table.get?_only c.slots client)

theorem set_only (slot : Slot) (archive : Archive) :
    Compiler.mk ((c.only client).slots.set client slot) (archive.only (listIdentifier client)) =
      only ⟨c.slots.set client slot, archive⟩ client :=
  congrArg (Compiler.mk · _) (Table.set_only c.slots client slot)

theorem answer_only (rules : List Rule) :
    (c.only client).answer Archive.service client rules =
      Prod.map id (·.only (listIdentifier client)) (c.answer Archive.service client rules) := by
  unfold answer only
  rw [Archive.compile_only]

theorem compile_only (rules : List Rule) :
    (c.only client).compile Archive.service client rules =
      Prod.map id (·.only client) (c.compile Archive.service client rules) := by
  by_cases none : rules = []
  · rw [none, compile_nil, compile_nil]
    rfl
  · have outcome : ((c.only client).compile Archive.service client rules).1 =
        (c.compile Archive.service client rules).1 := by
      rw [compile_fst _ _ _ none, compile_fst _ _ _ none, answer_only, Prod.map_fst, id]
    have after : ((c.only client).compile Archive.service client rules).2 =
        (c.compile Archive.service client rules).2.only client := by
      rw [compile_snd _ _ _ none, compile_snd _ _ _ none, answer_only, slotOf_only, Prod.map_fst,
        Prod.map_snd, id, set_only]
    exact Prod.ext outcome after

theorem discard_only :
    (c.only client).discard Archive.service client =
      Prod.map id (·.only client) (c.discard Archive.service client) := by
  have slots : (c.only client).slots.erase client = (c.slots.erase client).only client :=
    Table.erase_only ..
  have removed : (Archive.service.remove (listIdentifier client) (c.only client).service).2 =
      (Archive.service.remove (listIdentifier client) c.service).2.only (listIdentifier client) :=
    Archive.remove_only ..
  unfold discard
  rw [slotOf_only, slots, removed]
  dsimp only
  split <;> rfl

end Compiler

/-! ## Managers -/

namespace Manager

/-- What a manager has for one client. -/
def only (m : Manager Archive) (client : String) : Manager Archive :=
  ⟨m.store.only client, m.compiler.only client⟩

variable (m : Manager Archive) (client : String)

theorem recompiled_only {α : Type} (store : Store) (answer : Summary → α) :
    (m.only client).recompiled Archive.service client (store.only client) answer =
      Prod.map id (·.only client) (m.recompiled Archive.service client store answer) := by
  have compiled : (m.only client).compiler.compile Archive.service client
      ((store.only client).rulesOf client).merged = Prod.map id (·.only client)
        (m.compiler.compile Archive.service client (store.rulesOf client).merged) := by
    rw [Store.rulesOf_only]
    exact Compiler.compile_only ..
  unfold recompiled
  rw [compiled]
  rfl

/-- Managers that have the same for a client show the same of it. -/
theorem shown_of_only {m m' : Manager Archive} {client : String}
    (same : m.only client = m'.only client) :
    m.store.clients.get? client = m'.store.clients.get? client ∧
      m.compiler.slotOf client = m'.compiler.slotOf client ∧
      m.compiler.service.lookup (listIdentifier client) =
        m'.compiler.service.lookup (listIdentifier client) := by
  have stores : m.store.only client = m'.store.only client := congrArg Manager.store same
  have compilers : m.compiler.only client = m'.compiler.only client :=
    congrArg Manager.compiler same
  have lists : m.compiler.service.only (listIdentifier client) =
      m'.compiler.service.only (listIdentifier client) :=
    congrArg Compiler.service compilers
  refine ⟨?_, ?_, ?_⟩
  · rw [← Store.get?_clients_only, stores, Store.get?_clients_only]
  · rw [← Compiler.slotOf_only, compilers, Compiler.slotOf_only]
  · rw [← Archive.lookup_only, lists, Archive.lookup_only]

/-! ## Operations -/

theorem loadStaticRules_only (rules : Json) :
    (m.only client).loadStaticRules Archive.service client rules =
      Prod.map id (·.only client) (m.loadStaticRules Archive.service client rules) := by
  have loaded (rules : List Rule) : (m.only client).store.loadStatic client rules =
      (m.store.loadStatic client rules).map (Prod.map id (·.only client)) :=
    Store.loadRulesets_only ..
  unfold loadStaticRules
  cases Batch.ofJson rules with
  | error d => rfl
  | ok batch =>
    simp only [loaded]
    cases m.store.loadStatic client batch.rules with
    | error fault => rfl
    | ok answer => exact recompiled_only ..

theorem loadRulesets_only (rulesets : Json) :
    (m.only client).loadRulesets Archive.service client rulesets =
      Prod.map id (·.only client) (m.loadRulesets Archive.service client rulesets) := by
  have loaded (rulesets : List Ruleset) : (m.only client).store.loadRulesets client rulesets =
      (m.store.loadRulesets client rulesets).map (Prod.map id (·.only client)) :=
    Store.loadRulesets_only ..
  unfold loadRulesets
  cases Ruleset.listOfJson client rulesets with
  | error failure => rfl
  | ok read =>
    simp only [loaded]
    cases m.store.loadRulesets client read.1 with
    | error fault => rfl
    | ok answer => exact recompiled_only ..

theorem switchRulesets_only (enable disable : Json) :
    (m.only client).switchRulesets Archive.service client enable disable =
      Prod.map id (·.only client) (m.switchRulesets Archive.service client enable disable) := by
  have read : rulesetIds (m.only client).store client enable disable =
      rulesetIds m.store client enable disable :=
    Store.rulesetIds_only ..
  have switched (enable disable : List Text) :
      (m.only client).store.switchRulesets client enable disable =
        (m.store.switchRulesets client enable disable).map (Prod.map id (·.only client)) :=
    Store.switchRulesets_only ..
  unfold switchRulesets
  rw [read]
  cases rulesetIds m.store client enable disable with
  | error failure => rfl
  | ok ids =>
    simp only [switched]
    cases m.store.switchRulesets client ids.1 ids.2 with
    | error fault => rfl
    | ok answer => exact recompiled_only ..

theorem updateTier_only (tier : Tier) (add remove : Json) :
    (m.only client).updateTier Archive.service client tier add remove =
      Prod.map id (·.only client) (m.updateTier Archive.service client tier add remove) := by
  have updated (add : List Rule) (remove : List Int) :
      (m.only client).store.updateTier client tier add remove =
        (m.store.updateTier client tier add remove).map (Prod.map id (·.only client)) :=
    Store.updateTier_only ..
  unfold updateTier
  cases Batch.ofJson add with
  | error d => rfl
  | ok batch =>
    cases ruleIds remove with
    | error d => rfl
    | ok ids =>
      simp only [updated]
      cases m.store.updateTier client tier batch.rules ids with
      | error fault => rfl
      | ok answer => exact recompiled_only ..

theorem recompile_only :
    (m.only client).recompile Archive.service client =
      Prod.map id (·.only client) (m.recompile Archive.service client) := by
  have known : (m.only client).store.has client = m.store.has client := Store.has_only ..
  unfold recompile
  rw [known]
  split
  · exact recompiled_only ..
  · rfl

theorem removeRules_only :
    (m.only client).removeRules Archive.service client =
      Prod.map id (·.only client) (m.removeRules Archive.service client) := by
  have removed : (m.only client).store.removeClient client =
      Prod.map id (·.only client) (m.store.removeClient client) :=
    Store.removeClient_only ..
  have discarded : (m.only client).compiler.discard Archive.service client =
      Prod.map id (·.only client) (m.compiler.discard Archive.service client) :=
    Compiler.discard_only ..
  unfold removeRules
  rw [removed, discarded]
  rfl

theorem rules_only (tier : Tier) : (m.only client).rules client tier = m.rules client tier :=
  congrArg (ClientRules.tier · tier) (Store.rulesOf_only m.store client)

theorem enabledRulesets_only : (m.only client).enabledRulesets client = m.enabledRulesets client :=
  congrArg ClientRules.enabled (Store.rulesOf_only m.store client)

theorem ruleList_only : (m.only client).ruleList client = m.ruleList client :=
  congrArg Slot.artifact (Compiler.slotOf_only m.compiler client)

/-! ## Requests -/

theorem performRequest_only (request : Request) :
    performRequest Archive.service client request (m.only client) =
      Prod.map id (·.only client) (performRequest Archive.service client request m) := by
  cases request with
  | updateTier tier add remove =>
    simp only [performRequest, updateTier_only]
    rfl
  | getTier tier => exact congrArg (fun rs => (Except.ok (jsonRules rs), _)) (rules_only ..)
  | getEnabledRulesets =>
    exact congrArg (fun ids => (Except.ok (Json.texts ids), _)) (enabledRulesets_only ..)
  | updateEnabledRulesets enable disable =>
    simp only [performRequest, switchRulesets_only, Prod.map, enabledRulesets_only]
    rfl

theorem handleMessage_only (expose : Bool) (body : Json) :
    handleMessage expose (perform Archive.service) (some client) body (m.only client) =
      Prod.map id (·.only client)
        (handleMessage expose (perform Archive.service) (some client) body m) := by
  unfold handleMessage runMessage
  cases read : Request.ofMessage (some client) body with
  | error fault => rfl
  | ok asked =>
    obtain ⟨who, request⟩ := asked
    -- a message that is read is for the client that it comes from
    obtain ⟨method, fits, -⟩ := Request.ofMessage_ok.1 read
    cases fits.sender
    simp only [perform, performRequest_only]
    rfl

/-! ## Runs -/

/-- An operation for a client reads what the manager has for it, and writes nothing else. -/
theorem operate_only (expose : Bool) {op : Operation} (own : op.client? = some client) :
    (m.only client).operate Archive.service expose op =
      Prod.map id (·.only client) (m.operate Archive.service expose op) := by
  cases op with
  | loadStaticRules =>
    cases own
    simp only [operate, loadStaticRules_only, Prod.map, id]
  | loadRulesets =>
    cases own
    simp only [operate, loadRulesets_only, Prod.map, id]
  | updateTier =>
    cases own
    simp only [operate, updateTier_only, Prod.map, id]
  | switchRulesets =>
    cases own
    simp only [operate, switchRulesets_only, Prod.map, id]
  | recompile =>
    cases own
    simp only [operate, recompile_only, Prod.map, id]
  | removeRules =>
    cases own
    simp only [operate, removeRules_only, Prod.map, id]
  | getTier =>
    cases own
    simp only [operate, rules_only, Prod.map, id]
  | getEnabledRulesets =>
    cases own
    simp only [operate, enabledRulesets_only, Prod.map, id]
  | getRuleList =>
    cases own
    simp only [operate, ruleList_only, Prod.map, id]
  | message =>
    cases own
    simp only [operate, handleMessage_only, Prod.map, id]

theorem after_only (expose : Bool) {op : Operation} (own : op.client? = some client) :
    (m.only client).after Archive.service expose op =
      (m.after Archive.service expose op).only client :=
  congrArg Prod.snd (m.operate_only client expose own)

theorem replay_only (expose : Bool) {ops : List Operation}
    (own : ∀ op ∈ ops, op.client? = some client) :
    (m.only client).replay Archive.service expose ops =
      (m.replay Archive.service expose ops).only client := by
  induction ops generalizing m with
  | nil => rfl
  | cons op ops ih =>
    obtain ⟨here, later⟩ := List.forall_mem_cons.1 own
    unfold replay at ih ⊢
    rw [List.foldl_cons, List.foldl_cons, m.after_only client expose here, ih _ later]

/-- The answers to operations in order. -/
def answers {σ : Type} (service : Service σ) (expose : Bool) (m : Manager σ) :
    List Operation → List (Except Failure Answer)
  | [] => []
  | op :: ops =>
    (m.operate service expose op).1 :: answers service expose (m.after service expose op) ops

/-- Operations for a client are answered from what the manager has for it. -/
theorem answers_only (expose : Bool) {ops : List Operation}
    (own : ∀ op ∈ ops, op.client? = some client) :
    (m.only client).answers Archive.service expose ops = m.answers Archive.service expose ops := by
  induction ops generalizing m with
  | nil => rfl
  | cons op ops ih =>
    obtain ⟨here, later⟩ := List.forall_mem_cons.1 own
    have answer : ((m.only client).operate Archive.service expose op).1 =
        (m.operate Archive.service expose op).1 := by
      rw [m.operate_only client expose here]
      rfl
    rw [answers, answers, answer, m.after_only client expose here, ih _ later]

end Manager

end ContentBlocker
