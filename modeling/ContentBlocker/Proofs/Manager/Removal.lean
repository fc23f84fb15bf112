import ContentBlocker.Proofs.Manager.Coherence
import ContentBlocker.Proofs.Manager.Failures
import ContentBlocker.Proofs.Manager.Restriction

/-!
# Removed clients

A removal takes everything that a manager over an archive has for a client: what is left of the
client is what a fresh manager has, `only_removeRules`.  Whatever the client asks for afterwards is
therefore answered as by a fresh manager, `removed_clients_are_new`.
-/

namespace ContentBlocker.Manager

/-! ## Limits -/

theorem Transition.limits {σ : Type} {service : Service σ} {m m' : Manager σ}
    (transition : Transition service m m') : m'.store.limits = m.store.limits := by
  cases transition with
  | stay => rfl
  | compile accepted => exact Store.limits_of_amended accepted
  | remove client => rfl

theorem limits_replay {σ : Type} (service : Service σ) (m : Manager σ) (expose : Bool)
    (ops : List Operation) : (m.replay service expose ops).store.limits = m.store.limits :=
  replay_preserves_of_transition (P := fun m' => m'.store.limits = m.store.limits)
    (fun transition same => transition.limits.trans same) rfl expose ops

/-! ## Removals -/

variable {m : Manager Archive} {client : String}

/-- After a removal a manager has for the client what a fresh one has. -/
theorem only_removeRules (coherent : m.CoherentAt client) :
    (m.removeRules Archive.service client).2.only client = fresh m.store.limits Archive.empty := by
  have store : (m.store.removeClient client).2.only client = .empty m.store.limits := by
    have forgotten : (m.store.removeClient client).2.clients.only client = [] := by
      rw [Table.only, Store.get?_removeClient, if_pos rfl]
      rfl
    exact congrArg (Store.mk m.store.limits) forgotten
  have compiler : (m.compiler.discard Archive.service client).2.only client = ⟨[], .empty⟩ := by
    have slots : (m.compiler.discard Archive.service client).2.slots.only client = [] := by
      rw [Table.only, Compiler.get?_slots_discard, if_pos rfl]
      rfl
    have lists : (m.compiler.discard Archive.service client).2.service.only
        (listIdentifier client) = .empty := by
      -- the archive loses a list only if the slot has one: here coherence is needed
      rw [Archive.only, Compiler.lookup_discard coherent.stored]
      rfl
    rw [Compiler.only, slots, lists]
  have removed : (m.removeRules Archive.service client).2 =
      ⟨(m.store.removeClient client).2, (m.compiler.discard Archive.service client).2⟩ := rfl
  rw [removed, only, store, compiler]
  rfl

/-- Managers with the same for a client answer the client the same and go on having the same. -/
theorem alike_of_only {m m' : Manager Archive} (same : m.only client = m'.only client)
    (expose : Bool) {ops : List Operation} (own : ∀ op ∈ ops, op.client? = some client) :
    m.answers Archive.service expose ops = m'.answers Archive.service expose ops ∧
      (m.replay Archive.service expose ops).only client =
        (m'.replay Archive.service expose ops).only client := by
  constructor
  · rw [← m.answers_only client expose own, same, m'.answers_only client expose own]
  · rw [← m.replay_only client expose own, same, m'.replay_only client expose own]

/-- Whatever a manager over an empty archive was asked for, a removal leaves a client as a fresh
manager has it: all later operations and messages of the client are answered the same, and the rules
of the client, its slot and its list in the archive are the same after them.  A removal is refused
just for a client that is not known, and then it changes nothing. -/
theorem removed_clients_are_new (limits : Limits) (expose : Bool) (ops : List Operation)
    (client : String) :
    let new := fresh limits Archive.empty
    let m := new.replay Archive.service expose ops
    let removal := m.removeRules Archive.service client
    (∀ later : List Operation, (∀ op ∈ later, op.client? = some client) →
      let known := removal.2.replay Archive.service expose later
      let unknown := new.replay Archive.service expose later
      removal.2.answers Archive.service expose later =
        new.answers Archive.service expose later ∧
      known.store.clients.get? client = unknown.store.clients.get? client ∧
      known.compiler.slotOf client = unknown.compiler.slotOf client ∧
      known.compiler.service.lookup (listIdentifier client) =
        unknown.compiler.service.lookup (listIdentifier client)) ∧
    removal.1 = (if m.store.has client then .ok () else .error (.noRules client)) ∧
    (m.store.has client = false → removal.2 = m) := by
  intro new m removal
  have coherent : m.CoherentAt client := coherentAt_replay limits expose ops client
  have slots : m.KnownBySlot := knownBySlot_replay limits Archive.empty expose ops
  have same : removal.2.only client = new.only client := by
    have kept : m.store.limits = limits := limits_replay Archive.service new expose ops
    rw [only_removeRules coherent, kept]
    rfl
  refine ⟨fun later own => ?_, ?_, fun unknown => ?_⟩
  · obtain ⟨answered, left⟩ := alike_of_only same expose own
    exact ⟨answered, shown_of_only left⟩
  · cases has : m.store.has client with
    | true => exact removeRules_of_known has
    | false => exact congrArg Prod.fst (removeRules_of_unknown slots has)
  · exact congrArg Prod.snd (removeRules_of_unknown slots unknown)

/-- The rulesets of a client that was removed cannot be switched on again. -/
theorem removed_rulesets_are_unknown :
    let load : Operation :=
      .loadRulesets "a" (.arr [.obj [("id", .str "r"), ("enabled", .bool true)]])
    let m := (fresh .standard Archive.empty).replay Archive.service false [load]
    let removal := m.removeRules Archive.service "a"
    m.enabledRulesets "a" = ["r"] ∧ removal.1 = .ok () ∧
      removal.2.answers Archive.service false
          [.switchRulesets "a" (.arr [.str "r"]) .null, .getEnabledRulesets "a", .recompile "a"] =
        [.error (.store "a" .noRulesets), .ok (.rulesets []), .error (.noRules "a")] := by
  intro load m removal
  obtain ⟨alike, removed, -⟩ := removed_clients_are_new .standard false [load] "a"
  have known : m.store.has "a" := rfl
  have own : ∀ op ∈ [Operation.switchRulesets "a" (.arr [.str "r"]) .null, .getEnabledRulesets "a",
      .recompile "a"], op.client? = some "a" := by
    simp [Operation.client?]
  exact ⟨rfl, removed.trans (if_pos known), (alike _ own).1⟩

end ContentBlocker.Manager
