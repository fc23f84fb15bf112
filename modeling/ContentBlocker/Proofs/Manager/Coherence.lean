import ContentBlocker.Proofs.Compile.Archive
import ContentBlocker.Proofs.Compile.Direct
import ContentBlocker.Proofs.Manager.Moves
import ContentBlocker.Proofs.RuleList.Documents

/-!
# Coherence of the manager

Over an archive, what the manager keeps for a client fits together: its rules, the state of its
slot, the list in use and the list in the archive.  `Coherent` collects the clauses,
`coherentAt_compiled` and `coherentAt_removed` say that compilations and removals keep them, and
`replay_coherent` that they hold after any operations.
-/

namespace ContentBlocker

/-! ## Coherent clients -/

/-- The rules of a client, its slot and its list in the archive fit together. -/
structure Coherent (client : String) (rules : List Rule) (slot : Slot) (stored : Option Artifact) :
    Prop where
  settled : slot.state ≠ .compiling
  uninitialized : slot.state = .uninitialized → rules = [] ∧ slot.artifact = none
  compiled : slot.state = .compiled → rules ≠ [] →
    let conversion := RuleList.Conversion.ofRules rules
    ∃ a, slot.artifact = some a ∧ a.encoded = conversion.document ∧
      a.ruleCount = conversion.entries.length
  failed : slot.state = .failed → rules ≠ [] →
    let document := (RuleList.Conversion.ofRules rules).document
    ∃ report, (∀ archive,
        (Archive.service.compile (listIdentifier client) document archive).1 = .error report) ∧
      slot.lastError = some (compilationText report)
  stored : stored = slot.artifact

namespace Coherent

variable {client : String} {rules : List Rule} {slot : Slot} {stored : Option Artifact}

/-- A client of which nothing is known. -/
theorem empty (client : String) : Coherent client [] .empty none where
  settled := by simp [Slot.empty]
  uninitialized _ := ⟨rfl, rfl⟩
  compiled state := by cases state
  failed state := by cases state
  stored := rfl

/-- Without rules the rest may stay. -/
theorem without_rules (h : Coherent client rules slot stored) : Coherent client [] slot stored where
  settled := h.settled
  uninitialized state := ⟨rfl, (h.uninitialized state).2⟩
  compiled _ none := absurd rfl none
  failed _ none := absurd rfl none
  stored := h.stored

/-- After an answer of the archive a slot with rules fits to what the archive has then. -/
theorem answered (h : slot.artifact = stored) {archive : Archive} {rules : List Rule}
    (looked : archive.lookup (listIdentifier client) = stored) :
    let document := (RuleList.Conversion.ofRules rules).document
    let answer := Archive.service.compile (listIdentifier client) document archive
    Coherent client rules (Compiler.answeredSlot slot answer.1)
      (answer.2.lookup (listIdentifier client)) := by
  intro document answer
  cases answered : answer.1 with
  | ok a =>
    obtain ⟨valid, identifier, encoded, after⟩ := Archive.service_compile_ok answered
    constructor
    · simp [Compiler.answeredSlot, Slot.succeed]
    · intro state
      cases state
    · intro _ _
      exact ⟨a, rfl, encoded, RuleList.Conversion.count_of_validate valid⟩
    · intro state
      cases state
    · rw [after, Archive.lookup_insert, if_pos identifier]
      rfl
  | error report =>
    obtain ⟨after, always⟩ := Archive.service_compile_error answered
    constructor
    · simp [Compiler.answeredSlot, Slot.fail]
    · intro state
      cases state
    · intro state
      cases state
    · intro _ _
      exact ⟨report, always, rfl⟩
    · rw [after, looked]
      exact h.symm

end Coherent

/-! ## The lists in the archive -/

namespace Compiler

variable {c : Compiler Archive} {client identifier : String}

theorem lookup_compile_of_ne (ne : listIdentifier client ≠ identifier) {rules : List Rule} :
    (c.compile Archive.service client rules).2.service.lookup identifier =
      c.service.lookup identifier := by
  by_cases none : rules = []
  · rw [none, compile_nil]
  · rw [c.compile_snd _ _ none]
    exact Archive.lookup_compile_of_ne ne

theorem lookup_discard_of_ne (ne : listIdentifier client ≠ identifier) :
    (c.discard Archive.service client).2.service.lookup identifier =
      c.service.lookup identifier := by
  rw [discard_snd]
  dsimp only
  split
  · rw [Archive.lookup_remove, if_neg ne]
  · rfl

/-- A list in the archive is only removed if the slot has it. -/
theorem lookup_discard
    (stored : c.service.lookup (listIdentifier client) = (c.slotOf client).artifact) :
    (c.discard Archive.service client).2.service.lookup (listIdentifier client) = none := by
  rw [discard_snd]
  cases listed : (c.slotOf client).artifact with
  | none => exact stored.trans listed
  | some a => rw [Option.isSome_some, if_pos rfl, Archive.lookup_remove, if_pos rfl]

end Compiler

/-! ## Coherent managers -/

namespace Manager

/-- What the manager keeps for a client fits together. -/
def CoherentAt (m : Manager Archive) (client : String) : Prop :=
  Coherent client (m.store.rulesOf client).merged (m.compiler.slotOf client)
    (m.compiler.service.lookup (listIdentifier client))

variable {m : Manager Archive}

theorem coherentAt_fresh (limits : Limits) (client : String) :
    CoherentAt (fresh limits .empty) client :=
  .empty client

theorem coherentAt_compiled (h : ∀ client, m.CoherentAt client) (client : String) {store : Store}
    (others : ∀ other, client ≠ other → store.rulesOf other = m.store.rulesOf other)
    (other : String) : (m.compiled Archive.service client store).CoherentAt other := by
  unfold CoherentAt compiled
  by_cases same : client = other
  · subst same
    by_cases none : (store.rulesOf client).merged = []
    · rw [none, Compiler.compile_nil]
      exact (h client).without_rules
    · rw [Compiler.slotOf_compile _ _ _ none, if_pos rfl, Compiler.compile_snd _ _ _ none]
      exact Coherent.answered (h client).stored.symm rfl
  · rw [others other same, Compiler.slotOf_compile_of_ne _ _ _ same,
      Compiler.lookup_compile_of_ne (mt listIdentifier_inj.1 same)]
    exact h other

theorem coherentAt_removed (h : ∀ client, m.CoherentAt client) (client other : String) :
    (m.removeRules Archive.service client).2.CoherentAt other := by
  have removed : (m.removeRules Archive.service client).2 =
      ⟨(m.store.removeClient client).2, (m.compiler.discard Archive.service client).2⟩ := rfl
  unfold CoherentAt
  rw [removed, Compiler.slotOf_discard]
  by_cases same : client = other
  · subst same
    have forgotten : ((m.store.removeClient client).2.rulesOf client).merged = [] := by
      unfold Store.rulesOf Store.removeClient
      rw [Table.get?_erase, if_pos rfl]
      rfl
    rw [forgotten, Compiler.lookup_discard (h client).stored, if_pos rfl]
    exact .empty client
  · have rules : (m.store.removeClient client).2.rulesOf other = m.store.rulesOf other :=
      (Store.rulesOf_removeClient other).trans (if_neg same)
    rw [rules, Compiler.lookup_discard_of_ne (mt listIdentifier_inj.1 same), if_neg same]
    exact h other

theorem coherentAt_move {m' : Manager Archive} (move : Move Archive.service m m')
    (h : ∀ client, m.CoherentAt client) (client : String) : m'.CoherentAt client := by
  cases move with
  | stay => exact h client
  | compile others => exact coherentAt_compiled h _ others client
  | remove who => exact coherentAt_removed h who client

/-! ## Lists without a client -/

/-- Every list in the archive is the list of some client. -/
def Owned (m : Manager Archive) : Prop :=
  ∀ identifier a, m.compiler.service.lookup identifier = some a →
    ∃ client, identifier = listIdentifier client

theorem owned_fresh (limits : Limits) : Owned (fresh limits .empty) := by
  intro identifier a stored
  cases stored

theorem owned_move {m' : Manager Archive} (move : Move Archive.service m m') (h : m.Owned) :
    m'.Owned := by
  cases move with
  | stay => exact h
  | @compile client store others =>
    intro identifier a stored
    by_cases own : listIdentifier client = identifier
    · exact ⟨client, own.symm⟩
    · exact h identifier a ((Compiler.lookup_compile_of_ne own).symm.trans stored)
  | remove client =>
    intro identifier a stored
    by_cases own : listIdentifier client = identifier
    · exact ⟨client, own.symm⟩
    · exact h identifier a ((Compiler.lookup_discard_of_ne own).symm.trans stored)

/-! ## Runs -/

theorem coherentAt_replay (limits : Limits) (expose : Bool) (ops : List Operation)
    (client : String) :
    ((fresh limits .empty).replay Archive.service expose ops).CoherentAt client :=
  replay_preserves (P := fun m => ∀ client, m.CoherentAt client) coherentAt_move
    (coherentAt_fresh limits) expose ops client

/-- Whatever a manager over an empty archive was asked for, nothing of a client is being compiled;
a client without an outcome has no rules and no list; the list of a compiled client is that of its
rules; the rules of a client whose compilation failed are rejected by the archive, for the reason
that is reported; and the archive has the lists in use and no others. -/
theorem replay_coherent (limits : Limits) (expose : Bool) (ops : List Operation) :
    let m := (fresh limits .empty).replay Archive.service expose ops
    (∀ client,
      let rules := (m.store.rulesOf client).merged
      let conversion := RuleList.Conversion.ofRules rules
      m.state client ≠ .compiling ∧
      (m.state client = .uninitialized → rules = [] ∧ m.ruleList client = none) ∧
      (m.state client = .compiled → rules ≠ [] →
        ∃ a, m.ruleList client = some a ∧ a.encoded = conversion.document ∧
          a.ruleCount = conversion.entries.length) ∧
      (m.state client = .failed → rules ≠ [] →
        ∃ report, (∀ archive, (Archive.service.compile (listIdentifier client)
            conversion.document archive).1 = .error report) ∧
          m.lastError client = some
            (if report.origin = .caller .compilationFailed then report.text
            else "Rule compilation failed: " ++ report.text)) ∧
      m.compiler.service.lookup (listIdentifier client) = m.ruleList client) ∧
    ∀ identifier ∈ m.compiler.service.identifiers,
      ∃ client, identifier = listIdentifier client := by
  intro m
  have coherent : ∀ client, m.CoherentAt client :=
    replay_preserves (P := fun m => ∀ client, m.CoherentAt client) coherentAt_move
      (coherentAt_fresh limits) expose ops
  have owned : m.Owned := replay_preserves owned_move (owned_fresh limits) expose ops
  constructor
  · intro client
    obtain ⟨settled, uninitialized, compiled, failed, stored⟩ := coherent client
    exact ⟨settled, uninitialized, compiled, failed, stored⟩
  · intro identifier listed
    obtain ⟨a, stored⟩ := Option.isSome_iff_exists.1 (Archive.mem_identifiers.1 listed)
    exact owned identifier a stored

end Manager

end ContentBlocker
