import ContentBlocker.Proofs.Compile.Shelf
import ContentBlocker.Proofs.Manager.Coherence
import ContentBlocker.Proofs.Table

/-!
# Managers at rest

Over an archive a manager is always at rest: it has compiled the rules that every client has, so
that to compile them once more changes nothing (`Rests.compile_snd`) and ends as the last compilation
did (`Rests.compile_fst`).
-/

namespace ContentBlocker

/-! ## Compiling twice -/

namespace Archive

variable {archive : Archive}

/-- A list is put where it is. -/
theorem insert_of_lookup (sorted : archive.identifiers.Pairwise (· < ·)) {a : Artifact}
    (stored : archive.lookup a.identifier = some a) : insert archive.lists a = archive.lists := by
  obtain ⟨lists⟩ := archive
  induction lists with
  | nil => cases stored
  | cons b rest ih =>
    obtain ⟨least, later⟩ := List.pairwise_cons.1 sorted
    rw [lookup_cons] at stored
    unfold insert
    split
    · rename_i same
      rw [if_pos same] at stored
      rw [Option.some.inj stored]
    · rename_i other
      rw [if_neg other] at stored
      have here : a.identifier ∈ identifiers ⟨rest⟩ :=
        mem_identifiers.2 (Option.isSome_iff_exists.2 ⟨a, stored⟩)
      rw [if_neg (least _ here).not_gt, ih later stored]

/-- Whether a document is accepted does not depend on what is stored. -/
theorem service_compile_fst (identifier document : String) (archive other : Archive) :
    (service.compile identifier document archive).1 =
      (service.compile identifier document other).1 := by
  rw [service_compile, service_compile]
  split
  · rfl
  · cases RuleList.validate document <;> rfl

theorem sorted_service_compile (sorted : archive.identifiers.Pairwise (· < ·))
    (identifier document : String) :
    (service.compile identifier document archive).2.identifiers.Pairwise (· < ·) := by
  cases answered : (service.compile identifier document archive).1 with
  | ok a =>
    rw [(service_compile_ok answered).2.2.2]
    exact sorted_insert a sorted
  | error report =>
    rw [(service_compile_error answered).1]
    exact sorted

theorem sorted_service_remove (sorted : archive.identifiers.Pairwise (· < ·))
    (identifier : String) :
    (service.remove identifier archive).2.identifiers.Pairwise (· < ·) := by
  unfold service
  obtain ⟨-, done⟩ | ⟨-, done⟩ := remove_cases archive identifier
  · simp only [done]
    exact sorted.sublist (List.filter_sublist.map _)
  · simp only [done]
    exact sorted

end Archive

/-! ## Compiled rules -/

/-- What an archive answers to the rules of a client. -/
def verdict (client : String) (rules : List Rule) : Except Report Artifact :=
  (Archive.service.compile (listIdentifier client) (RuleList.Conversion.ofRules rules).document
    .empty).1

section Verdict

variable {rules : List Rule} (client : String)

theorem verdict_of_valid {count : Nat}
    (valid : RuleList.validate (RuleList.Conversion.ofRules rules).document = .ok count) :
    ∃ a, verdict client rules = .ok a ∧
      a.encoded = (RuleList.Conversion.ofRules rules).document := by
  unfold verdict
  rw [Archive.service_compile, isAllBlank_listIdentifier, valid]
  exact ⟨_, rfl, rfl⟩

theorem verdict_of_invalid {finding : RuleList.Finding RuleList.Rejection}
    (invalid : RuleList.validate (RuleList.Conversion.ofRules rules).document = .error finding) :
    verdict client rules = .error (ArchiveFault.ofFinding finding).report := by
  unfold verdict
  rw [Archive.service_compile, isAllBlank_listIdentifier, invalid]
  rfl

end Verdict

namespace Compiler

theorem answeredSlot_twice (slot : Slot) (outcome : Except Report Artifact) :
    answeredSlot (answeredSlot slot outcome) outcome = answeredSlot slot outcome := by
  cases outcome <;> rfl

variable {c c' : Compiler Archive} {client : String} {rules : List Rule}

theorem answer_fst (c : Compiler Archive) (client : String) (rules : List Rule) :
    (c.answer Archive.service client rules).1 = verdict client rules :=
  Archive.service_compile_fst ..

/-- The slot of a client and its list in the archive are as a compilation of rules leaves them. -/
structure HasCompiled (c : Compiler Archive) (client : String) (rules : List Rule) : Prop where
  slot : c.slots.get? client = some (answeredSlot (c.slotOf client) (verdict client rules))
  stored : ∀ a, verdict client rules = .ok a →
    c.service.lookup (listIdentifier client) = some a

/-- A compilation leaves what it leaves. -/
theorem hasCompiled_compile (c : Compiler Archive) (client : String) (some : rules ≠ []) :
    (c.compile Archive.service client rules).2.HasCompiled client rules := by
  constructor
  · rw [c.slotOf_compile _ _ some, if_pos rfl, c.compile_snd _ _ some, Table.get?_set, if_pos rfl,
      answer_fst, answeredSlot_twice]
  · intro a accepted
    rw [← c.answer_fst] at accepted
    obtain ⟨-, named, -, after⟩ := Archive.service_compile_ok accepted
    rw [c.compile_snd _ _ some]
    exact (congrArg (Archive.lookup · _) after).trans
      ((Archive.lookup_insert ..).trans (if_pos named))

theorem HasCompiled.congr (h : c.HasCompiled client rules)
    (slot : c'.slots.get? client = c.slots.get? client)
    (stored : c'.service.lookup (listIdentifier client) =
      c.service.lookup (listIdentifier client)) : c'.HasCompiled client rules where
  slot := by
    rw [slotOf, slot]
    exact h.slot
  stored a accepted := stored.trans (h.stored a accepted)

/-- To compile the same rules again changes nothing. -/
theorem HasCompiled.compile_snd (h : c.HasCompiled client rules)
    (sorted : c.service.identifiers.Pairwise (· < ·)) :
    (c.compile Archive.service client rules).2 = c := by
  by_cases none : rules = []
  · rw [none, compile_nil]
  · have service : (c.answer Archive.service client rules).2 = c.service := by
      cases answered : (c.answer Archive.service client rules).1 with
      | ok a =>
        obtain ⟨-, named, -, after⟩ := Archive.service_compile_ok answered
        refine after.trans (congrArg Archive.mk (Archive.insert_of_lookup sorted ?_))
        rw [named]
        exact h.stored a ((c.answer_fst client rules).symm.trans answered)
      | error report => exact (Archive.service_compile_error answered).1
    rw [c.compile_snd _ _ none, answer_fst, Table.set_of_get? h.slot, service]

end Compiler

/-! ## Managers -/

namespace Manager

/-- A manager with a sorted archive that has compiled the rules of every client. -/
structure Rests (m : Manager Archive) : Prop where
  sorted : m.compiler.service.identifiers.Pairwise (· < ·)
  current : ∀ client, (m.store.rulesOf client).merged ≠ [] →
    m.compiler.HasCompiled client (m.store.rulesOf client).merged

variable {m m' : Manager Archive}

theorem rests_fresh (limits : Limits) {archive : Archive}
    (sorted : archive.identifiers.Pairwise (· < ·)) : Rests (fresh limits archive) where
  sorted := sorted
  current _ some := absurd rfl some

theorem rests_compiled (h : m.Rests) {client : String} {store : Store}
    (others : ∀ other, client ≠ other → store.rulesOf other = m.store.rulesOf other) :
    (m.compiled Archive.service client store).Rests := by
  unfold compiled
  constructor
  · by_cases none : (store.rulesOf client).merged = []
    · rw [none]
      exact h.sorted
    · rw [m.compiler.compile_snd _ _ none]
      exact Archive.sorted_service_compile h.sorted _ _
  · intro other some
    by_cases same : client = other
    · subst same
      exact m.compiler.hasCompiled_compile client some
    · dsimp only at some ⊢
      rw [others other same] at some ⊢
      exact (h.current other some).congr (Compiler.get?_slots_compile_of_ne _ _ _ same _)
        (Compiler.lookup_compile_of_ne (mt listIdentifier_inj.1 same))

theorem rests_removed (h : m.Rests) (client : String) :
    (m.removeRules Archive.service client).2.Rests := by
  have removed : (m.removeRules Archive.service client).2 =
      ⟨(m.store.removeClient client).2, (m.compiler.discard Archive.service client).2⟩ := rfl
  rw [removed]
  constructor
  · rw [Compiler.discard_snd]
    dsimp only
    split
    · exact Archive.sorted_service_remove h.sorted _
    · exact h.sorted
  · intro other some
    dsimp only at some ⊢
    rw [Store.rulesOf_removeClient] at some ⊢
    by_cases same : client = other
    · rw [if_pos same] at some
      exact absurd rfl some
    · rw [if_neg same] at some ⊢
      refine (h.current other some).congr ?_
        (Compiler.lookup_discard_of_ne (mt listIdentifier_inj.1 same))
      rw [Compiler.get?_slots_discard, if_neg same]

/-- A manager that starts with lists that are stored already rests as well. -/
theorem rests_replay_of_sorted (limits : Limits) {archive : Archive}
    (sorted : archive.identifiers.Pairwise (· < ·)) (expose : Bool) (ops : List Operation) :
    ((fresh limits archive).replay Archive.service expose ops).Rests := by
  refine replay_preserves (fun move h => ?_) (rests_fresh limits sorted) expose ops
  cases move with
  | stay => exact h
  | compile others => exact rests_compiled h others
  | remove client => exact rests_removed h client

theorem rests_replay (limits : Limits) (expose : Bool) (ops : List Operation) :
    ((fresh limits .empty).replay Archive.service expose ops).Rests :=
  rests_replay_of_sorted limits .nil expose ops

/-! ## Compiling once more -/

/-- To compile the rules of a client once more changes nothing. -/
theorem Rests.compile_snd (h : m.Rests) (client : String) :
    (m.compiler.compile Archive.service client (m.store.rulesOf client).merged).2 = m.compiler := by
  by_cases none : (m.store.rulesOf client).merged = []
  · rw [none, Compiler.compile_nil]
  · exact (h.current client none).compile_snd h.sorted

/-- A step that only compiles the rules of a client once more stays where it is. -/
theorem Rests.recompiled_eq (h : m.Rests) (client : String) {α : Type} (answer : Summary → α) :
    m.recompiled Archive.service client m.store answer =
      ((m.compiler.compile Archive.service client (m.store.rulesOf client).merged).1.map answer,
        m) := by
  have back : (⟨m.store, (m.compiler.compile Archive.service client
      (m.store.rulesOf client).merged).2⟩ : Manager Archive) = m := by
    rw [h.compile_snd]
  exact Prod.ext rfl back

/-- The slot of a client with rules tells how their compilation ended. -/
theorem Rests.slotOf_eq (h : m.Rests) {client : String}
    (some : (m.store.rulesOf client).merged ≠ []) :
    m.compiler.slotOf client = Compiler.answeredSlot (m.compiler.slotOf client)
      (verdict client (m.store.rulesOf client).merged) := by
  conv_lhs => rw [Compiler.slotOf, (h.current client some).slot]
  rfl

/-- A client whose rules are rejected has failed for that reason. -/
theorem Rests.failed_of_rejected (h : m.Rests) {client : String}
    (some : (m.store.rulesOf client).merged ≠ []) {report : Report}
    (rejected : verdict client (m.store.rulesOf client).merged = .error report) :
    m.state client = .failed ∧ m.lastError client = Option.some (compilationText report) := by
  have slot := h.slotOf_eq some
  rw [rejected] at slot
  exact ⟨congrArg Slot.state slot, congrArg Slot.lastError slot⟩

/-- It fails just if the last compilation did, with the text that is kept of it. -/
theorem Rests.compile_fst (h : m.Rests) (client : String) :
    let rules := (m.store.rulesOf client).merged
    let outcome := (m.compiler.compile Archive.service client rules).1
    if m.state client = .failed ∧ rules ≠ [] then
      ∃ text, m.lastError client = some text ∧ outcome = .error (.compilation client text)
    else ∃ summary, outcome = .ok summary := by
  intro rules outcome
  by_cases none : rules = []
  · rw [if_neg fun both => both.2 none]
    refine ⟨.ofSkipped client, ?_⟩
    simp only [outcome, none, Compiler.compile_nil]
  · have ended := m.compiler.compile_fst Archive.service client none
    rw [m.compiler.answer_fst] at ended
    cases verdict : verdict client rules with
    | ok a =>
      have slot := h.slotOf_eq none
      rw [verdict] at slot ended
      have compiled : m.state client = .compiled := congrArg Slot.state slot
      rw [if_neg fun both => by cases compiled.symm.trans both.1]
      exact ⟨_, ended⟩
    | error report =>
      obtain ⟨failed, told⟩ := h.failed_of_rejected none verdict
      rw [verdict] at ended
      rw [if_pos ⟨failed, none⟩]
      exact ⟨compilationText report, told, ended⟩

/-- What the answer is if the rules of a client are only compiled once more. -/
theorem Rests.recompiled_spec (h : m.Rests) (client : String) {α : Type} (answer : Summary → α) :
    let step := m.recompiled Archive.service client m.store answer
    step.2 = m ∧
      if m.state client = .failed ∧ (m.store.rulesOf client).merged ≠ [] then
        ∃ text, m.lastError client = some text ∧ step.1 = .error (.compilation client text)
      else ∃ summary, step.1 = .ok (answer summary) := by
  have ended := h.compile_fst client
  dsimp only at ended ⊢
  rw [h.recompiled_eq]
  refine ⟨rfl, ?_⟩
  split
  · rename_i failed
    rw [if_pos failed] at ended
    obtain ⟨text, told, outcome⟩ := ended
    exact ⟨text, told, by rw [outcome]; rfl⟩
  · rename_i failed
    rw [if_neg failed] at ended
    obtain ⟨summary, outcome⟩ := ended
    exact ⟨summary, by rw [outcome]; rfl⟩

end Manager

end ContentBlocker
