import ContentBlocker.Compile.Direct

/-!
# Compiling at once

A compilation changes the slot of its client only: `slotOf_compile` says how, with what the service
answers.
-/

namespace ContentBlocker.Compiler

variable {σ : Type} (service : Service σ) (c : Compiler σ) (client : String)

theorem slotOf_set (slot : Slot) (state : σ) (other : String) :
    slotOf ⟨c.slots.set client slot, state⟩ other =
      if client = other then slot else c.slotOf other := by
  unfold slotOf
  rw [Table.get?_set]
  split <;> rfl

theorem slotOf_erase (state : σ) (other : String) :
    slotOf ⟨c.slots.erase client, state⟩ other =
      if client = other then .empty else c.slotOf other := by
  unfold slotOf
  rw [Table.get?_erase]
  split <;> rfl

/-! ## Compilations -/

/-- The answer of the service to the document of rules, and what it makes of the service. -/
def answer (rules : List Rule) : Except Report Artifact × σ :=
  service.compile (listIdentifier client) (RuleList.Conversion.ofRules rules).document c.service

/-- A slot after an answer of the service. -/
def answeredSlot (slot : Slot) : Except Report Artifact → Slot
  | .ok a => .succeed a
  | .error r => slot.fail (compilationText r)

theorem compile_nil : c.compile service client [] = (.ok (.ofSkipped client), c) := rfl

theorem compile_fst {rules : List Rule} (some : rules ≠ []) :
    (c.compile service client rules).1 =
      match (c.answer service client rules).1 with
      | .ok a => .ok (.ofConversion client (.ofRules rules) a)
      | .error r => .error (.compilation client (compilationText r)) := by
  unfold compile
  simp only [List.isEmpty_eq_false_iff.2 some, Bool.false_eq_true, if_false]
  split <;> rename_i answered <;> simp only [answer, answered]

theorem compile_snd {rules : List Rule} (some : rules ≠ []) :
    (c.compile service client rules).2 =
      ⟨c.slots.set client (answeredSlot (c.slotOf client) (c.answer service client rules).1),
        (c.answer service client rules).2⟩ := by
  unfold compile
  simp only [List.isEmpty_eq_false_iff.2 some, Bool.false_eq_true, if_false]
  split <;> rename_i answered <;> simp only [answer, answered, answeredSlot]

theorem slotOf_compile {rules : List Rule} (some : rules ≠ []) (other : String) :
    (c.compile service client rules).2.slotOf other =
      if client = other then answeredSlot (c.slotOf client) (c.answer service client rules).1
      else c.slotOf other := by
  rw [c.compile_snd service client some, slotOf_set]

/-- With rules or without, the slots of other clients stay. -/
theorem slotOf_compile_of_ne {other : String} (ne : client ≠ other) {rules : List Rule} :
    (c.compile service client rules).2.slotOf other = c.slotOf other := by
  by_cases none : rules = []
  · rw [none, compile_nil]
  · rw [c.slotOf_compile service client none, if_neg ne]

theorem get?_slots_compile_of_ne {other : String} (ne : client ≠ other) (rules : List Rule) :
    (c.compile service client rules).2.slots.get? other = c.slots.get? other := by
  by_cases none : rules = []
  · rw [none, compile_nil]
  · rw [c.compile_snd service client none]
    exact (Table.get?_set ..).trans (if_neg ne)

/-- A compilation fails only if the service rejects the document of the rules. -/
theorem compile_error {rules : List Rule} {failure : Failure}
    (failed : (c.compile service client rules).1 = .error failure) :
    rules ≠ [] ∧ ∃ report, (c.answer service client rules).1 = .error report ∧
      failure = .compilation client (compilationText report) := by
  by_cases none : rules = []
  · rw [none, compile_nil] at failed
    cases failed
  · rw [c.compile_fst service client none] at failed
    cases answered : (c.answer service client rules).1 with
    | ok a => simp [answered] at failed
    | error report =>
      simp only [answered, Except.error.injEq] at failed
      exact ⟨none, report, rfl, failed.symm⟩

/-! ## Discards -/

theorem discard_snd :
    (c.discard service client).2 =
      ⟨c.slots.erase client,
        if (c.slotOf client).artifact.isSome then
          (service.remove (listIdentifier client) c.service).2
        else c.service⟩ := by
  unfold discard
  dsimp only
  split <;> rfl

theorem get?_slots_discard (other : String) :
    (c.discard service client).2.slots.get? other =
      if client = other then none else c.slots.get? other := by
  rw [discard_snd]
  exact Table.get?_erase ..

theorem slotOf_discard (other : String) :
    (c.discard service client).2.slotOf other =
      if client = other then .empty else c.slotOf other := by
  rw [discard_snd, slotOf_erase]

end ContentBlocker.Compiler
