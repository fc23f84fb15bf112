import ContentBlocker.Proofs.RuleList.Dialect

/-!
# Validation

A document is accepted just if it is an array of at most 150000 entries of the dialect, and the entry
that is told to be at fault is the first one that is none: `accepts_the_dialect`.  Not every other
document is rejected: `validation_fails_inside_iff` says in which a defect is met.
-/

namespace ContentBlocker.RuleList

variable {document : String} {entries : List Json}

/-! ## Documents -/

theorem checkEntries_cons_eq (index : Nat) (entry : Json) (rest : List Json) :
    checkEntries index (entry :: rest) =
      (checkEntry entry).mapError (·.inEntry index) >>= fun _ => checkEntries (index + 1) rest := by
  rw [checkEntries_cons]
  cases checkEntry entry <;> rfl

theorem Tells.inEntry {check : Check Unit} {fine : Prop} {meets : Defect → Prop}
    (h : Tells check fine meets) (index : Nat) :
    Tells (check.mapError (·.inEntry index)) fine meets := by
  refine ⟨?_, fun d => ?_⟩
  · rw [← h.passes]
    cases check <;> simp [Except.mapError]
  · rw [← h.stumbles]
    cases check with
    | ok => simp [Except.mapError]
    | error found => cases found <;> simp [Except.mapError, Finding.inEntry]

theorem tells_checkEntries (index : Nat) (entries : List Json) :
    Tells (checkEntries index entries) (∀ v ∈ entries, IsEntry v) fun d =>
      Until IsEntry (EntryMeets d) entries := by
  induction entries generalizing index with
  | nil => exact tells_ok.congr (by simp) fun d => iff_of_false id nofun
  | cons v rest ih =>
    rw [checkEntries_cons_eq]
    exact (((tells_checkEntry v).inEntry index).bind (ih (index + 1))).congr
      List.forall_mem_cons.symm fun d => until_cons.symm

/-- A document is rejected as a whole, or it is an array whose entries are checked. -/
theorem validate_cases (document : String) :
    ((∀ entries, Json.read document = .ok (.arr entries) → 150000 < entries.length) ∧
      ∃ rejection, (∀ index fault, rejection ≠ .entry index fault) ∧
        validate document = .error (.fault rejection)) ∨
    ∃ entries, Json.read document = .ok (.arr entries) ∧ entries.length ≤ 150000 ∧
      validate document = (checkEntries 0 entries).map fun _ => entries.length := by
  unfold validate
  cases Json.read document with
  | error reason => exact .inl ⟨nofun, _, by simp, rfl⟩
  | ok v =>
    cases v with
    | arr entries =>
      by_cases many : 150000 < entries.length
      · refine .inl ⟨?_, _, by simp, if_pos many⟩
        rintro _ ⟨⟩
        exact many
      · exact .inr ⟨entries, rfl, Nat.le_of_not_lt many, if_neg many⟩
    | null | bool | int | float | str | obj => exact .inl ⟨nofun, _, by simp, rfl⟩

/-! ## Defects -/

theorem validate_defect_iff (d : Defect) :
    validate document = .error (.defect d) ↔
      ∃ entries, Json.read document = .ok (.arr entries) ∧ entries.length ≤ 150000 ∧
        Until IsEntry (EntryMeets d) entries := by
  constructor
  · intro failed
    rcases validate_cases document with ⟨-, rejection, -, rejected⟩ | ⟨entries, read, few, checked⟩
    · cases failed.symm.trans rejected
    · refine ⟨entries, read, few, ((tells_checkEntries 0 entries).stumbles d).1 ?_⟩
      rw [checked] at failed
      cases found : checkEntries 0 entries with
      | ok => simp [found, Except.map] at failed
      | error finding => simpa [found, Except.map] using failed
  · rintro ⟨entries, read, few, meets⟩
    rw [validate_of_read read few, ((tells_checkEntries 0 entries).stumbles d).2 meets]
    rfl

/-- A document is counted or rejected unless it is an array, of at most 150000 values, in which the
first one that is no entry meets a defect: a pattern that is refused for no fault of its grammar, or
an array or an object where a word is due.  The defect is then that of this value. -/
theorem validation_fails_inside_iff (document : String) :
    (((∃ count, validate document = .ok count) ∨
        ∃ rejection, validate document = .error (.fault rejection)) ↔
      ¬ ∃ entries, Json.read document = .ok (.arr entries) ∧ entries.length ≤ 150000 ∧
        Until IsEntry (fun v => ∃ d, EntryMeets d v) entries) ∧
      ∀ d, validate document = .error (.defect d) ↔
        ∃ entries, Json.read document = .ok (.arr entries) ∧ entries.length ≤ 150000 ∧
          Until IsEntry (EntryMeets d) entries := by
  have inside : (∃ d, validate document = .error (.defect d)) ↔
      ∃ entries, Json.read document = .ok (.arr entries) ∧ entries.length ≤ 150000 ∧
        Until IsEntry (fun v => ∃ d, EntryMeets d v) entries := by
    simp only [validate_defect_iff, ← exists_until]
    constructor
    · rintro ⟨d, entries, read, few, meets⟩
      exact ⟨entries, read, few, d, meets⟩
    · rintro ⟨entries, read, few, d, meets⟩
      exact ⟨d, entries, read, few, meets⟩
  refine ⟨?_, fun d => validate_defect_iff d⟩
  rw [← inside]
  cases validate document with
  | ok count => simp
  | error finding => cases finding <;> simp

/-- An array among the kinds of loads is not told to be at fault. -/
theorem array_among_words_fails_inside :
    let document := "[\x7b\"trigger\": \x7b\"url-filter\": \".*\", \"resource-type\": [[]]\x7d, " ++
      "\"action\": \x7b\"type\": \"block\"\x7d\x7d]"
    validate document = .error (.defect (.unhashable "list")) ∧
      ¬ ((∃ count, validate document = .ok count) ∨
        ∃ rejection, validate document = .error (.fault rejection)) := by
  intro document
  have failed : validate document = .error (.defect (.unhashable "list")) := by decide +kernel
  refine ⟨failed, ?_⟩
  rw [failed]
  simp

/-! ## Acceptance -/

theorem validate_ok_iff {count : Nat} :
    validate document = .ok count ↔
      ∃ entries, Json.read document = .ok (.arr entries) ∧ entries.length = count ∧
        count ≤ 150000 ∧ ∀ v ∈ entries, IsEntry v := by
  constructor
  · intro valid
    rcases validate_cases document with ⟨-, rejection, -, rejected⟩ | ⟨entries, read, few, checked⟩
    · cases valid.symm.trans rejected
    · obtain ⟨done, passed, rfl⟩ := map_eq_ok.1 (checked.symm.trans valid)
      exact ⟨entries, read, rfl, few, (tells_checkEntries 0 entries).passes.1 passed⟩
  · rintro ⟨entries, read, rfl, few, all⟩
    rw [validate_of_read read few, (tells_checkEntries 0 entries).passes.2 all]
    rfl

/-- A fault in an array that is short enough is one of the first value that is no entry. -/
theorem validate_fault (read : Json.read document = .ok (.arr entries))
    (few : entries.length ≤ 150000) {rejection : Rejection}
    (rejected : validate document = .error (.fault rejection)) :
    ∃ index fault v, rejection = .entry index fault ∧ entries[index]? = some v ∧ ¬ IsEntry v ∧
      ∀ w ∈ entries.take index, IsEntry w := by
  rw [validate_of_read read few] at rejected
  cases checked : checkEntries 0 entries with
  | ok =>
    rw [checked] at rejected
    cases rejected
  | error finding =>
    rw [checked] at rejected
    cases rejected
    obtain ⟨index, v, found, here, failed, before, same⟩ := checkEntries_error checked
    cases found with
    | defect d => cases same
    | fault fault =>
      cases same
      refine ⟨index, fault, v, by rw [Nat.zero_add], here, fun entry => ?_, fun w mem => ?_⟩
      · cases failed.symm.trans ((tells_checkEntry v).passes.2 entry)
      · exact (tells_checkEntry w).passes.1 (before w mem)

/-- A document is accepted, with a count, just if it is an array of so many entries of the dialect,
150000 at most.  Where one is at fault in an array that is no longer than that, the message has the
index of the first value that is no entry. -/
theorem accepts_the_dialect (document : String) :
    (∀ count, validate document = .ok count ↔
      ∃ entries, Json.read document = .ok (.arr entries) ∧ entries.length = count ∧
        count ≤ 150000 ∧ ∀ v ∈ entries, IsEntry v) ∧
      ∀ entries, Json.read document = .ok (.arr entries) → entries.length ≤ 150000 →
        ∀ rejection, validate document = .error (.fault rejection) →
          ∃ index fault v, rejection.message = s!"Rule list entry {index}: {fault.message}" ∧
            rejection = .entry index fault ∧ entries[index]? = some v ∧ ¬ IsEntry v ∧
              ∀ w ∈ entries.take index, IsEntry w := by
  refine ⟨fun count => validate_ok_iff, fun entries read few rejection rejected => ?_⟩
  obtain ⟨index, fault, v, rfl, first⟩ := validate_fault read few rejected
  exact ⟨index, fault, v, rfl, rfl, first⟩

/-- Of two values that are no entries the first one is told, behind an entry without a fault. -/
theorem first_fault_is_told :
    let document := "[\x7b\"trigger\": \x7b\"url-filter\": \"^a\", \"load-type\": null\x7d, " ++
      "\"action\": \x7b\"type\": \"css-display-none\", \"selector\": \"\"\x7d\x7d, 5, \x7b\x7d]"
    validate document = .error (.fault (.entry 1 .notObject)) ∧
      ∃ entries v, Json.read document = .ok (.arr entries) ∧ entries.length ≤ 150000 ∧
        entries[1]? = some v ∧ ¬ IsEntry v ∧ ∀ w ∈ entries.take 1, IsEntry w := by
  intro document
  have rejected : validate document = .error (.fault (.entry 1 .notObject)) := by decide +kernel
  rcases validate_cases document with ⟨-, rejection, whole, other⟩ | ⟨entries, read, few, -⟩
  · cases rejected.symm.trans other
    exact absurd rfl (whole 1 .notObject)
  · obtain ⟨index, fault, v, -, same, first⟩ :=
      (accepts_the_dialect document).2 entries read few _ rejected
    cases same
    exact ⟨rejected, entries, v, read, few, first⟩

end ContentBlocker.RuleList
