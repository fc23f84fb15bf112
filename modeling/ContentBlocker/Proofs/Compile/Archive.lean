import ContentBlocker.Compile.Archive

/-!
# The archive as a map

The archive is a map from identifiers to lists: `service_compile_ok` and `lookup_remove` say how its
operations change what it answers.  Different clients have different identifiers.
-/

namespace ContentBlocker

theorem listIdentifier_inj {a b : String} : listIdentifier a = listIdentifier b ↔ a = b := by
  constructor
  · intro same
    have chars : "extension-".toList ++ a.toList ++ "-rules".toList =
        "extension-".toList ++ b.toList ++ "-rules".toList := by
      have append := congrArg String.toList same
      simp only [listIdentifier, String.toList_append] at append
      exact append
    exact String.toList_inj.1 (List.append_cancel_left (List.append_cancel_right chars))
  · exact congrArg listIdentifier

theorem isAllBlank_listIdentifier (client : String) :
    Text.isAllBlank (listIdentifier client) = false := by
  have letter : (listIdentifier client).toList =
      'e' :: ("xtension-".toList ++ client.toList ++ "-rules".toList) := by
    simp only [listIdentifier, String.toList_append]
    rfl
  unfold Text.ofString
  rw [letter]
  rfl

namespace Archive

/-! ## Looking up -/

theorem lookup_cons (a : Artifact) (lists : List Artifact) (identifier : String) :
    lookup ⟨a :: lists⟩ identifier =
      if a.identifier = identifier then some a else lookup ⟨lists⟩ identifier := by
  simp only [lookup, List.find?_cons]
  split <;> simp_all

theorem lookup_insert (lists : List Artifact) (a : Artifact) (identifier : String) :
    lookup ⟨insert lists a⟩ identifier =
      if a.identifier = identifier then some a else lookup ⟨lists⟩ identifier := by
  induction lists with
  | nil => exact lookup_cons a [] identifier
  | cons b rest ih =>
    unfold insert
    split
    · rename_i same
      rw [lookup_cons, lookup_cons, same]
      split <;> rfl
    · rename_i other
      split
      · exact lookup_cons a (b :: rest) identifier
      · rw [lookup_cons, lookup_cons, ih]
        split
        · rename_i here
          rw [if_neg fun same => other (here.trans same.symm)]
        · rfl

theorem lookup_filter (lists : List Artifact) (removed identifier : String) :
    lookup ⟨lists.filter (·.identifier ≠ removed)⟩ identifier =
      if removed = identifier then none else lookup ⟨lists⟩ identifier := by
  induction lists with
  | nil => simp [lookup]
  | cons b rest ih =>
    rw [List.filter_cons]
    split
    · rename_i kept
      have kept : b.identifier ≠ removed := by simpa using kept
      rw [lookup_cons, lookup_cons, ih]
      split
      · rename_i here
        rw [if_neg fun same => kept (here.trans same.symm)]
      · rfl
    · rename_i dropped
      have dropped : b.identifier = removed := by simpa using dropped
      rw [ih, lookup_cons, dropped]
      split <;> rfl

theorem mem_identifiers {archive : Archive} {identifier : String} :
    identifier ∈ archive.identifiers ↔ (archive.lookup identifier).isSome := by
  simp [identifiers, lookup]

/-! ## The service -/

variable {identifier document : String} {archive : Archive}

theorem service_compile (identifier document : String) (archive : Archive) :
    service.compile identifier document archive =
      if Text.isAllBlank identifier then (.error ArchiveFault.blankIdentifier.report, archive)
      else
        match RuleList.validate document with
        | .error finding => (.error (ArchiveFault.ofFinding finding).report, archive)
        | .ok count =>
          let a : Artifact := ⟨identifier, Digest.sha256 document, count, document⟩
          (.ok a, ⟨insert archive.lists a⟩) := by
  by_cases blank : Text.isAllBlank identifier
  · simp only [service, compile, if_pos blank]
  · cases valid : RuleList.validate document <;>
      simp only [service, compile, if_neg blank, valid]

/-- What an accepted document was found to be, and what it changes. -/
theorem service_compile_ok {a : Artifact}
    (ok : (service.compile identifier document archive).1 = .ok a) :
    RuleList.validate document = .ok a.ruleCount ∧ a.identifier = identifier ∧
      a.encoded = document ∧
      (service.compile identifier document archive).2 = ⟨insert archive.lists a⟩ := by
  rw [service_compile] at ok ⊢
  split at ok
  · cases ok
  · rename_i filled
    rw [if_neg filled]
    cases valid : RuleList.validate document with
    | error finding => simp [valid] at ok
    | ok count =>
      simp only [valid, Except.ok.injEq] at ok
      subst ok
      exact ⟨rfl, rfl, rfl, rfl⟩

/-- A document is rejected whatever is stored, and then nothing changes. -/
theorem service_compile_error {r : Report}
    (error : (service.compile identifier document archive).1 = .error r) :
    (service.compile identifier document archive).2 = archive ∧
      ∀ other, (service.compile identifier document other).1 = .error r := by
  simp only [service_compile] at error ⊢
  split at error
  · rename_i blank
    simp only [if_pos blank]
    exact ⟨trivial, fun _ => error⟩
  · rename_i filled
    simp only [if_neg filled]
    cases valid : RuleList.validate document with
    | error finding =>
      simp only [valid] at error
      exact ⟨rfl, fun _ => error⟩
    | ok count => simp [valid] at error

/-- A compilation leaves the lists of other identifiers. -/
theorem lookup_compile_of_ne {other : String} (ne : identifier ≠ other) :
    (service.compile identifier document archive).2.lookup other = archive.lookup other := by
  cases answered : (service.compile identifier document archive).1 with
  | ok a =>
    obtain ⟨-, named, -, after⟩ := service_compile_ok answered
    rw [after, lookup_insert, named, if_neg ne]
  | error report => rw [(service_compile_error answered).1]

theorem lookup_remove (archive : Archive) (removed identifier : String) :
    (service.remove removed archive).2.lookup identifier =
      if removed = identifier then none else archive.lookup identifier := by
  by_cases stored : (archive.lookup removed).isSome
  · simp only [service, remove, if_pos stored]
    exact lookup_filter archive.lists removed identifier
  · simp only [service, remove, if_neg stored]
    by_cases same : removed = identifier
    · rw [if_pos same, ← same]
      simpa using stored
    · rw [if_neg same]

end Archive

end ContentBlocker
