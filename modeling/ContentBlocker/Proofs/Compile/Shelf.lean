import Mathlib.Algebra.BigOperators.Group.Finset.Basic
import Mathlib.Data.Finmap
import Mathlib.Data.Finset.Sort
import Mathlib.Data.String.Basic
import ContentBlocker.Proofs.Compile.Archive

/-!
# The archive as a shelf of documents

A shelf is a finite map from identifiers to documents.  `answers_of_shelf` says that an archive that
starts empty answers every sequence of calls as a shelf does, and that it finds the list that the
last compilation of an identifier returned.
-/

namespace ContentBlocker.Archive

/-! ## Calls -/

/-- What can be asked of an archive. -/
inductive Call where
  | compile (identifier document : String)
  | remove (identifier : String)
  | lookup (identifier : String)
  | identifiers
  | stats
deriving DecidableEq, Repr

inductive Answer where
  | compiled (outcome : Except ArchiveFault Artifact)
  | removed (outcome : Except ArchiveFault Unit)
  | found (list : Option Artifact)
  | identifiers (identifiers : List String)
  /-- the number of lists and the number of entries of all of them -/
  | stats (lists rules : Nat)

/-- The answer to a call, and the archive after it. -/
def answer (archive : Archive) : Call → Answer × Archive
  | .compile identifier document =>
    match archive.compile identifier document with
    | .ok (a, archive) => (.compiled (.ok a), archive)
    | .error fault => (.compiled (.error fault), archive)
  | .remove identifier =>
    match archive.remove identifier with
    | .ok archive => (.removed (.ok ()), archive)
    | .error fault => (.removed (.error fault), archive)
  | .lookup identifier => (.found (archive.lookup identifier), archive)
  | .identifiers => (.identifiers archive.identifiers, archive)
  | .stats => (.stats archive.lists.length archive.countRules, archive)

/-- The calls with their answers, one after the other, and the state after the last. -/
def run {σ : Type} (answer : σ → Call → Answer × σ) (s : σ) : List Call → List (Call × Answer) × σ
  | [] => ([], s)
  | call :: calls =>
    let (given, after) := answer s call
    let (log, last) := run answer after calls
    ((call, given) :: log, last)

/-- The list of an identifier behind a call. -/
def keep (identifier : String) (found : Option Artifact) : Call × Answer → Option Artifact
  | (.compile name _, .compiled (.ok a)) => if name = identifier then some a else found
  | (.remove name, .removed (.ok ())) => if name = identifier then none else found
  | _ => found

/-- The list that the last compilation of an identifier returned, unless it was removed since. -/
def kept (identifier : String) (log : List (Call × Answer)) : Option Artifact :=
  log.foldl (keep identifier) none

/-! ## Shelves -/

abbrev Shelf := Finmap fun _ : String => String

namespace Shelf

/-- The number of entries of a document that is a rule list. -/
def entryCount (document : String) : Nat := (RuleList.validate document).toOption.getD 0

/-- What there is to tell of a document on a shelf. -/
def listed (identifier document : String) : Artifact :=
  ⟨identifier, Digest.sha256 document, entryCount document, document⟩

/-- The answer to a call, and the shelf after it. -/
def answer (shelf : Shelf) : Call → Answer × Shelf
  | .compile identifier document =>
    if Text.isAllBlank identifier then (.compiled (.error .blankIdentifier), shelf)
    else
      match RuleList.validate document with
      | .error finding => (.compiled (.error (.ofFinding finding)), shelf)
      | .ok count =>
        (.compiled (.ok ⟨identifier, Digest.sha256 document, count, document⟩),
          shelf.insert identifier document)
  | .remove identifier =>
    if identifier ∈ shelf then (.removed (.ok ()), shelf.erase identifier)
    else (.removed (.error (.missing identifier)), shelf)
  | .lookup identifier => (.found ((shelf.lookup identifier).map (listed identifier)), shelf)
  | .identifiers => (.identifiers (shelf.keys.sort (· ≤ ·)), shelf)
  | .stats =>
    (.stats shelf.keys.card (∑ i ∈ shelf.keys, ((shelf.lookup i).map entryCount).getD 0), shelf)

end Shelf

/-! ## What operations do -/

/-- A compilation is refused for its identifier or its document, or it keeps the list. -/
theorem compile_cases (archive : Archive) (i document : String) :
    (Text.isAllBlank i ∧ archive.compile i document = .error .blankIdentifier) ∨
      (¬ Text.isAllBlank i ∧ ∃ finding, RuleList.validate document = .error finding ∧
        archive.compile i document = .error (.ofFinding finding)) ∨
      ¬ Text.isAllBlank i ∧ ∃ count, RuleList.validate document = .ok count ∧
        archive.compile i document =
          .ok (⟨i, Digest.sha256 document, count, document⟩,
            ⟨insert archive.lists ⟨i, Digest.sha256 document, count, document⟩⟩) := by
  unfold compile
  by_cases blank : Text.isAllBlank i
  · exact .inl ⟨blank, if_pos blank⟩
  · rw [if_neg blank]
    cases valid : RuleList.validate document with
    | error finding => exact .inr (.inl ⟨blank, finding, rfl, rfl⟩)
    | ok count => exact .inr (.inr ⟨blank, count, rfl, rfl⟩)

theorem remove_cases (archive : Archive) (i : String) :
    (i ∈ archive.identifiers ∧
        archive.remove i = .ok ⟨archive.lists.filter (·.identifier ≠ i)⟩) ∨
      i ∉ archive.identifiers ∧ archive.remove i = .error (.missing i) := by
  unfold remove
  by_cases stored : (archive.lookup i).isSome
  · exact .inl ⟨mem_identifiers.2 stored, if_pos stored⟩
  · exact .inr ⟨fun mem => stored (mem_identifiers.1 mem), if_neg stored⟩

theorem lookup_of_mem {archive : Archive} (nodup : archive.identifiers.Nodup) {a : Artifact}
    (mem : a ∈ archive.lists) : archive.lookup a.identifier = some a := by
  obtain ⟨lists⟩ := archive
  induction lists with
  | nil => cases mem
  | cons b rest ih =>
    obtain ⟨new, nodup⟩ := List.nodup_cons.1 nodup
    rw [lookup_cons]
    rcases List.mem_cons.1 mem with rfl | mem
    · exact if_pos rfl
    · rw [if_neg fun same => new (List.mem_map.2 ⟨a, mem, same.symm⟩)]
      exact ih nodup mem

/-! ## Archives in order -/

theorem mem_identifiers_insert {lists : List Artifact} {a : Artifact} {identifier : String} :
    identifier ∈ identifiers ⟨insert lists a⟩ ↔
      a.identifier = identifier ∨ identifier ∈ identifiers ⟨lists⟩ := by
  rw [mem_identifiers, mem_identifiers, lookup_insert]
  split <;> simp [*]

/-- Lists stay sorted by identifier. -/
theorem sorted_insert {lists : List Artifact} (a : Artifact)
    (sorted : (identifiers ⟨lists⟩).Pairwise (· < ·)) :
    (identifiers ⟨insert lists a⟩).Pairwise (· < ·) := by
  induction lists with
  | nil => exact List.pairwise_singleton ..
  | cons b rest ih =>
    obtain ⟨least, later⟩ := List.pairwise_cons.1 sorted
    unfold insert
    split
    · rename_i same
      exact List.pairwise_cons.2 ⟨fun i mem => lt_of_eq_of_lt same.symm (least i mem), later⟩
    · rename_i other
      split
      · rename_i before
        refine List.pairwise_cons.2 ⟨List.forall_mem_cons.2 ⟨before, fun i mem => ?_⟩, sorted⟩
        exact before.trans (least i mem)
      · rename_i behind
        refine List.pairwise_cons.2 ⟨fun i mem => ?_, ih later⟩
        rcases mem_identifiers_insert.1 mem with rfl | mem
        · exact lt_of_le_of_ne (not_lt.1 behind) other
        · exact least i mem

/-! ## Archives and shelves -/

/-- An archive that holds the documents of a shelf, in order. -/
structure Holds (archive : Archive) (shelf : Shelf) : Prop where
  lookup : ∀ i, archive.lookup i = (shelf.lookup i).map (Shelf.listed i)
  sorted : archive.identifiers.Pairwise (· < ·)

theorem holds_empty : Holds empty ∅ :=
  ⟨fun _ => rfl, .nil⟩

section Holds

variable {archive : Archive} {shelf : Shelf} (h : Holds archive shelf)
include h

theorem Holds.mem_identifiers_iff {i : String} : i ∈ archive.identifiers ↔ i ∈ shelf := by
  rw [mem_identifiers, h.lookup, Option.isSome_map, Finmap.lookup_isSome]

theorem Holds.toFinset_identifiers : archive.identifiers.toFinset = shelf.keys :=
  Finset.ext fun i => by rw [List.mem_toFinset, h.mem_identifiers_iff, Finmap.mem_keys]

theorem Holds.nodup : archive.identifiers.Nodup :=
  h.sorted.imp fun lt => lt.ne

theorem Holds.identifiers_eq : archive.identifiers = shelf.keys.sort (· ≤ ·) := by
  rw [← h.toFinset_identifiers]
  exact ((List.toFinset_sort (· ≤ ·) h.nodup).2 (h.sorted.imp fun lt => lt.le)).symm

theorem Holds.length_eq : archive.lists.length = shelf.keys.card := by
  rw [← h.toFinset_identifiers, List.toFinset_card_of_nodup h.nodup]
  exact (List.length_map _).symm

/-- Each list has as many entries as its document was found to have. -/
theorem Holds.countRules_eq :
    archive.countRules = ∑ i ∈ shelf.keys, ((shelf.lookup i).map Shelf.entryCount).getD 0 := by
  have counted : ∀ a ∈ archive.lists,
      a.ruleCount = ((shelf.lookup a.identifier).map Shelf.entryCount).getD 0 := by
    intro a mem
    have found := h.lookup a.identifier
    rw [lookup_of_mem h.nodup mem] at found
    obtain ⟨document, here, made⟩ := Option.map_eq_some_iff.1 found.symm
    rw [here]
    exact (congrArg Artifact.ruleCount made).symm
  rw [← h.toFinset_identifiers, List.sum_toFinset _ h.nodup, identifiers, List.map_map]
  exact congrArg List.sum (List.map_congr_left counted)

theorem Holds.insert {i document : String} {count : Nat}
    (valid : RuleList.validate document = .ok count) :
    Holds ⟨insert archive.lists ⟨i, Digest.sha256 document, count, document⟩⟩
      (shelf.insert i document) := by
  refine ⟨fun j => ?_, sorted_insert _ h.sorted⟩
  rw [lookup_insert]
  split
  · rename_i here
    subst here
    rw [Finmap.lookup_insert, Option.map_some, Shelf.listed, Shelf.entryCount, valid]
    rfl
  · rename_i other
    rw [Finmap.lookup_insert_of_ne _ (Ne.symm other)]
    exact h.lookup j

theorem Holds.erase (i : String) :
    Holds ⟨archive.lists.filter (·.identifier ≠ i)⟩ (shelf.erase i) := by
  refine ⟨fun j => ?_, h.sorted.sublist (List.filter_sublist.map _)⟩
  rw [lookup_filter]
  split
  · rename_i here
    rw [here, Finmap.lookup_erase]
    rfl
  · rename_i other
    rw [Finmap.lookup_erase_ne (Ne.symm other)]
    exact h.lookup j

/-- An archive and its shelf answer a call alike, and the archive holds the shelf afterwards. -/
theorem Holds.answer (call : Call) :
    (archive.answer call).1 = (shelf.answer call).1 ∧
      Holds (archive.answer call).2 (shelf.answer call).2 := by
  cases call with
  | compile i document =>
    unfold Archive.answer Shelf.answer
    obtain ⟨blank, done⟩ | ⟨filled, finding, valid, done⟩ | ⟨filled, count, valid, done⟩ :=
      compile_cases archive i document
    · simp only [done, if_pos blank]
      exact ⟨trivial, h⟩
    · simp only [done, if_neg filled, valid]
      exact ⟨trivial, h⟩
    · simp only [done, if_neg filled, valid]
      exact ⟨trivial, h.insert valid⟩
  | remove i =>
    unfold Archive.answer Shelf.answer
    obtain ⟨stored, done⟩ | ⟨missing, done⟩ := remove_cases archive i
    · have here : i ∈ shelf := h.mem_identifiers_iff.1 stored
      simp only [done, if_pos here]
      exact ⟨trivial, h.erase i⟩
    · have absent : i ∉ shelf := fun here => missing (h.mem_identifiers_iff.2 here)
      simp only [done, if_neg absent]
      exact ⟨trivial, h⟩
  | lookup i => exact ⟨congrArg Answer.found (h.lookup i), h⟩
  | identifiers => exact ⟨congrArg Answer.identifiers h.identifiers_eq, h⟩
  | stats => exact ⟨congrArg₂ Answer.stats h.length_eq h.countRules_eq, h⟩

/-- So they do for a sequence of calls. -/
theorem Holds.run (calls : List Call) :
    (run Archive.answer archive calls).1 = (run Shelf.answer shelf calls).1 ∧
      Holds (run Archive.answer archive calls).2 (run Shelf.answer shelf calls).2 := by
  induction calls generalizing archive shelf with
  | nil => exact ⟨rfl, h⟩
  | cons call calls ih =>
    obtain ⟨same, after⟩ := h.answer call
    obtain ⟨log, last⟩ := ih after
    exact ⟨by simp only [Archive.run, same, log], last⟩

end Holds

/-! ## What is kept -/

/-- A call moves what is found as its answer says. -/
theorem lookup_answer (archive : Archive) (call : Call) (i : String) :
    (archive.answer call).2.lookup i =
      keep i (archive.lookup i) (call, (archive.answer call).1) := by
  cases call with
  | compile name document =>
    unfold answer
    obtain ⟨-, done⟩ | ⟨-, finding, -, done⟩ | ⟨-, count, -, done⟩ :=
      compile_cases archive name document
    · simp only [done, keep]
    · simp only [done, keep]
    · simp only [done, keep]
      exact lookup_insert ..
  | remove name =>
    unfold answer
    obtain ⟨-, done⟩ | ⟨-, done⟩ := remove_cases archive name
    · simp only [done, keep]
      exact lookup_filter ..
    · simp only [done, keep]
  | lookup | identifiers | stats => rfl

theorem lookup_run (archive : Archive) (calls : List Call) (i : String) :
    (run answer archive calls).2.lookup i =
      (run answer archive calls).1.foldl (keep i) (archive.lookup i) := by
  induction calls generalizing archive with
  | nil => rfl
  | cons call calls ih =>
    change (run answer (archive.answer call).2 calls).2.lookup i = _
    rw [ih, lookup_answer]
    rfl

/-- An archive that starts empty is a map of documents: it answers every sequence of calls as the
map does, and it finds what the last compilation of an identifier returned, unless that was removed
since. -/
theorem answers_of_shelf (calls : List Call) :
    (run answer empty calls).1 = (run Shelf.answer ∅ calls).1 ∧
      ∀ i, (answer (run answer empty calls).2 (.lookup i)).1 =
        .found (kept i (run answer empty calls).1) :=
  ⟨(holds_empty.run calls).1, fun i => congrArg Answer.found (lookup_run empty calls i)⟩

end ContentBlocker.Archive
