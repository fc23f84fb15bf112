import ContentBlocker.Offline.Folder
import ContentBlocker.Proofs.Computations

/-!
# Writing files

A file that is written under a path is read back under it (`read_put`), unless it is the file of the
system that keeps nothing.  What other paths lead to stays as it was (`LeadsTo.read_put_of_ne`).
-/

namespace ContentBlocker.Offline.Folder

variable {f g : Folder} {p q : Place} {bytes : List UInt8} {path name : String}

/-! ## Putting bytes -/

theorem lookup_cons_place (r : Place) (old : List UInt8) (files : List (Place × List UInt8))
    (q : Place) :
    ((r, old) :: files).lookup q = if r = q then some old else files.lookup q := by
  rw [List.lookup_cons]
  by_cases here : r = q
  · rw [if_pos here, here, beq_self_eq_true]
  · rw [if_neg here, beq_eq_false_iff_ne.2 (Ne.symm here)]

theorem lookup_replaced (files : List (Place × List UInt8)) (p q : Place) (bytes : List UInt8) :
    (files.map fun (r, old) => (r, if r = p then bytes else old)).lookup q =
      if p = q then (files.lookup q).map fun _ => bytes else files.lookup q := by
  induction files with
  | nil =>
    split <;> rfl
  | cons file rest ih =>
    obtain ⟨r, old⟩ := file
    rw [List.map_cons, lookup_cons_place, lookup_cons_place, ih]
    by_cases here : r = q
    · rw [if_pos here, if_pos here, here]
      by_cases same : q = p
      · rw [if_pos same, if_pos same.symm]
        rfl
      · rw [if_neg same, if_neg (Ne.symm same)]
    · rw [if_neg here, if_neg here]

theorem file?_of_keeps (keeps : p ≠ nullDevice) : f.file? p = f.files.lookup p := if_neg keeps

/-- A file has the bytes that were put last, and no other file is touched. -/
theorem file?_put (keeps : p ≠ nullDevice) (q : Place) :
    (f.put p bytes).file? q = if p = q then some bytes else f.file? q := by
  unfold put
  rw [if_neg keeps, file?_of_keeps keeps]
  by_cases null : q = nullDevice
  · have other : p ≠ q := fun same => keeps (same.trans null)
    rw [if_neg other]
    split <;> rw [file?, if_pos null, file?, if_pos null]
  · rw [file?_of_keeps null]
    split
    · rename_i there
      rw [file?_of_keeps null, lookup_replaced]
      by_cases same : p = q
      · obtain ⟨old, there⟩ := Option.isSome_iff_exists.1 there
        rw [if_pos same, if_pos same, ← same, there]
        rfl
      · rw [if_neg same, if_neg same]
    · rename_i new
      rw [file?_of_keeps null, List.lookup_append, lookup_cons_place]
      by_cases same : p = q
      · rw [if_pos same, if_pos same, ← same, Option.not_isSome_iff_eq_none.1 new]
        rfl
      · rw [if_neg same, if_neg same]
        exact Option.or_none

theorem isFolder_put (q : Place) : (f.put p bytes).isFolder q = f.isFolder q := by
  unfold put
  split
  · rfl
  · split <;> rfl

/-! ## Paths -/

/-- What a path leads through is not changed by the bytes of files. -/
theorem enter_put {r : Place} (entered : f.enter q name = .ok r) :
    (f.put p bytes).enter q name = .ok r := by
  unfold enter at entered ⊢
  rw [isFolder_put]
  repeat' split at entered
  all_goals simp_all

theorem foldlM_enter_put {names : List String} {q r : Place}
    (entered : names.foldlM f.enter q = .ok r) :
    names.foldlM (f.put p bytes).enter q = .ok r := by
  induction names generalizing q with
  | nil => exact entered
  | cons name names ih =>
    rw [List.foldlM_cons] at entered ⊢
    obtain ⟨next, here, later⟩ := bind_eq_ok.1 entered
    exact bind_eq_ok.2 ⟨next, enter_put here, ih later⟩

/-- What is found is a file at a place, or nothing where a file can be. -/
def Found.IsAt (p : Place) : Found → Prop
  | folder => False
  | file q _ | nothing q => q = p

/-- What is found where a file was put. -/
def Found.after (p : Place) (bytes : List UInt8) : Found → Found
  | folder => folder
  | file q old => file q (if p = q then bytes else old)
  | nothing q => if p = q then file q bytes else nothing q

theorem Found.IsAt.after_self {found : Found} (isAt : found.IsAt p) :
    found.after p bytes = .file p bytes := by
  cases found with
  | folder => cases isAt
  | file | nothing =>
    cases isAt
    simp [after]

theorem Found.IsAt.after_of_ne {found : Found} (isAt : found.IsAt q) (other : p ≠ q) :
    found.after p bytes = found := by
  cases found with
  | folder => rfl
  | file | nothing =>
    cases isAt
    simp [after, other]

theorem Found.IsAt.after {found : Found} (isAt : found.IsAt q) : (found.after p bytes).IsAt q := by
  by_cases same : p = q
  · subst same
    rw [isAt.after_self]
    rfl
  · rwa [isAt.after_of_ne same]

theorem look_put (keeps : p ≠ nullDevice) {found : Found} (looked : f.look q name = .ok found) :
    (f.put p bytes).look q name = .ok (found.after p bytes) := by
  unfold look at looked ⊢
  rw [isFolder_put]
  split at looked
  · rename_i dots
    cases looked
    rw [if_pos dots]
    rfl
  · rename_i noDots
    rw [if_neg noDots]
    split at looked
    · cases looked
    · rename_i short
      rw [if_neg short]
      split at looked
      · rename_i isFolder
        cases looked
        rw [if_pos isFolder]
        rfl
      · rename_i noFolder
        rw [if_neg noFolder, file?_put keeps]
        cases there : f.file? (q ++ [name]) <;>
        · rw [there] at looked
          cases looked
          by_cases here : p = q ++ [name] <;> simp [Found.after, here]

/-- A path leads to what it led to, with the bytes that were put there. -/
theorem find_put (keeps : p ≠ nullDevice) {found : Found} (reached : f.find path = .ok found) :
    (f.put p bytes).find path = .ok (found.after p bytes) := by
  unfold find at reached ⊢
  dsimp only at reached ⊢
  split at reached
  · cases reached
  · rename_i noNull
    rw [if_neg noNull]
    split at reached
    · cases reached
    · rename_i some
      rw [if_neg some]
      split at reached
      · cases reached
      · rename_i short
        rw [if_neg short]
        cases last : (names path).getLast? with
        | none =>
          rw [last] at reached
          cases reached
          rfl
        | some name =>
          rw [last] at reached
          obtain ⟨q, entered, looked⟩ := bind_eq_ok.1 reached
          exact bind_eq_ok.2 ⟨q, foldlM_enter_put entered, look_put keeps looked⟩

/-! ## Files -/

/-- Under a path a file can be written at a place, once the folders in front of it are made. -/
def Takes (f : Folder) (path : String) (p : Place) : Prop :=
  ∃ made found, f.ensureFoldersOf path = .ok made ∧ made.find path = .ok found ∧ found.IsAt p ∧
    endsWithSlash path = false

theorem write_of_find {found : Found} (reached : f.find path = .ok found) (isAt : found.IsAt p)
    (slashless : endsWithSlash path = false) (bytes : List UInt8) :
    f.write path bytes = .ok (f.put p bytes) := by
  have cause : f.writeCause path bytes = .ok (f.put p bytes) := by
    refine bind_eq_ok.2 ⟨found, reached, ?_⟩
    cases found with
    | folder => cases isAt
    | file | nothing =>
      cases isAt
      simp [slashless]
  rw [write, cause]
  rfl

/-- What can be written is at a place. -/
theorem find_of_write (written : f.write path bytes = .ok g) :
    ∃ p found, f.find path = .ok found ∧ found.IsAt p ∧ endsWithSlash path = false := by
  have cause : f.writeCause path bytes = .ok g := by
    unfold write at written
    cases cause : f.writeCause path bytes with
    | ok =>
      rw [cause] at written
      exact congrArg Except.ok (Except.ok.inj written)
    | error => simp [cause, Except.mapError] at written
  obtain ⟨found, reached, ended⟩ := bind_eq_ok.1 cause
  cases found with
  | folder => cases ended
  | file p | nothing p =>
    refine ⟨p, _, reached, rfl, ?_⟩
    dsimp only at ended
    split at ended
    · cases ended
    · rename_i slashless
      exact Bool.eq_false_iff.2 slashless

/-- A file that was written under a path is read under it. -/
theorem read_put (keeps : p ≠ nullDevice) {found : Found} (reached : f.find path = .ok found)
    (isAt : found.IsAt p) (slashless : endsWithSlash path = false) :
    (f.put p bytes).read path = .ok bytes := by
  have again : (f.put p bytes).find path = _ := find_put keeps reached
  rw [isAt.after_self] at again
  have cause : (f.put p bytes).readCause path = .ok bytes := by
    refine bind_eq_ok.2 ⟨.file p bytes, again, ?_⟩
    simp [slashless]
  rw [read, cause]
  rfl

/-- A path leads to a place where a file is or can be. -/
def LeadsTo (f : Folder) (path : String) (p : Place) : Prop :=
  ∃ found, f.find path = .ok found ∧ found.IsAt p

theorem LeadsTo.put (leads : f.LeadsTo path q) (p : Place) (bytes : List UInt8) :
    (f.put p bytes).LeadsTo path q := by
  obtain ⟨found, reached, isAt⟩ := leads
  by_cases null : p = nullDevice
  · rw [Folder.put, if_pos null]
    exact ⟨found, reached, isAt⟩
  · exact ⟨_, find_put null reached, isAt.after⟩

theorem LeadsTo.unique (leads : f.LeadsTo path p) (also : f.LeadsTo path q) : p = q := by
  obtain ⟨found, reached, isAt⟩ := leads
  obtain ⟨found', reached', isAt'⟩ := also
  obtain rfl : found = found' := Except.ok.inj (reached.symm.trans reached')
  cases found with
  | folder => cases isAt
  | file | nothing => exact isAt.symm.trans isAt'

/-- What is read under a path is not changed by bytes that are put at another place. -/
theorem LeadsTo.read_put_of_ne (leads : f.LeadsTo path q) (other : p ≠ q) :
    (f.put p bytes).read path = f.read path := by
  obtain ⟨found, reached, isAt⟩ := leads
  by_cases null : p = nullDevice
  · rw [Folder.put, if_pos null]
  · have again : (f.put p bytes).find path = _ := find_put null reached
    rw [isAt.after_of_ne other] at again
    unfold read readCause
    rw [again, reached]

theorem LeadsTo.write (leads : f.LeadsTo path p) (slashless : endsWithSlash path = false)
    (bytes : List UInt8) : f.write path bytes = .ok (f.put p bytes) := by
  obtain ⟨found, reached, isAt⟩ := leads
  exact write_of_find reached isAt slashless bytes

/-- Bytes that were written are put where the path leads. -/
theorem exists_put_of_write (written : f.write path bytes = .ok g) :
    ∃ p, g = f.put p bytes ∧ f.LeadsTo path p ∧ (p ≠ nullDevice → g.read path = .ok bytes) := by
  obtain ⟨p, found, reached, isAt, slashless⟩ := find_of_write written
  have put := write_of_find reached isAt slashless bytes
  rw [written] at put
  obtain rfl : g = f.put p bytes := Except.ok.inj put
  exact ⟨p, rfl, ⟨found, reached, isAt⟩, fun keeps => read_put keeps reached isAt slashless⟩

theorem Takes.written (takes : f.Takes path p) :
    ∃ made, f.ensureFoldersOf path = .ok made ∧ ∀ bytes,
      made.write path bytes = .ok (made.put p bytes) ∧
        (p ≠ nullDevice → (made.put p bytes).read path = .ok bytes) := by
  obtain ⟨made, found, ensured, reached, isAt, slashless⟩ := takes
  exact ⟨made, ensured, fun bytes => ⟨write_of_find reached isAt slashless bytes,
    fun keeps => read_put keeps reached isAt slashless⟩⟩

end ContentBlocker.Offline.Folder
