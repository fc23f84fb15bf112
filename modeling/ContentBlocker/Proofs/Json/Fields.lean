import ContentBlocker.Proofs.Json.ReadBack
import ContentBlocker.Proofs.Table
import Mathlib.Data.List.Nodup

/-!
# Fields of documents

An object whose keys are strings, each there once, is read back with the same answer for every key,
reread: `get?_reread`.
-/

namespace ContentBlocker.Json

/-- Each key is there once, and none has surrogates that stand together. -/
structure Plain {α : Type} (fields : Table Text α) : Prop where
  nodup : fields.keys.Nodup
  keys : ∀ f ∈ fields, f.1.rejoined = f.1

section

variable {α : Type}

/-- Different strings are keys of their own. -/
theorem plain_of_strings {fields : Table Text α} (keys : List String)
    (named : fields.keys = keys.map Text.ofString) (nodup : keys.Nodup) : Plain fields := by
  refine ⟨?_, fun f mem => ?_⟩
  · rw [named]
    exact List.Nodup.map (fun _ _ => Text.ofString_inj.1) nodup
  · have key : f.1 ∈ keys.map Text.ofString := named ▸ List.mem_map_of_mem mem
    obtain ⟨s, -, same⟩ := List.mem_map.1 key
    rw [← same, Text.rejoined_ofString]

theorem Plain.present {pairs : Table Text (Option α)} (plain : Plain pairs) :
    Plain (Table.present pairs) := by
  refine ⟨Table.nodup_keys_present plain.nodup, fun f mem => ?_⟩
  obtain ⟨p, here, found⟩ := List.mem_filterMap.1 mem
  obtain ⟨v, -, rfl⟩ := Option.map_eq_some_iff.1 found
  exact plain.keys p here

end

theorem get?_setAll {found : Fields} (plain : Plain found) (done : Fields) (key : Text) :
    (setAll done found).get? key = (found.get? key).or (done.get? key) := by
  induction found generalizing done with
  | nil => rfl
  | cons f rest ih =>
    obtain ⟨k, v⟩ := f
    obtain ⟨new, nodup⟩ := List.nodup_cons.1 plain.nodup
    obtain ⟨kept, keys⟩ := List.forall_mem_cons.1 plain.keys
    have later := ih ⟨nodup, keys⟩ (done.set k v)
    have first : setAll done ((k, v) :: rest) = setAll (done.set k v) rest := by
      change setAll (done.set k.rejoined v) rest = _
      rw [show k.rejoined = k from kept]
    rw [first, later, Table.get?_set, Table.get?_cons]
    split
    · rename_i here
      rw [← here, Table.get?_eq_none new]
      rfl
    · rfl

theorem plain_reread {fields : Fields} (plain : Plain fields) :
    Plain (sortFields (rereadFields fields)) := by
  have perm : (sortFields (rereadFields fields)).Perm (rereadFields fields) :=
    List.mergeSort_perm ..
  have keys : (rereadFields fields).map (·.1) = fields.keys := by
    rw [rereadFields_eq_map, List.map_map]
    rfl
  have sorted : (Table.keys (sortFields (rereadFields fields))).Perm fields.keys := by
    rw [← keys]
    exact perm.map _
  refine ⟨sorted.nodup_iff.2 plain.nodup, fun f mem => ?_⟩
  rw [perm.mem_iff, rereadFields_eq_map] at mem
  obtain ⟨g, here, rfl⟩ := List.mem_map.1 mem
  exact plain.keys g here

/-- What is read back for an object answers as the object does, reread. -/
theorem get?_reread {fields : Fields} (plain : Plain fields) :
    ∃ read : Fields, (obj fields).reread = obj read ∧
      ∀ key, read.get? key = (fields.get? key).map reread := by
  refine ⟨_, rfl, fun key => ?_⟩
  have perm : (sortFields (rereadFields fields)).Perm (rereadFields fields) :=
    List.mergeSort_perm ..
  have sorted := plain_reread plain
  rw [get?_setAll sorted, Table.get?_perm perm sorted.nodup, rereadFields_eq_map, Table.get?_map,
    Table.get?_nil, Option.or_none]

end ContentBlocker.Json
