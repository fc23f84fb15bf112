import ContentBlocker.Proofs.Lists
import ContentBlocker.Proofs.Table
import ContentBlocker.Store.Client
import Mathlib.Data.List.Dedup
import Mathlib.Data.List.Induction
import Mathlib.Data.List.Perm.Basic

/-!
# Rulesets by id

Rulesets without repeated ids are a table from ids to rulesets.  `get?_byId_distinct` says that the
last of several rulesets with one id counts, `flags_switch` that switching is setting flags: first
those of the rulesets to switch off, then those of the rulesets to switch on.
-/

namespace ContentBlocker.Ruleset

variable {rulesets : List Ruleset}

/-! ## Rulesets as a table -/

def ids (rulesets : List Ruleset) : List Text := rulesets.map (·.id)

def byId (rulesets : List Ruleset) : Table Text Ruleset := rulesets.map fun r => (r.id, r)

/-- The last of the rulesets with an id. -/
def last? (rulesets : List Ruleset) (id : Text) : Option Ruleset :=
  rulesets.reverse.find? (·.id = id)

theorem keys_byId (rulesets : List Ruleset) : (byId rulesets).keys = ids rulesets := by
  simp [byId, ids, Table.keys]

theorem id_of_get?_byId {id : Text} {r : Ruleset} (found : (byId rulesets).get? id = some r) :
    r.id = id := by
  induction rulesets with
  | nil => cases found
  | cons s rest ih =>
    have found : (if s.id = id then some s else (byId rest).get? id) = some r :=
      (Table.get?_cons ..).symm.trans found
    split at found
    · rename_i here
      cases found
      exact here
    · exact ih found

theorem mem_ids_iff {id : Text} : id ∈ ids rulesets ↔ ((byId rulesets).get? id).isSome := by
  rw [← keys_byId, Table.mem_keys]

/-! ## Rulesets without repeated ids -/

theorem byId_put (rulesets : List Ruleset) (r : Ruleset) :
    byId (put rulesets r) = (byId rulesets).set r.id r := by
  induction rulesets with
  | nil => rfl
  | cons s rest ih =>
    have cons (s : Ruleset) (rest : List Ruleset) : byId (s :: rest) = (s.id, s) :: byId rest := rfl
    by_cases same : s.id = r.id
    · rw [put, if_pos same, cons, cons, Table.set, if_pos same, same]
    · rw [put, if_neg same, cons, cons, Table.set, if_neg same, ih]

theorem distinct_concat (rulesets : List Ruleset) (r : Ruleset) :
    distinct (rulesets ++ [r]) = put (distinct rulesets) r := by
  rw [distinct, distinct, List.foldl_append]
  rfl

theorem get?_byId_distinct (rulesets : List Ruleset) (id : Text) :
    (byId (distinct rulesets)).get? id = last? rulesets id := by
  induction rulesets using List.reverseRecOn with
  | nil => rfl
  | append_singleton rulesets r ih =>
    rw [distinct_concat, byId_put, Table.get?_set, ih, last?, last?, List.reverse_append]
    by_cases here : r.id = id <;> simp [here]

theorem nodup_ids_distinct (rulesets : List Ruleset) : (ids (distinct rulesets)).Nodup := by
  induction rulesets using List.reverseRecOn with
  | nil => exact List.nodup_nil
  | append_singleton rulesets r ih =>
    rw [distinct_concat, ← keys_byId, byId_put]
    exact Table.nodup_keys_set ((keys_byId _).symm ▸ ih) r

theorem put_of_new {r : Ruleset} (new : r.id ∉ ids rulesets) :
    put rulesets r = rulesets ++ [r] := by
  induction rulesets with
  | nil => rfl
  | cons s rest ih =>
    obtain ⟨other, later⟩ := not_or.1 (mt List.mem_cons.2 new)
    rw [put, if_neg (Ne.symm other), ih later, List.cons_append]

/-- Rulesets without repeated ids stay as they are. -/
theorem distinct_of_nodup (nodup : (ids rulesets).Nodup) : distinct rulesets = rulesets := by
  induction rulesets using List.reverseRecOn with
  | nil => rfl
  | append_singleton rulesets r ih =>
    have split : ids (rulesets ++ [r]) = ids rulesets ++ [r.id] := List.map_append
    rw [split, List.nodup_append] at nodup
    obtain ⟨nodup, -, apart⟩ := nodup
    have new : r.id ∉ ids rulesets := fun old => apart _ old _ (List.mem_singleton_self _) rfl
    rw [distinct_concat, ih nodup, put_of_new new]

theorem mem_ids_distinct {id : Text} : id ∈ ids (distinct rulesets) ↔ id ∈ ids rulesets := by
  rw [mem_ids_iff, get?_byId_distinct, last?]
  simp [ids]

/-- Each id once, in some order. -/
theorem ids_distinct_perm (rulesets : List Ruleset) :
    (ids (distinct rulesets)).Perm (ids rulesets).dedup := by
  refine (List.perm_ext_iff_of_nodup (nodup_ids_distinct rulesets) (List.nodup_dedup _)).2 ?_
  intro id
  rw [mem_ids_distinct, List.mem_dedup]

/-- Rulesets as they are loaded: each id once, at its first place, with the last ruleset that has
it. -/
def loaded (given : List Ruleset) : List Ruleset := (ids given).eraseDups.filterMap (last? given)

theorem ids_distinct (rulesets : List Ruleset) :
    ids (distinct rulesets) = (ids rulesets).eraseDups := by
  induction rulesets using List.reverseRecOn with
  | nil => rfl
  | append_singleton rulesets r ih =>
    have split : ids (rulesets ++ [r]) = ids rulesets ++ [r.id] := List.map_append
    rw [distinct_concat, ← keys_byId, byId_put, Table.keys_set, keys_byId, split]
    by_cases old : r.id ∈ ids rulesets
    · rw [if_pos (mem_ids_distinct.2 old), eraseDups_concat_of_mem old, ih]
    · rw [if_neg (mt mem_ids_distinct.1 old), eraseDups_concat_of_not_mem old, ih]

theorem distinct_eq_loaded (given : List Ruleset) : distinct given = loaded given := by
  have nodup := (keys_byId _).symm ▸ nodup_ids_distinct given
  have values : (byId (distinct given)).map (·.2) = distinct given := by
    rw [byId, List.map_map]
    exact List.map_id _
  rw [← values, Table.map_snd nodup, keys_byId, ids_distinct, loaded]
  exact List.filterMap_congr fun id _ => get?_byId_distinct given id

/-! ## Counting -/

theorem length_distinct (rulesets : List Ruleset) :
    (distinct rulesets).length = (ids rulesets).dedup.length := by
  rw [← (ids_distinct_perm rulesets).length_eq, ids, List.length_map]

theorem countEnabled_eq (nodup : (ids rulesets).Nodup) :
    countEnabled rulesets =
      ((ids rulesets).filter fun id => ((byId rulesets).get? id).any (·.enabled)).length := by
  have enabled : ∀ r ∈ rulesets, ((byId rulesets).get? r.id).any (·.enabled) = r.enabled := by
    intro r mem
    have pair : (r.id, r) ∈ byId rulesets := List.mem_map.2 ⟨r, mem, rfl⟩
    rw [Table.get?_of_mem (p := (r.id, r)) ((keys_byId _).symm ▸ nodup) pair]
    rfl
  rw [countEnabled, ids, List.filter_map, List.length_map]
  exact congrArg List.length (List.filter_congr fun r mem => (enabled r mem).symm)

/-- A ruleset counts as its last content says. -/
theorem countEnabled_distinct (rulesets : List Ruleset) :
    countEnabled (distinct rulesets) =
      ((ids rulesets).dedup.filter fun id => (last? rulesets id).any (·.enabled)).length := by
  rw [countEnabled_eq (nodup_ids_distinct rulesets)]
  simp only [get?_byId_distinct]
  exact ((ids_distinct_perm rulesets).filter _).length_eq

/-! ## Switching -/

/-- Which rulesets are on. -/
def flags (rulesets : List Ruleset) : Table Text Bool := rulesets.map fun r => (r.id, r.enabled)

/-- The flags of rulesets after some were switched off and then others on. -/
def switchedFlags (rulesets : List Ruleset) (enable disable : List Text) : Table Text Bool :=
  let off := disable.foldl (fun flags id => flags.set id false) (flags rulesets)
  enable.foldl (fun flags id => flags.set id true) off

theorem countEnabled_eq_countP (rulesets : List Ruleset) :
    countEnabled rulesets = (flags rulesets).countP (·.2) := by
  rw [flags, List.countP_map, countEnabled, List.countP_eq_length_filter]
  rfl

theorem keys_flags (rulesets : List Ruleset) : (flags rulesets).keys = ids rulesets := by
  simp [flags, ids, Table.keys]

theorem ids_switch (rulesets : List Ruleset) (enable disable : List Text) :
    ids (rulesets.map (·.switch enable disable)) = ids rulesets := by
  simp [ids, switch]

theorem get?_flags (rulesets : List Ruleset) (id : Text) :
    (flags rulesets).get? id = ((byId rulesets).get? id).map (·.enabled) := by
  have flags : flags rulesets = (byId rulesets).map fun p => (p.1, p.2.enabled) := by
    simp [flags, byId]
  rw [flags, Table.get?_map]

theorem get?_flags_switch (rulesets : List Ruleset) (enable disable : List Text) (id : Text) :
    (flags (rulesets.map (·.switch enable disable))).get? id =
      ((byId rulesets).get? id).map fun r => (r.switch enable disable).enabled := by
  have flags : flags (rulesets.map (·.switch enable disable)) =
      (byId rulesets).map fun p => (p.1, (p.2.switch enable disable).enabled) := by
    simp [flags, byId, switch]
  rw [flags]
  exact Table.get?_map (fun r : Ruleset => (r.switch enable disable).enabled) ..

theorem flags_switch {enable disable : List Text} (nodup : (ids rulesets).Nodup)
    (known : ∀ id ∈ enable ++ disable, id ∈ ids rulesets) :
    flags (rulesets.map (·.switch enable disable)) = switchedFlags rulesets enable disable := by
  obtain ⟨on, off⟩ := List.forall_mem_append.1 known
  have keysOff : (disable.foldl (fun flags id => flags.set id false) (flags rulesets)).keys =
      ids rulesets :=
    (Table.keys_foldl_set false fun id mem => (keys_flags _).symm ▸ off id mem).trans
      (keys_flags _)
  have keys : (switchedFlags rulesets enable disable).keys = ids rulesets :=
    (Table.keys_foldl_set true fun id mem => keysOff.symm ▸ on id mem).trans keysOff
  refine Table.eq_of_get? ?_ ?_ fun id => ?_
  · rw [keys, keys_flags, ids_switch]
  · rw [keys_flags, ids_switch]
    exact nodup
  · rw [get?_flags_switch, switchedFlags, Table.get?_foldl_set, Table.get?_foldl_set, get?_flags]
    cases found : (byId rulesets).get? id with
    | none =>
      have absent : id ∉ ids rulesets := by rw [mem_ids_iff, found]; exact Bool.false_ne_true
      rw [if_neg fun mem => absent (on id mem), if_neg fun mem => absent (off id mem)]
      rfl
    | some r =>
      have here := id_of_get?_byId found
      by_cases on : id ∈ enable <;> by_cases off : id ∈ disable <;> simp [switch, here, on, off]

end ContentBlocker.Ruleset
