import ContentBlocker.Throttle
import Mathlib.Data.List.Infix

/-!
# Forgetting a client

The keys of a client say whose they are: they end in a word behind the last dot.  How they begin
does not, as ids may have dots: forgetting a client forgets those too whose ids go on behind its id
with a dot.  It forgets its keys alone just if no such client has any: `forgets_one_client_iff`.
-/

namespace ContentBlocker.Throttle

/-- The keys of a client. -/
def clientKeys (client : String) : List String := [degradedKey client, removalKey client]

/-- Whether an id goes on behind another with a dot. -/
def GoesOn (client other : String) : Prop := client.toList ++ ['.'] <+: other.toList

instance (client other : String) : Decidable (GoesOn client other) :=
  inferInstanceAs (Decidable (_ <+: _))

theorem dotted_isPrefix_iff {word : List Char} (plain : '.' ∉ word) (client other : List Char) :
    client ++ ['.'] <+: other ++ '.' :: word ↔ other = client ∨ client ++ ['.'] <+: other := by
  induction client generalizing other with
  | nil => cases other <;> simp [List.cons_prefix_cons]
  | cons c client ih =>
    cases other with
    | nil =>
      have outside : ¬ client ++ ['.'] <+: word := fun start => plain (start.mem (by simp))
      simp [List.cons_prefix_cons, outside]
    | cons d other =>
      simp only [List.cons_append, List.cons_prefix_cons, ih other, List.cons.injEq]
      by_cases same : c = d <;> simp [same, Ne.symm]

section

variable {client other key : String}

theorem toList_clientStem (client : String) :
    (clientStem client).toList = "dnr.".toList ++ (client.toList ++ ['.']) := by
  simp only [clientStem, String.toList_append, List.append_assoc]
  rfl

theorem exists_word (mem : key ∈ clientKeys client) :
    ∃ word, '.' ∉ word ∧ key.toList = "dnr.".toList ++ (client.toList ++ '.' :: word) := by
  simp only [clientKeys, List.mem_cons, List.not_mem_nil, or_false] at mem
  rcases mem with rfl | rfl
  · exact ⟨"degraded".toList, by decide, by simp [degradedKey, toList_clientStem]⟩
  · exact ⟨"remove".toList, by decide, by simp [removalKey, toList_clientStem]⟩

/-- A key begins like the keys of a client just if it is one of them, or its client's id goes on
behind that of the client. -/
theorem stem_isPrefixOf_iff (client : String) (mem : key ∈ clientKeys other) :
    (clientStem client).toList.isPrefixOf key.toList ↔ other = client ∨ GoesOn client other := by
  obtain ⟨word, plain, letters⟩ := exists_word mem
  rw [List.isPrefixOf_iff_prefix, letters, toList_clientStem, List.prefix_append_right_inj,
    dotted_isPrefix_iff plain, String.toList_inj, GoesOn]

theorem not_goesOn_self (client : String) : ¬ GoesOn client client := by
  intro start
  have := start.length_le
  simp only [List.length_append, List.length_singleton] at this
  omega

/-- A key belongs to one client. -/
theorem eq_of_mem_clientKeys (mem : key ∈ clientKeys client) (also : key ∈ clientKeys other) :
    other = client := by
  have starts := (stem_isPrefixOf_iff client mem).2 (.inl rfl)
  rcases (stem_isPrefixOf_iff client also).1 starts with same | longer
  · exact same
  · have back := (stem_isPrefixOf_iff other also).2 (.inl rfl)
    rcases (stem_isPrefixOf_iff other mem).1 back with same | shorter
    · exact same.symm
    · -- neither id can go on behind the other
      have := longer.length_le
      have := shorter.length_le
      simp only [List.length_append, List.length_singleton] at *
      omega

end

/-- Forgetting a client leaves none of its keys.  Of the other clients it forgets those whose ids go
on behind its id with a dot, and only those; so that it forgets the keys of the client alone just if
no such client has a key. -/
theorem forgets_one_client_iff {t : Throttle}
    (owned : ∀ g ∈ t.grants, ∃ client, g.1 ∈ clientKeys client) (client : String) :
    (∀ g ∈ (t.forget (clientStem client)).grants, g.1 ∉ clientKeys client) ∧
    (∀ other, ∀ g ∈ t.grants, g.1 ∈ clientKeys other →
      (g ∈ (t.forget (clientStem client)).grants ↔ other ≠ client ∧ ¬ GoesOn client other)) ∧
    ((t.forget (clientStem client)).grants = t.grants.filter (·.1 ∉ clientKeys client) ↔
      ∀ other, (∃ g ∈ t.grants, g.1 ∈ clientKeys other) → ¬ GoesOn client other) := by
  have stays (g : String × Int) : g ∈ (t.forget (clientStem client)).grants ↔
      g ∈ t.grants ∧ ¬ (clientStem client).toList.isPrefixOf g.1.toList := by
    simp only [forget, List.mem_filter, Bool.not_eq_true', Bool.not_eq_true]
  have kept (other : String) (g : String × Int) (mem : g ∈ t.grants)
      (own : g.1 ∈ clientKeys other) :
      g ∈ (t.forget (clientStem client)).grants ↔ other ≠ client ∧ ¬ GoesOn client other := by
    rw [stays, stem_isPrefixOf_iff client own, not_or, and_iff_right mem]
  refine ⟨fun g mem own => ?_, kept, fun same other has more => ?_, fun none => ?_⟩
  · exact ((kept client g ((stays g).1 mem).1 own).1 mem).1 rfl
  · obtain ⟨g, mem, own⟩ := has
    have foreign : g.1 ∉ clientKeys client := fun mine =>
      not_goesOn_self client (eq_of_mem_clientKeys mine own ▸ more)
    have stayed : g ∈ (t.forget (clientStem client)).grants := by
      rw [same]
      simpa using ⟨mem, foreign⟩
    exact ((kept other g mem own).1 stayed).2 more
  · refine List.filter_congr fun g mem => ?_
    obtain ⟨other, own⟩ := owned g mem
    have mine : g.1 ∈ clientKeys client ↔ other = client :=
      ⟨fun mine => eq_of_mem_clientKeys mine own, fun same => same ▸ own⟩
    have begins := (stem_isPrefixOf_iff client own).trans
      (or_iff_left (none other ⟨g, mem, own⟩))
    rw [Bool.eq_iff_iff, Bool.not_eq_true', Bool.eq_false_iff, Ne, begins, ← mine,
      decide_eq_true_eq]

/-- An id that goes on without a dot is kept, and so is one that ends with a dot and the forgotten
one. -/
theorem alike_ids_are_kept :
    let t : Throttle := ⟨[(degradedKey "a", 3), (removalKey "ab", 2), (degradedKey "b.a", 1),
      (removalKey "a", 0)]⟩
    (∀ g ∈ t.grants, ∃ client, g.1 ∈ clientKeys client) ∧
      (t.forget (clientStem "a")).grants = [(removalKey "ab", 2), (degradedKey "b.a", 1)] ∧
      (t.forget (clientStem "a")).grants = t.grants.filter (·.1 ∉ clientKeys "a") := by
  intro t
  have each : ∀ g ∈ t.grants, ∃ client, g.1 ∈ clientKeys client ∧ ¬ GoesOn "a" client := by
    simp only [t, List.forall_mem_cons]
    exact ⟨⟨"a", by decide⟩, ⟨"ab", by decide⟩, ⟨"b.a", by decide⟩, ⟨"a", by decide⟩, by simp⟩
  have owned : ∀ g ∈ t.grants, ∃ client, g.1 ∈ clientKeys client := fun g mem =>
    (each g mem).imp fun _ => And.left
  refine ⟨owned, by decide, (forgets_one_client_iff owned "a").2.2.2 ?_⟩
  rintro other ⟨g, mem, own⟩
  obtain ⟨client, also, apart⟩ := each g mem
  exact eq_of_mem_clientKeys also own ▸ apart

/-- The keys of a client whose id goes on with a dot are forgotten. -/
theorem dotted_id_is_forgotten :
    let t : Throttle := ⟨[(degradedKey "a.b", 1), (removalKey "a", 0)]⟩
    (t.forget (clientStem "a")).grants = [] ∧
      t.grants.filter (·.1 ∉ clientKeys "a") = [(degradedKey "a.b", 1)] ∧
      ¬ (t.forget (clientStem "a")).grants = t.grants.filter (·.1 ∉ clientKeys "a") := by
  decide

end ContentBlocker.Throttle
