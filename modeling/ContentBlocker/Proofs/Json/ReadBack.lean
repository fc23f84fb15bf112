import ContentBlocker.Proofs.Json.Numbers

/-!
# Reading back documents

`read_pretty` says what a document is read as: a value without floating-point numbers and without
whole numbers beyond the bound of digits is read back as it was, but for the order of fields, for
fields with one key, of which the last stays, and for halves of surrogate pairs that stand together.
`Json.reread` is what becomes of a value.
-/

namespace ContentBlocker.Json

/-! ## What is read back -/

/-- A value whose text tells all of it. -/
inductive Exact : Json → Prop
  | null : Exact null
  | bool (b : Bool) : Exact (bool b)
  | int {n : Int} (short : (Nat.toDigits 10 n.natAbs).length ≤ digitBound) : Exact (int n)
  | str (s : Text) : Exact (str s)
  | arr {items : List Json} (items_exact : ∀ v ∈ items, v.Exact) : Exact (arr items)
  | obj {fields : List (Text × Json)} (fields_exact : ∀ f ∈ fields, f.2.Exact) : Exact (obj fields)

mutual

/-- The value that the text of a value is read as. -/
def reread : Json → Json
  | str s => str s.rejoined
  | arr items => arr (rereadItems items)
  | obj fields => obj (setAll [] (sortFields (rereadFields fields)))
  | v => v

def rereadItems : List Json → List Json
  | [] => []
  | v :: rest => reread v :: rereadItems rest

def rereadFields : List (Text × Json) → List (Text × Json)
  | [] => []
  | (k, v) :: rest => (k, reread v) :: rereadFields rest

end

theorem rereadItems_eq_map (items : List Json) : rereadItems items = items.map reread := by
  induction items with
  | nil => rfl
  | cons v rest ih => rw [rereadItems, ih, List.map_cons]

theorem rereadFields_eq_map (fields : List (Text × Json)) :
    rereadFields fields = fields.map fun f => (f.1, f.2.reread) := by
  induction fields with
  | nil => rfl
  | cons f rest ih => rw [rereadFields, ih, List.map_cons]

theorem prettyItems_eq_map (level : Nat) (items : List Json) :
    prettyItems level items = items.map (prettyChars level) := by
  induction items with
  | nil => rfl
  | cons v rest ih => rw [prettyItems, ih, List.map_cons]

theorem prettyFields_eq_map (level : Nat) (fields : List (Text × Json)) :
    prettyFields level fields = fields.map fun f => (f.1, prettyChars level f.2) := by
  induction fields with
  | nil => rfl
  | cons f rest ih => rw [prettyFields, ih, List.map_cons]

/-- Sorting fields looks at their keys only. -/
theorem sortFields_map {α β : Type} (g : α → β) (fields : List (Text × α)) :
    sortFields (fields.map fun f => (f.1, g f.2)) =
      (sortFields fields).map fun f => (f.1, g f.2) := by
  unfold sortFields
  rw [List.map_mergeSort]
  intros
  rfl

theorem mem_sortFields {α : Type} {f : Text × α} {fields : List (Text × α)} :
    f ∈ sortFields fields ↔ f ∈ fields :=
  List.mem_mergeSort

/-! ## Starts of values -/

/-- The text of a value starts with a character that is no blank, no closing bracket and no mark. -/
theorem exists_cons_pretty {v : Json} (exact : v.Exact) (level : Nat) :
    ∃ c s, prettyChars level v = c :: s ∧ isJsonBlank c = false ∧ c ≠ ']' ∧ c ≠ '\ufeff' := by
  cases exact with
  | null | str s => exact ⟨_, _, rfl, rfl, by decide, by decide⟩
  | bool b => cases b <;> exact ⟨_, _, rfl, rfl, by decide, by decide⟩
  | @int n =>
    obtain ⟨c, s, text, other⟩ := exists_cons_toString n
    refine ⟨c, s, text, ?_, other _ (by decide) (by decide), other _ (by decide) (by decide)⟩
    simp only [isJsonBlank, other ' ' (by decide) (by decide), other '\t' (by decide) (by decide),
      other '\n' (by decide) (by decide), other '\r' (by decide) (by decide)]
    rfl
  | arr | obj =>
    unfold prettyChars block
    split <;> exact ⟨_, _, rfl, rfl, by decide, by decide⟩

theorem starts_pretty {v : Json} (exact : v.Exact) (level : Nat) :
    Starts (prettyChars level v) := by
  obtain ⟨c, s, text, blank, -⟩ := exists_cons_pretty exact level
  exact ⟨c, s, text, blank⟩

theorem length_pretty_pos {v : Json} (exact : v.Exact) (level : Nat) :
    0 < (prettyChars level v).length := by
  obtain ⟨c, s, text, -⟩ := exists_cons_pretty exact level
  simp [text]

/-! ## Values -/

theorem valueWithin_cons {c : Char} (array : c ≠ '[') (object : c ≠ '\x7b') (bound : Option Nat)
    (size depth : Nat) (s : List Char) :
    valueWithin bound size depth (c :: s) = scalar bound size (c :: s) := by
  cases depth with
  | zero => rfl
  | succ depth => simp [valueWithin, array, object]

theorem block_append (level : Nat) (opening closing : Char) {texts : List (List Char)}
    (some : texts ≠ []) (rest : List Char) :
    block level opening closing texts ++ rest =
      opening :: (newLine (level + 1) ++ (separated (',' :: newLine (level + 1)) texts ++
        (newLine level ++ closing :: rest))) := by
  cases texts with
  | nil => exact absurd rfl some
  | cons t texts => simp [block]

section Lengths

variable (level : Nat) (opening closing : Char)

theorem length_separated_lt_block (texts : List (List Char)) :
    (separated (',' :: newLine (level + 1)) texts).length + 1 <
      (block level opening closing texts).length := by
  cases texts with
  | nil => simp [block, separated]
  | cons t texts =>
    simp only [block, List.isEmpty_cons, Bool.false_eq_true, if_false, List.length_cons,
      List.length_append]
    omega

variable {texts : List (List Char)}

theorem length_lt_block {t : List Char} (mem : t ∈ texts) :
    t.length + 1 < (block level opening closing texts).length := by
  have := length_separated_lt_block level opening closing texts
  have := length_le_separated (',' :: newLine (level + 1)) mem
  omega

theorem count_lt_block (some : ∀ t ∈ texts, 0 < t.length) :
    texts.length + 1 < (block level opening closing texts).length := by
  have := length_separated_lt_block level opening closing texts
  have := count_le_separated (',' :: newLine (level + 1)) some
  omega

end Lengths

theorem reads_array {pairs : List (List Char × Json)} {bound : Option Nat} {size depth : Nat}
    (reads : ∀ p ∈ pairs, Reads (valueWithin bound size depth) p.1 p.2)
    (starts : ∀ p ∈ pairs, ∃ c s, p.1 = c :: s ∧ isJsonBlank c = false ∧ c ≠ ']')
    (enough : pairs.length ≤ size) (level : Nat) :
    Reads (valueWithin bound size (depth + 1)) (block level '[' ']' (pairs.map (·.1)))
      (.arr (pairs.map (·.2))) := by
  intro rest _
  cases pairs with
  | nil => rfl
  | cons p pairs =>
    have solid : ∀ q ∈ p :: pairs, Starts q.1 := by
      intro q mem
      obtain ⟨c, s, text, blank, -⟩ := starts q mem
      exact ⟨c, s, text, blank⟩
    have read := elements_separated (level + 1) level (by simp) reads solid enough [] rest
    obtain ⟨c, s, text, blank, bracket⟩ := starts p List.mem_cons_self
    obtain ⟨more, lines⟩ :=
      exists_separated_cons (',' :: newLine (level + 1)) c s (pairs.map (·.1))
    rw [block_append _ _ _ (by simp)]
    rw [List.map_cons, text, lines, List.cons_append] at read ⊢
    simp [valueWithin, skipBlanks_newLine, skipBlanks_of_starts ⟨c, _, rfl, blank⟩, bracket, read]

theorem reads_object {triples : List (Text × List Char × Json)} {bound : Option Nat}
    {size depth : Nat} (reads : ∀ f ∈ triples, Reads (valueWithin bound size depth) f.2.1 f.2.2)
    (starts : ∀ f ∈ triples, Starts f.2.1) (keys : ∀ f ∈ triples, f.1.length < size)
    (enough : triples.length ≤ size) (level : Nat) :
    Reads (valueWithin bound size (depth + 1))
      (block level '\x7b' '\x7d' (triples.map fun f => fieldText f.1 f.2.1))
      (.obj (setAll [] (triples.map fun f => (f.1, f.2.2)))) := by
  intro rest _
  cases triples with
  | nil => rfl
  | cons f triples =>
    have read := fields_separated (level + 1) level (by simp) reads starts keys enough [] rest
    have text : fieldText f.1 f.2.1 =
        '"' :: (f.1.flatMap escapedOne ++ ['"'] ++ [':', ' '] ++ f.2.1) := by
      simp [fieldText, stringText]
    obtain ⟨more, lines⟩ := exists_separated_cons (',' :: newLine (level + 1)) '"'
      (f.1.flatMap escapedOne ++ ['"'] ++ [':', ' '] ++ f.2.1)
      (triples.map fun f => fieldText f.1 f.2.1)
    rw [block_append _ _ _ (by simp)]
    rw [List.map_cons, text, lines, List.cons_append] at read ⊢
    simp [valueWithin, skipBlanks_newLine, skipBlanks_of_starts ⟨'"', _, rfl, rfl⟩, read]

/-- With this much fuel the text of a value is read as the value, reread. -/
def ReadsBack (v : Json) (size : Nat) : Prop :=
  ∀ level depth, (prettyChars level v).length ≤ depth → (prettyChars level v).length < size →
    Reads (valueWithin (some digitBound) size depth) (prettyChars level v) v.reread

theorem readsBack_int {n : Int} (short : (Nat.toDigits 10 n.natAbs).length ≤ digitBound)
    (size : Nat) : ReadsBack (int n) size := by
  intro level depth _ _ rest closes
  obtain ⟨c, s, text, first⟩ := exists_cons_toString n
  have read := scalar_int short size closes
  unfold prettyChars
  rw [text, List.cons_append] at read ⊢
  rw [valueWithin_cons, read]
  · rfl
  · exact first _ (by decide) (by decide)
  · exact first _ (by decide) (by decide)

theorem readsBack_str (s : Text) (size : Nat) : ReadsBack (str s) size := by
  intro level depth _ large rest _
  have short : s.length < size := by
    have := length_le_flatMap s
    simp only [prettyChars, stringText, List.length_cons, List.length_append] at large
    omega
  have text : prettyChars level (str s) ++ rest = '"' :: (s.flatMap escapedOne ++ '"' :: rest) := by
    simp [prettyChars, stringText]
  rw [text, valueWithin_cons (by decide) (by decide)]
  simp only [scalar, string_stringText s short, reread]

theorem readsBack_arr {items : List Json} {size : Nat} (exact : ∀ v ∈ items, v.Exact)
    (ih : ∀ v ∈ items, ReadsBack v size) : ReadsBack (arr items) size := by
  intro level depth deep large
  let pairs := items.map fun v => (prettyChars (level + 1) v, v.reread)
  have text : prettyChars level (arr items) = block level '[' ']' (pairs.map (·.1)) := by
    rw [prettyChars, prettyItems_eq_map, List.map_map]
    rfl
  have value : (arr items).reread = arr (pairs.map (·.2)) := by
    rw [reread, rereadItems_eq_map, List.map_map]
    rfl
  rw [text] at deep large ⊢
  rw [value]
  have nonempty := length_separated_lt_block level '[' ']' (pairs.map (·.1))
  obtain ⟨depth, rfl⟩ := Nat.exists_eq_succ_of_ne_zero (n := depth) (by omega)
  have count : pairs.length + 1 < (block level '[' ']' (pairs.map (·.1))).length := by
    rw [← List.length_map (·.1)]
    refine count_lt_block level '[' ']' fun t mem => ?_
    simp only [pairs, List.map_map, List.mem_map] at mem
    obtain ⟨v, here, rfl⟩ := mem
    exact length_pretty_pos (exact v here) (level + 1)
  refine reads_array ?_ ?_ (by omega) level
  · intro p mem
    have short := length_lt_block level '[' ']' (List.mem_map_of_mem (f := (·.1)) mem)
    obtain ⟨v, here, rfl⟩ := List.mem_map.1 mem
    dsimp only at short
    exact ih v here (level + 1) depth (by omega) (by omega)
  · intro p mem
    obtain ⟨v, here, rfl⟩ := List.mem_map.1 mem
    obtain ⟨c, s, text, blank, bracket, -⟩ := exists_cons_pretty (exact v here) (level + 1)
    exact ⟨c, s, text, blank, bracket⟩

theorem readsBack_obj {fields : List (Text × Json)} {size : Nat}
    (exact : ∀ f ∈ fields, f.2.Exact) (ih : ∀ f ∈ fields, ReadsBack f.2 size) :
    ReadsBack (obj fields) size := by
  intro level depth deep large
  let triples := (sortFields fields).map fun f => (f.1, prettyChars (level + 1) f.2, f.2.reread)
  have text : prettyChars level (obj fields) =
      block level '\x7b' '\x7d' (triples.map fun f => fieldText f.1 f.2.1) := by
    rw [prettyChars, prettyFields_eq_map, sortFields_map, List.map_map, List.map_map]
    rfl
  have value : (obj fields).reread = obj (setAll [] (triples.map fun f => (f.1, f.2.2))) := by
    rw [reread, rereadFields_eq_map, sortFields_map, List.map_map]
    rfl
  rw [text] at deep large ⊢
  rw [value]
  have nonempty := length_separated_lt_block level '\x7b' '\x7d'
    (triples.map fun f => fieldText f.1 f.2.1)
  obtain ⟨depth, rfl⟩ := Nat.exists_eq_succ_of_ne_zero (n := depth) (by omega)
  have count : triples.length + 1 <
      (block level '\x7b' '\x7d' (triples.map fun f => fieldText f.1 f.2.1)).length := by
    rw [← List.length_map fun f => fieldText f.1 f.2.1]
    refine count_lt_block level '\x7b' '\x7d' fun t mem => ?_
    obtain ⟨f, -, rfl⟩ := List.mem_map.1 mem
    simp [fieldText, stringText]
  -- the key and the text of a field are shorter than the block
  have short {f : Text × List Char × Json} (mem : f ∈ triples) :=
    length_lt_block level '\x7b' '\x7d'
      (List.mem_map_of_mem (f := fun f => fieldText f.1 f.2.1) mem)
  refine reads_object ?_ ?_ ?_ (by omega) level
  · intro f mem
    have := short mem
    have := length_lt_fieldText f.1 f.2.1
    obtain ⟨g, here, rfl⟩ := List.mem_map.1 mem
    dsimp only at *
    exact ih g (mem_sortFields.1 here) (level + 1) depth (by omega) (by omega)
  · intro f mem
    obtain ⟨g, here, rfl⟩ := List.mem_map.1 mem
    exact starts_pretty (exact g (mem_sortFields.1 here)) (level + 1)
  · intro f mem
    have := short mem
    have := length_lt_fieldText f.1 f.2.1
    omega

theorem readsBack {v : Json} (exact : v.Exact) (size : Nat) : ReadsBack v size := by
  induction exact with
  | null => exact fun _ _ _ _ rest _ => valueWithin_cons (by decide) (by decide) ..
  | bool b => cases b <;> exact fun _ _ _ _ rest _ => valueWithin_cons (by decide) (by decide) ..
  | int short => exact readsBack_int short size
  | str s => exact readsBack_str s size
  | arr exact ih => exact readsBack_arr exact ih
  | obj exact ih => exact readsBack_obj exact ih

/-! ## Documents -/

theorem readChars_pretty {v : Json} (exact : v.Exact) :
    readChars (some digitBound) (prettyChars 0 v) = .ok v.reread := by
  obtain ⟨c, s, text, blank, -, mark⟩ := exists_cons_pretty exact 0
  have read := readsBack exact ((prettyChars 0 v).length + 1) 0 ((prettyChars 0 v).length + 1)
    (Nat.le_succ _) (Nat.lt_succ_self _) [] closes_nil
  rw [List.append_nil] at read
  unfold readChars
  split
  · rename_i eq
    rw [text] at eq
    cases eq
    exact absurd rfl mark
  · simp only [skipBlanks_of_starts (starts_pretty exact 0), read]
    rfl

/-- A document is read as the value that it was written for, reread. -/
theorem read_pretty {v : Json} (exact : v.Exact) : Json.read v.pretty = .ok v.reread := by
  rw [Json.read, pretty, String.toList_ofList, readChars_pretty exact]
  rfl

end ContentBlocker.Json
