import ContentBlocker.Proofs.Json.Fields

/-!
# Canonical documents

Documents are the canonical texts of values up to the order of fields: `read_pretty_same` says that
a value is read back from its document, with the keys of all objects in order, and `pretty_eq_iff`
that two values have one document just if they are the same but for the order of fields.  Documents
are in ASCII.
-/

namespace ContentBlocker

/-! ## The order of keys -/

namespace Text

/-- A text stands before another, where code points are compared from left to right. -/
def Before (s t : Text) : Prop := List.Lex (fun p q => p.toNat < q.toNat) s t

theorem toNat_inj {p q : CodePoint} : p.toNat = q.toNat ↔ p = q := by
  cases p
  cases q
  simp

theorem notAfter_cons {p q : CodePoint} {s t : Text} :
    notAfter (p :: s) (q :: t) = true ↔ p.toNat < q.toNat ∨ p = q ∧ s.notAfter t = true := by
  simp [notAfter]

theorem notAfter_trans {s t u : Text} (st : s.notAfter t = true) (tu : t.notAfter u = true) :
    s.notAfter u = true := by
  induction s generalizing t u with
  | nil => rfl
  | cons p s ih =>
    cases t with
    | nil => cases st
    | cons q t =>
      cases u with
      | nil => cases tu
      | cons r u =>
        rw [notAfter_cons] at st tu ⊢
        rcases st with less | ⟨rfl, st⟩
        · rcases tu with less' | ⟨rfl, -⟩
          · exact .inl (Nat.lt_trans less less')
          · exact .inl less
        · exact tu.imp id fun ⟨same, tu⟩ => ⟨same, ih st tu⟩

theorem notAfter_total (s t : Text) : s.notAfter t = true ∨ t.notAfter s = true := by
  induction s generalizing t with
  | nil => exact .inl rfl
  | cons p s ih =>
    cases t with
    | nil => exact .inr rfl
    | cons q t =>
      rw [notAfter_cons, notAfter_cons]
      rcases Nat.lt_trichotomy p.toNat q.toNat with less | same | less
      · exact .inl (.inl less)
      · have same := toNat_inj.1 same
        exact (ih t).imp (fun le => .inr ⟨same, le⟩) fun le => .inr ⟨same.symm, le⟩
      · exact .inr (.inl less)

theorem notAfter_antisymm {s t : Text} (le : s.notAfter t = true) (ge : t.notAfter s = true) :
    s = t := by
  induction s generalizing t with
  | nil =>
    cases t with
    | nil => rfl
    | cons q t => cases ge
  | cons p s ih =>
    cases t with
    | nil => cases le
    | cons q t =>
      rw [notAfter_cons] at le ge
      rcases le with less | ⟨rfl, le⟩
      · rcases ge with less' | ⟨rfl, -⟩ <;> omega
      · rcases ge with less | ⟨-, ge⟩
        · omega
        · rw [ih le ge]

theorem before_of_notAfter {s t : Text} (le : s.notAfter t = true) (ne : s ≠ t) :
    s.Before t := by
  induction s generalizing t with
  | nil =>
    cases t with
    | nil => exact absurd rfl ne
    | cons q t => exact .nil
  | cons p s ih =>
    cases t with
    | nil => cases le
    | cons q t =>
      rcases notAfter_cons.1 le with less | ⟨rfl, rest⟩
      · exact .rel less
      · exact .cons (ih rest fun same => ne (congrArg _ same))

theorem pairwise_notAfter (keys : List Text) :
    (keys.mergeSort notAfter).Pairwise fun s t => s.notAfter t = true := by
  refine List.pairwise_mergeSort ?_ ?_ keys
  · exact fun _ _ _ => notAfter_trans
  · exact fun s t => Bool.or_eq_true_iff.2 (notAfter_total s t)

/-- Sorting keys does not look at their order. -/
theorem mergeSort_perm_eq {keys others : List Text} (perm : keys.Perm others) :
    keys.mergeSort notAfter = others.mergeSort notAfter := by
  have sorted : (keys.mergeSort notAfter).Perm (others.mergeSort notAfter) :=
    (List.mergeSort_perm ..).trans (perm.trans (List.mergeSort_perm ..).symm)
  exact sorted.eq_of_pairwise (fun _ _ _ _ le ge => notAfter_antisymm le ge)
    (pairwise_notAfter keys) (pairwise_notAfter others)

end Text

namespace Json

/-! ## Values up to the order of fields -/

/-- Two values that differ at most in the order of the fields of their objects. -/
inductive Same : Json → Json → Prop
  | null : Same null null
  | bool (b : Bool) : Same (bool b) (bool b)
  | int (n : Int) : Same (int n) (int n)
  | float (x : Binary64) : Same (float x) (float x)
  | str (s : Text) : Same (str s) (str s)
  | arr {items others : List Json} (count : items.length = others.length)
    (each : ∀ (i : Nat) v w, items[i]? = some v → others[i]? = some w → Same v w) :
    Same (arr items) (arr others)
  | obj {fields others : Fields} (keys : fields.keys.Perm others.keys)
    (each : ∀ key v w, fields.get? key = some v → others.get? key = some w → Same v w) :
    Same (obj fields) (obj others)

/-- A value whose document tells all of it: it has no floating-point numbers, no whole numbers above
the bound of digits, no high half of a surrogate pair in front of a low one, and no repeated keys. -/
inductive Lossless : Json → Prop
  | null : Lossless null
  | bool (b : Bool) : Lossless (bool b)
  | int {n : Int} (short : (Nat.toDigits 10 n.natAbs).length ≤ digitBound) : Lossless (int n)
  | str {s : Text} (joined : s.rejoined = s) : Lossless (str s)
  | arr {items : List Json} (items_lossless : ∀ v ∈ items, v.Lossless) : Lossless (arr items)
  | obj {fields : Fields} (plain : Plain fields) (fields_lossless : ∀ f ∈ fields, f.2.Lossless) :
    Lossless (obj fields)

/-- A value in which the keys of every object stand in order. -/
inductive Ordered : Json → Prop
  | null : Ordered null
  | bool (b : Bool) : Ordered (bool b)
  | int (n : Int) : Ordered (int n)
  | float (x : Binary64) : Ordered (float x)
  | str (s : Text) : Ordered (str s)
  | arr {items : List Json} (items_ordered : ∀ v ∈ items, v.Ordered) : Ordered (arr items)
  | obj {fields : Fields} (increasing : fields.keys.Pairwise Text.Before)
    (fields_ordered : ∀ f ∈ fields, f.2.Ordered) : Ordered (obj fields)

theorem Lossless.exact {v : Json} (h : v.Lossless) : v.Exact := by
  induction h with
  | null => exact .null
  | bool b => exact .bool b
  | int short => exact .int short
  | str => exact .str _
  | arr _ ih => exact .arr ih
  | obj _ _ ih => exact .obj ih

/-- Keys that are the same in any order are there or absent together. -/
theorem exists_get?_of_perm {fields others : Fields} (keys : fields.keys.Perm others.keys)
    {key : Text} {v : Json} (found : fields.get? key = some v) :
    ∃ w, others.get? key = some w := by
  have here : key ∈ fields.keys := (Table.mem_keys ..).2 (by rw [found]; rfl)
  exact Option.isSome_iff_exists.1 ((Table.mem_keys ..).1 (keys.mem_iff.1 here))

theorem Same.symm {v w : Json} (same : v.Same w) : w.Same v := by
  induction same with
  | null => exact .null
  | bool b => exact .bool b
  | int n => exact .int n
  | float x => exact .float x
  | str s => exact .str s
  | arr count _ ih => exact .arr count.symm fun i w v there here => ih i v w here there
  | obj keys _ ih => exact .obj keys.symm fun key w v there here => ih key v w here there

theorem Same.trans {u v w : Json} (first : u.Same v) (second : v.Same w) : u.Same w := by
  induction first generalizing w with
  | null | bool | int | float | str => exact second
  | @arr items others count each ih =>
    cases second with
    | @arr _ lasts count' each' =>
      refine .arr (count.trans count') fun i x z here there => ?_
      obtain ⟨inside, -⟩ := List.getElem?_eq_some_iff.1 here
      obtain ⟨y, amid⟩ : ∃ y, others[i]? = some y :=
        ⟨_, List.getElem?_eq_getElem (count ▸ inside)⟩
      exact ih i x y here amid (each' i y z amid there)
  | @obj fields others keys each ih =>
    cases second with
    | @obj _ lasts keys' each' =>
      refine .obj (keys.trans keys') fun key x z here there => ?_
      obtain ⟨y, amid⟩ := exists_get?_of_perm keys here
      exact ih key x y here amid (each' key y z amid there)

/-! ## What is read back -/

theorem keys_sortFields {α : Type} (fields : Table Text α) :
    Table.keys (sortFields fields) = fields.keys.mergeSort Text.notAfter := by
  unfold sortFields Table.keys
  exact List.map_mergeSort fun _ _ _ _ => rfl

theorem plain_sortFields {α : Type} {fields : Table Text α} (plain : Plain fields) :
    Plain (sortFields fields) := by
  refine ⟨?_, fun f mem => plain.keys f (mem_sortFields.1 mem)⟩
  rw [keys_sortFields]
  exact (List.mergeSort_perm ..).nodup_iff.2 plain.nodup

/-- Sorted fields have each key before all that follow. -/
theorem increasing_sortFields {α : Type} {fields : Table Text α} (plain : Plain fields) :
    (Table.keys (sortFields fields)).Pairwise Text.Before := by
  have distinct := (plain_sortFields plain).nodup
  rw [keys_sortFields] at distinct ⊢
  exact (Text.pairwise_notAfter fields.keys).imp₂ (fun _ _ => Text.before_of_notAfter) distinct

theorem get?_sortFields {α : Type} {fields : Table Text α} (plain : Plain fields) (key : Text) :
    Table.get? (sortFields fields) key = fields.get? key :=
  Table.get?_perm (List.mergeSort_perm ..) (plain_sortFields plain).nodup key

/-- Fields with keys of their own are set one behind the other. -/
theorem setAll_of_plain {done found : Fields} (plain : Plain (done ++ found)) :
    setAll done found = done ++ found := by
  induction found generalizing done with
  | nil => exact (List.append_nil done).symm
  | cons f rest ih =>
    obtain ⟨key, v⟩ := f
    have kept : key.rejoined = key := plain.keys (key, v) (by simp)
    have new : key ∉ Table.keys done := by
      have apart := plain.nodup
      unfold Table.keys at apart ⊢
      rw [List.map_append, List.nodup_append] at apart
      exact fun here => apart.2.2 key here key (by simp) rfl
    have first : setAll done ((key, v) :: rest) = setAll (done ++ [(key, v)]) rest := by
      rw [← Table.set_of_new new v]
      conv_rhs => rw [← kept]
      rfl
    rw [first, ih, List.append_assoc, List.singleton_append]
    rwa [List.append_assoc, List.singleton_append]

theorem keys_rereadFields (fields : Fields) : Table.keys (rereadFields fields) = fields.keys := by
  rw [rereadFields_eq_map]
  exact List.map_map ..

/-- An object without repeated keys is read back with its fields in the order of their keys. -/
theorem reread_obj {fields : Fields} (plain : Plain fields) :
    (obj fields).reread = obj (sortFields (rereadFields fields)) := by
  rw [reread, setAll_of_plain (plain_reread plain), List.nil_append]

theorem same_reread {v : Json} (lossless : v.Lossless) : v.Same v.reread := by
  induction lossless with
  | null => exact .null
  | bool b => exact .bool b
  | int => exact .int _
  | str joined =>
    rw [reread, joined]
    exact .str _
  | @arr items _ ih =>
    rw [reread, rereadItems_eq_map]
    refine .arr (List.length_map _).symm fun i v w here there => ?_
    rw [List.getElem?_map, here] at there
    cases there
    exact ih v (List.mem_of_getElem? here)
  | @obj fields plain _ ih =>
    obtain ⟨read, eq, answers⟩ := get?_reread plain
    have keys : fields.keys.Perm (Table.keys read) := by
      have sorted := (reread_obj plain).symm.trans eq
      cases sorted
      rw [keys_sortFields, keys_rereadFields]
      exact (List.mergeSort_perm ..).symm
    rw [eq]
    refine .obj keys fun key v w here there => ?_
    rw [answers, here] at there
    cases there
    exact ih (key, v) ((Table.get?_eq_some plain.nodup).1 here)

theorem Lossless.same_self {v : Json} (lossless : v.Lossless) : v.Same v :=
  (same_reread lossless).trans (same_reread lossless).symm

/-- An object with its fields in another order is the same. -/
theorem same_of_perm {fields others : Fields} (perm : fields.Perm others)
    (lossless : (obj fields).Lossless) : (obj fields).Same (obj others) := by
  cases lossless with
  | obj plain each =>
  refine .obj (perm.map _) fun key v w here there => ?_
  rw [← Table.get?_perm perm plain.nodup key, here] at there
  cases there
  exact (each (key, v) ((Table.get?_eq_some plain.nodup).1 here)).same_self

theorem ordered_reread {v : Json} (lossless : v.Lossless) : v.reread.Ordered := by
  induction lossless with
  | null => exact .null
  | bool b => exact .bool b
  | int => exact .int _
  | str => exact .str _
  | arr _ ih =>
    rw [reread, rereadItems_eq_map]
    exact .arr (List.forall_mem_map.2 ih)
  | @obj fields plain _ ih =>
    rw [reread_obj plain]
    refine .obj ?_ fun f mem => ?_
    · rw [keys_sortFields, keys_rereadFields, ← keys_sortFields]
      exact increasing_sortFields plain
    · rw [mem_sortFields, rereadFields_eq_map] at mem
      obtain ⟨g, here, rfl⟩ := List.mem_map.1 mem
      exact ih g here

/-- A value is read back from its document up to the order of fields; there the keys stand in
order. -/
theorem read_pretty_same {v : Json} (lossless : v.Lossless) :
    ∃ w, Json.read v.pretty = .ok w ∧ v.Same w ∧ w.Ordered :=
  ⟨v.reread, read_pretty lossless.exact, same_reread lossless, ordered_reread lossless⟩

/-- An object is written field by field in the order of the keys, each field once. -/
theorem exists_lines {fields : Fields} (plain : Plain fields) (level : Nat) :
    ∃ lines : Fields, lines.Perm fields ∧ lines.keys.Pairwise Text.Before ∧
      prettyChars level (obj fields) = block level '\x7b' '\x7d' (lines.map fun f =>
        stringText f.1 ++ [':', ' '] ++ prettyChars (level + 1) f.2) := by
  refine ⟨sortFields fields, List.mergeSort_perm .., increasing_sortFields plain, ?_⟩
  rw [prettyChars, prettyFields_eq_map, sortFields_map, List.map_map]
  rfl

/-! ## One document for each value -/

/-- Fields that are written alike under the same keys stand in one order. -/
theorem sortFields_map_congr {α : Type} {fields others : Fields} (plain : Plain fields)
    (plain' : Plain others) (keys : fields.keys.Perm others.keys) {write : Json → α}
    (alike : ∀ key v w, fields.get? key = some v → others.get? key = some w → write v = write w) :
    sortFields (fields.map fun f => (f.1, write f.2)) =
      sortFields (others.map fun f => (f.1, write f.2)) := by
  rw [sortFields_map, sortFields_map]
  have order : Table.keys (sortFields fields) = Table.keys (sortFields others) := by
    rw [keys_sortFields, keys_sortFields, Text.mergeSort_perm_eq keys]
  have written (t : Fields) : Table.keys (t.map fun f => (f.1, write f.2)) = t.keys :=
    List.map_map ..
  refine Table.eq_of_get? (by rw [written, written, order]) ?_ fun key => ?_
  · rw [written]
    exact (plain_sortFields plain).nodup
  · rw [Table.get?_map, Table.get?_map, get?_sortFields plain, get?_sortFields plain']
    cases here : fields.get? key with
    | none =>
      cases there : others.get? key with
      | none => rfl
      | some w =>
        obtain ⟨v, found⟩ := exists_get?_of_perm keys.symm there
        cases here.symm.trans found
    | some v =>
      obtain ⟨w, there⟩ := exists_get?_of_perm keys here
      rw [there, Option.map_some, Option.map_some, alike key v w here there]

theorem prettyChars_eq_of_same {v w : Json} (same : v.Same w) (left : v.Lossless)
    (right : w.Lossless) (level : Nat) : prettyChars level v = prettyChars level w := by
  induction same generalizing level with
  | null | bool | int | float | str => rfl
  | @arr items others count each ih =>
    cases left with
    | arr left =>
    cases right with
    | arr right =>
    rw [prettyChars, prettyChars, prettyItems_eq_map, prettyItems_eq_map]
    congr 1
    refine List.ext_getElem (by simpa using count) fun i here there => ?_
    rw [List.getElem_map, List.getElem_map]
    exact ih i _ _ (List.getElem?_eq_getElem _) (List.getElem?_eq_getElem _)
      (left _ (List.getElem_mem _)) (right _ (List.getElem_mem _)) (level + 1)
  | @obj fields others keys each ih =>
    cases left with
    | obj plain left =>
    cases right with
    | obj plain' right =>
    have lines : sortFields (prettyFields (level + 1) fields) =
        sortFields (prettyFields (level + 1) others) := by
      rw [prettyFields_eq_map, prettyFields_eq_map]
      refine sortFields_map_congr plain plain' keys fun key v w here there => ?_
      exact ih key v w here there (left _ ((Table.get?_eq_some plain.nodup).1 here))
        (right _ ((Table.get?_eq_some plain'.nodup).1 there)) (level + 1)
    rw [prettyChars, prettyChars, lines]

/-- Two values have one document just if they are the same up to the order of fields. -/
theorem pretty_eq_iff {v w : Json} (left : v.Lossless) (right : w.Lossless) :
    v.pretty = w.pretty ↔ v.Same w := by
  constructor
  · intro one
    have read := read_pretty left.exact
    rw [one, read_pretty right.exact] at read
    have back : w.reread = v.reread := Except.ok.inj read
    exact (same_reread left).trans (back ▸ (same_reread right).symm)
  · intro same
    rw [pretty, pretty, prettyChars_eq_of_same same left right]

/-! ## Documents in ASCII -/

/-- Characters of ASCII. -/
def IsAscii (s : List Char) : Prop := ∀ c ∈ s, c.toNat < 128

/-- Characters that are given one by one are checked one by one. -/
theorem isAscii_of_all {s : List Char} (all : s.all fun c => c.toNat < 128) : IsAscii s := by
  simpa [IsAscii] using all

theorem isAscii_append {s t : List Char} : IsAscii (s ++ t) ↔ IsAscii s ∧ IsAscii t :=
  List.forall_mem_append

theorem isAscii_cons {c : Char} {s : List Char} :
    IsAscii (c :: s) ↔ c.toNat < 128 ∧ IsAscii s :=
  List.forall_mem_cons

theorem isAscii_unitEscape (n : Nat) : IsAscii (unitEscape n) := by
  have digits : ∀ d < 16, (Nat.digitChar d).toNat < 128 := by decide
  have digit (m : Nat) : (Nat.digitChar (m % 16)).toNat < 128 :=
    digits _ (Nat.mod_lt _ (by decide))
  intro c mem
  simp only [unitEscape, Text.hex, List.mem_cons, List.mem_map] at mem
  rcases mem with rfl | rfl | ⟨i, -, rfl⟩
  · decide
  · decide
  · exact digit _

theorem isAscii_escapedOne (p : CodePoint) : IsAscii (escapedOne p) := by
  unfold escapedOne
  repeat' split
  all_goals try exact isAscii_of_all (by decide)
  · rename_i printed
    have char := ofChar_char (p := p) (.inl (by omega))
    have same : p.char.toNat = p.toNat := congrArg CodePoint.toNat char
    intro c mem
    rw [List.mem_singleton.1 mem, same]
    omega
  · exact isAscii_unitEscape _
  · exact isAscii_append.2 ⟨isAscii_unitEscape _, isAscii_unitEscape _⟩

theorem isAscii_stringText (s : Text) : IsAscii (stringText s) := by
  unfold stringText
  refine isAscii_cons.2 ⟨by decide, isAscii_append.2 ⟨fun c mem => ?_, isAscii_of_all (by decide)⟩⟩
  obtain ⟨p, -, here⟩ := List.mem_flatMap.1 mem
  exact isAscii_escapedOne p c here

theorem isAscii_toString (n : Int) : IsAscii (toString n).toList := by
  have digits : IsAscii (Nat.toDigits 10 n.natAbs) := by
    intro c mem
    have digit := isDigit_toDigits c mem
    simp only [Char.isDigit, Bool.and_eq_true, decide_eq_true_eq] at digit
    have upper : c.toNat ≤ 57 := digit.2
    omega
  rw [toList_toString]
  split
  · exact digits
  · exact isAscii_cons.2 ⟨by decide, digits⟩

theorem isAscii_newLine (level : Nat) : IsAscii (newLine level) := by
  refine isAscii_cons.2 ⟨by decide, fun c mem => ?_⟩
  rw [(List.mem_replicate.1 mem).2]
  decide

theorem isAscii_separated {separator : List Char} {texts : List (List Char)}
    (comma : IsAscii separator) (each : ∀ t ∈ texts, IsAscii t) :
    IsAscii (separated separator texts) := by
  induction texts with
  | nil => exact List.forall_mem_nil _
  | cons t texts ih =>
    obtain ⟨first, later⟩ := List.forall_mem_cons.1 each
    cases texts with
    | nil => rwa [separated_singleton]
    | cons u texts =>
      rw [separated_cons_cons]
      exact isAscii_append.2 ⟨isAscii_append.2 ⟨first, comma⟩, ih later⟩

theorem isAscii_block {level : Nat} {opening closing : Char} {texts : List (List Char)}
    (brackets : IsAscii [opening, closing]) (each : ∀ t ∈ texts, IsAscii t) :
    IsAscii (block level opening closing texts) := by
  obtain ⟨first, last⟩ := isAscii_cons.1 brackets
  unfold block
  split
  · exact brackets
  · have comma : IsAscii (',' :: newLine (level + 1)) :=
      isAscii_cons.2 ⟨by decide, isAscii_newLine _⟩
    simp only [List.cons_append, isAscii_cons, isAscii_append]
    exact ⟨first, ⟨⟨isAscii_newLine _, isAscii_separated comma each⟩, isAscii_newLine _⟩,
      isAscii_cons.1 last⟩

theorem isAscii_prettyChars {v : Json} (exact : v.Exact) (level : Nat) :
    IsAscii (prettyChars level v) := by
  induction exact generalizing level with
  | null =>
    unfold prettyChars
    exact isAscii_of_all (by decide)
  | bool b =>
    cases b <;>
    · unfold prettyChars
      exact isAscii_of_all (by decide)
  | int => exact isAscii_toString _
  | str s => exact isAscii_stringText s
  | arr _ ih =>
    rw [prettyChars, prettyItems_eq_map]
    refine isAscii_block (isAscii_of_all (by decide)) fun t mem => ?_
    obtain ⟨v, here, rfl⟩ := List.mem_map.1 mem
    exact ih v here (level + 1)
  | obj _ ih =>
    rw [prettyChars, prettyFields_eq_map, sortFields_map]
    refine isAscii_block (isAscii_of_all (by decide)) fun t mem => ?_
    obtain ⟨f, there, rfl⟩ := List.mem_map.1 mem
    obtain ⟨g, here, rfl⟩ := List.mem_map.1 there
    have colon : IsAscii [':', ' '] := isAscii_of_all (by decide)
    refine isAscii_append.2 ⟨isAscii_append.2 ⟨isAscii_stringText _, colon⟩, ?_⟩
    exact ih g (mem_sortFields.1 here) (level + 1)

end Json

end ContentBlocker
