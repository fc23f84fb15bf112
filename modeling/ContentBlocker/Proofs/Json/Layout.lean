import ContentBlocker.Proofs.Json.Strings

/-!
# Reading the layout of documents

Documents put every element and field on a line of its own.  `elements_separated` and
`fields_separated` read such lines, if the text of each value is read back with whatever may stand
behind it in a document.
-/

namespace ContentBlocker.Json

/-! ## What stands behind and before values -/

/-- What can stand behind a value of a document: nothing, a comma or a line break. -/
def Closes (rest : List Char) : Prop := ∀ c, rest.head? = some c → c = ',' ∨ c = '\n'

/-- The text starts with a character that is not skipped. -/
def Starts (s : List Char) : Prop := ∃ c t, s = c :: t ∧ isJsonBlank c = false

theorem closes_nil : Closes [] := by
  intro c h
  cases h

theorem closes_comma (rest : List Char) : Closes (',' :: rest) := by
  intro c h
  cases h
  exact .inl rfl

theorem closes_newLine (level : Nat) (rest : List Char) : Closes (newLine level ++ rest) := by
  intro c h
  cases h
  exact .inr rfl

theorem Starts.append {s : List Char} (h : Starts s) (rest : List Char) : Starts (s ++ rest) := by
  obtain ⟨c, t, rfl, blank⟩ := h
  exact ⟨c, t ++ rest, rfl, blank⟩

theorem skipBlanks_of_starts {s : List Char} (h : Starts s) : skipBlanks s = s := by
  obtain ⟨c, t, rfl, blank⟩ := h
  simp [skipBlanks, blank]

theorem skipBlanks_newLine (level : Nat) (s : List Char) :
    skipBlanks (newLine level ++ s) = skipBlanks s := by
  have blanks (n : Nat) : skipBlanks (List.replicate n ' ' ++ s) = skipBlanks s := by
    induction n with
    | zero => rfl
    | succ n ih => exact ih
  exact blanks _

/-! ## Separated texts -/

section Separated

variable (separator : List Char)

theorem separated_singleton (t : List Char) : separated separator [t] = t := by
  simp [separated]

theorem separated_cons_cons (t u : List Char) (texts : List (List Char)) :
    separated separator (t :: u :: texts) = t ++ separator ++ separated separator (u :: texts) := by
  simp [separated]

theorem length_le_separated {t : List Char} {texts : List (List Char)} (mem : t ∈ texts) :
    t.length ≤ (separated separator texts).length := by
  induction texts with
  | nil => cases mem
  | cons u texts ih =>
    cases texts with
    | nil =>
      rw [← List.mem_singleton.1 mem]
      exact Nat.le_of_eq (congrArg List.length (separated_singleton separator t).symm)
    | cons v texts =>
      rw [separated_cons_cons, List.length_append, List.length_append]
      rcases List.mem_cons.1 mem with rfl | mem
      · omega
      · have := ih mem
        omega

theorem count_le_separated {texts : List (List Char)} (some : ∀ t ∈ texts, 0 < t.length) :
    texts.length ≤ (separated separator texts).length := by
  induction texts with
  | nil => exact Nat.zero_le _
  | cons u texts ih =>
    have first := some u List.mem_cons_self
    cases texts with
    | nil =>
      rw [separated_singleton]
      exact first
    | cons v texts =>
      have := ih fun t mem => some t (List.mem_cons_of_mem u mem)
      rw [separated_cons_cons, List.length_append, List.length_append, List.length_cons]
      omega

theorem exists_separated_cons (c : Char) (t : List Char) (texts : List (List Char)) :
    ∃ more, separated separator ((c :: t) :: texts) = c :: more := by
  cases texts with
  | nil => exact ⟨t, separated_singleton ..⟩
  | cons u texts =>
    exact ⟨t ++ separator ++ separated separator (u :: texts), separated_cons_cons ..⟩

theorem starts_separated {t : List Char} {texts : List (List Char)} (starts : Starts t) :
    Starts (separated separator (t :: texts)) := by
  obtain ⟨c, t, rfl, blank⟩ := starts
  obtain ⟨more, eq⟩ := exists_separated_cons separator c t texts
  exact ⟨c, more, eq, blank⟩

end Separated

/-! ## Elements -/

/-- The reader reads a text as a value, with whatever may stand behind it. -/
def Reads (value : List Char → Step Json) (text : List Char) (v : Json) : Prop :=
  ∀ rest, Closes rest → value (text ++ rest) = .ok (v, rest)

theorem elements_separated {value : List Char → Step Json} (level outer : Nat)
    {pairs : List (List Char × Json)} (some : pairs ≠ [])
    (reads : ∀ p ∈ pairs, Reads value p.1 p.2) (starts : ∀ p ∈ pairs, Starts p.1) {fuel : Nat}
    (enough : pairs.length ≤ fuel) (done : List Json) (rest : List Char) :
    elements value fuel done (separated (',' :: newLine level) (pairs.map (·.1)) ++
        (newLine outer ++ ']' :: rest)) =
      .ok ((pairs.map (·.2)).reverse ++ done, rest) := by
  induction pairs generalizing fuel done with
  | nil => exact absurd rfl some
  | cons p pairs ih =>
    obtain ⟨fuel, rfl⟩ := Nat.exists_eq_succ_of_ne_zero (Nat.ne_zero_of_lt enough)
    have read := reads p List.mem_cons_self
    cases pairs with
    | nil =>
      have blanks : skipBlanks (newLine outer ++ ']' :: rest) = ']' :: rest :=
        (skipBlanks_newLine ..).trans rfl
      simp only [List.map_cons, List.map_nil, separated_singleton, elements,
        read _ (closes_newLine _ _), blanks]
      rfl
    | cons q pairs =>
      have next := ih (by simp) (fun r mem => reads r (List.mem_cons_of_mem p mem))
        (fun r mem => starts r (List.mem_cons_of_mem p mem)) (Nat.le_of_succ_le_succ enough)
        (p.2 :: done)
      have first : Starts (separated (',' :: newLine level) ((q :: pairs).map (·.1)) ++
          (newLine outer ++ ']' :: rest)) :=
        (starts_separated _ (starts q (by simp))).append _
      have text : separated (',' :: newLine level) ((p :: q :: pairs).map (·.1)) ++
          (newLine outer ++ ']' :: rest) = p.1 ++ ',' :: (newLine level ++
            (separated (',' :: newLine level) ((q :: pairs).map (·.1)) ++
              (newLine outer ++ ']' :: rest))) := by
        simp only [List.map_cons, separated_cons_cons, List.append_assoc, List.cons_append]
      have comma (s : List Char) : skipBlanks (',' :: s) = ',' :: s := rfl
      rw [text]
      simp only [elements, read _ (closes_comma _), comma, skipBlanks_newLine,
        skipBlanks_of_starts first, next]
      simp

/-! ## Fields -/

/-- The line of a field. -/
def fieldText (key : Text) (text : List Char) : List Char := stringText key ++ [':', ' '] ++ text

theorem starts_fieldText (key : Text) (text : List Char) : Starts (fieldText key text) :=
  ⟨'"', key.flatMap escapedOne ++ ['"'] ++ [':', ' '] ++ text, by simp [fieldText, stringText], rfl⟩

theorem length_lt_fieldText (key : Text) (text : List Char) :
    key.length + text.length < (fieldText key text).length := by
  have := length_le_flatMap key
  simp only [fieldText, stringText, List.length_append, List.length_cons]
  omega

/-- Sets fields on top of others, with their keys as they are read. -/
def setAll (done : Fields) (found : List (Text × Json)) : Fields :=
  found.foldl (fun done f => done.set f.1.rejoined f.2) done

theorem fields_separated {value : List Char → Step Json} (level outer : Nat) {size : Nat}
    {triples : List (Text × List Char × Json)} (some : triples ≠ [])
    (reads : ∀ f ∈ triples, Reads value f.2.1 f.2.2) (starts : ∀ f ∈ triples, Starts f.2.1)
    (keys : ∀ f ∈ triples, f.1.length < size) {fuel : Nat} (enough : triples.length ≤ fuel)
    (done : Fields) (rest : List Char) :
    Json.fields value size fuel done
        (separated (',' :: newLine level) (triples.map fun f => fieldText f.1 f.2.1) ++
          (newLine outer ++ '\x7d' :: rest)) =
      .ok (setAll done (triples.map fun f => (f.1, f.2.2)), rest) := by
  induction triples generalizing fuel done with
  | nil => exact absurd rfl some
  | cons f triples ih =>
    obtain ⟨fuel, rfl⟩ := Nat.exists_eq_succ_of_ne_zero (Nat.ne_zero_of_lt enough)
    have read := reads f List.mem_cons_self
    have key := string_stringText f.1 (keys f List.mem_cons_self)
    have field (s : List Char) : fieldText f.1 f.2.1 ++ s =
        '"' :: (f.1.flatMap escapedOne ++ '"' :: ':' :: ' ' :: (f.2.1 ++ s)) := by
      simp [fieldText, stringText]
    have colon (s : List Char) : skipBlanks (':' :: s) = ':' :: s := rfl
    have blank (s : List Char) : skipBlanks (' ' :: s) = skipBlanks s := rfl
    have body (s : List Char) : skipBlanks (f.2.1 ++ s) = f.2.1 ++ s :=
      skipBlanks_of_starts ((starts f List.mem_cons_self).append s)
    cases triples with
    | nil =>
      have blanks : skipBlanks (newLine outer ++ '\x7d' :: rest) = '\x7d' :: rest :=
        (skipBlanks_newLine ..).trans rfl
      simp only [List.map_cons, List.map_nil, separated_singleton, field, Json.fields, key, colon,
        blank, body, read _ (closes_newLine _ _), blanks]
      rfl
    | cons g triples =>
      have next := ih (by simp) (fun r mem => reads r (List.mem_cons_of_mem f mem))
        (fun r mem => starts r (List.mem_cons_of_mem f mem))
        (fun r mem => keys r (List.mem_cons_of_mem f mem)) (Nat.le_of_succ_le_succ enough)
        (done.set f.1.rejoined f.2.2)
      have first : Starts (separated (',' :: newLine level)
          ((g :: triples).map fun f => fieldText f.1 f.2.1) ++ (newLine outer ++ '\x7d' :: rest)) :=
        (starts_separated _ (starts_fieldText ..)).append _
      have text : separated (',' :: newLine level)
          ((f :: g :: triples).map fun f => fieldText f.1 f.2.1) ++
            (newLine outer ++ '\x7d' :: rest) =
          fieldText f.1 f.2.1 ++ ',' :: (newLine level ++ (separated (',' :: newLine level)
            ((g :: triples).map fun f => fieldText f.1 f.2.1) ++
              (newLine outer ++ '\x7d' :: rest))) := by
        simp only [List.map_cons, separated_cons_cons, List.append_assoc, List.cons_append]
      have comma (s : List Char) : skipBlanks (',' :: s) = ',' :: s := rfl
      rw [text]
      simp only [field, Json.fields, key, colon, blank, body, read _ (closes_comma _), comma,
        skipBlanks_newLine, skipBlanks_of_starts first, next]
      rfl

end ContentBlocker.Json
