import ContentBlocker.Json.Printer
import ContentBlocker.Json.Reader

/-!
# Strings in documents

A string that was written is read back up to surrogates: a high half that is followed by a low half
becomes the code point of the pair, as `Text.rejoined` has it.  `string_stringText` says so for the
text of a string with anything behind it.
-/

namespace ContentBlocker

open Json

/-! ## Surrogates -/

/-- A text with the halves of surrogate pairs that stand together joined. -/
def Text.rejoined : Text → Text
  | p :: q :: rest =>
    if isHighSurrogate p.toNat && isLowSurrogate q.toNat then
      paired p.toNat q.toNat :: rejoined rest
    else p :: rejoined (q :: rest)
  | [p] => [p]
  | [] => []

/-- A text without surrogates stays as it is. -/
theorem Text.rejoined_of_plain {s : Text} (plain : ∀ p ∈ s, isHighSurrogate p.toNat = false) :
    s.rejoined = s := by
  fun_induction Text.rejoined s with
  | case1 p q rest pair ih => simp [plain p] at pair
  | case2 p q rest _ ih => rw [ih fun r mem => plain r (List.mem_cons_of_mem p mem)]
  | case3 | case4 => rfl

/-- Strings have no surrogates. -/
theorem Text.rejoined_ofString (s : String) : (Text.ofString s).rejoined = s := by
  refine Text.rejoined_of_plain fun p mem => ?_
  obtain ⟨c, -, rfl⟩ := List.mem_map.1 mem
  have valid : c.toNat < 0xD800 ∨ 0xDFFF < c.toNat ∧ c.toNat < 0x110000 := c.valid
  have outside : ¬ (0xD800 ≤ c.toNat ∧ c.toNat < 0xDC00) := by omega
  change (decide (0xD800 ≤ c.toNat) && decide (c.toNat < 0xDC00)) = false
  simpa using outside

theorem Text.rejoined_eq_nil {s : Text} : s.rejoined = [] ↔ s = [] := by
  unfold Text.rejoined
  split
  · split <;> simp
  · simp
  · simp

namespace Text

/-- A text in ASCII. -/
def IsAscii (s : Text) : Prop := ∀ p ∈ s, p.toNat < 128

instance (s : Text) : Decidable s.IsAscii := inferInstanceAs (Decidable (∀ p ∈ s, p.toNat < 128))

theorem IsAscii.rejoined {s : Text} (ascii : s.IsAscii) : s.rejoined = s := by
  refine rejoined_of_plain fun p mem => ?_
  have small := ascii p mem
  have outside : ¬ (0xD800 ≤ p.toNat ∧ p.toNat < 0xDC00) := by omega
  simpa [isHighSurrogate] using outside

/-- Joining surrogates gives no text in ASCII unless there are none. -/
theorem isAscii_rejoined {s : Text} : s.rejoined.IsAscii ↔ s.IsAscii := by
  constructor
  · intro ascii
    fun_induction Text.rejoined s with
    | case1 p q rest pair ih =>
      have wide : 128 ≤ (paired p.toNat q.toNat).toNat := by
        unfold paired CodePoint.ofNat
        split
        · simp only
          omega
        · decide
      have small := ascii _ List.mem_cons_self
      omega
    | case2 p q rest _ ih =>
      obtain ⟨first, ascii⟩ := List.forall_mem_cons.1 ascii
      exact List.forall_mem_cons.2 ⟨first, ih ascii⟩
    | case3 | case4 => exact ascii
  · intro ascii
    rwa [ascii.rejoined]

end Text

namespace Json

theorem ofNat_toNat (p : CodePoint) : CodePoint.ofNat p.toNat = p := by
  simp [CodePoint.ofNat, p.toNat_lt]

theorem paired_units {p : CodePoint} (wide : 0x10000 ≤ p.toNat) :
    paired (0xD800 + (p.toNat - 0x10000) / 0x400) (0xDC00 + (p.toNat - 0x10000) % 0x400) = p := by
  have h : 0x10000 + (0xD800 + (p.toNat - 0x10000) / 0x400 - 0xD800) * 0x400 +
      (0xDC00 + (p.toNat - 0x10000) % 0x400 - 0xDC00) = p.toNat := by omega
  rw [paired, h, ofNat_toNat]

/-! ## Units -/

theorem hexValue?_digitChar : ∀ d < 16, Text.hexValue? (Nat.digitChar d) = some d := by decide

theorem fourHex?_hex {n : Nat} (small : n < 0x10000) (c : Char) (rest : List Char) :
    fourHex? (Text.hex 4 n ++ c :: rest) = some (n, c :: rest) := by
  have digits : Text.hex 4 n =
      [Nat.digitChar (n / 4096 % 16), Nat.digitChar (n / 256 % 16), Nat.digitChar (n / 16 % 16),
        Nat.digitChar (n % 16)] := by
    simp [Text.hex, List.range, List.range.loop]
  have value (m : Nat) : Text.hexValue? (Nat.digitChar (m % 16)) = some (m % 16) :=
    hexValue?_digitChar _ (Nat.mod_lt _ (by decide))
  have whole : ((n / 4096 % 16 * 16 + n / 256 % 16) * 16 + n / 16 % 16) * 16 + n % 16 = n := by
    omega
  simp only [digits, List.cons_append, List.nil_append, fourHex?, value, Option.bind_eq_bind,
    Option.bind_some, whole]
  rfl

/-- The text does not go on with the escape of a low half. -/
def NotLow (s : List Char) : Prop :=
  ∀ low, s = '\\' :: 'u' :: low → ∃ n rest, fourHex? low = some (n, rest) ∧ isLowSurrogate n = false

theorem unicodeEscape_unit {n : Nat} (small : n < 0x10000) {c : Char} {rest : List Char}
    (alone : isHighSurrogate n = true → NotLow (c :: rest)) :
    unicodeEscape (Text.hex 4 n ++ c :: rest) = .ok (.ofNat n, c :: rest) := by
  unfold unicodeEscape
  rw [fourHex?_hex small]
  dsimp only
  split
  · rename_i high
    split
    · rename_i low eq
      obtain ⟨m, rest', read, other⟩ := alone high low eq
      rw [read]
      simp [other, eq]
    · rfl
  · rfl

theorem unicodeEscape_pair {high low : Nat} (isHigh : isHighSurrogate high = true)
    (isLow : isLowSurrogate low = true) (c : Char) (rest : List Char) :
    unicodeEscape (Text.hex 4 high ++ unitEscape low ++ c :: rest) =
      .ok (paired high low, c :: rest) := by
  have smallHigh : high < 0x10000 := by simp [isHighSurrogate] at isHigh; omega
  have smallLow : low < 0x10000 := by simp [isLowSurrogate] at isLow; omega
  have shape : Text.hex 4 high ++ unitEscape low ++ c :: rest =
      Text.hex 4 high ++ '\\' :: 'u' :: (Text.hex 4 low ++ c :: rest) := by
    simp [unitEscape]
  rw [shape]
  unfold unicodeEscape
  rw [fourHex?_hex smallHigh]
  simp only [isHigh, if_true, fourHex?_hex smallLow, isLow]

/-! ## Code points -/

theorem ofChar_char {p : CodePoint} (valid : p.toNat.isValidChar) :
    CodePoint.ofChar p.char = p := by
  have char : p.char = Char.ofNat p.toNat := by simp [CodePoint.char, CodePoint.char?, valid]
  have toNat : (Char.ofNat p.toNat).toNat = p.toNat := by
    rw [Char.ofNat, dif_pos valid]
    rfl
  cases p
  simp only [char, CodePoint.ofChar, toNat]

/-- A code point that is shown as a character is that character, unless it was replaced. -/
theorem eq_ofChar_of_char {p : CodePoint} {c : Char} (shown : p.char = c) (kept : c ≠ '\ufffd') :
    p = CodePoint.ofChar c := by
  by_cases valid : p.toNat.isValidChar
  · rw [← shown, ofChar_char valid]
  · have replaced : p.char = '\ufffd' := by simp [CodePoint.char, CodePoint.char?, valid]
    exact absurd (shown.symm.trans replaced) kept

variable (opening : List Char) (fuel : Nat) (done : Text)

theorem stringBody_unicode {s rest : List Char} {p : CodePoint}
    (read : unicodeEscape s = .ok (p, rest)) :
    stringBody opening (fuel + 1) done ('\\' :: 'u' :: s) =
      stringBody opening fuel (p :: done) rest := by
  rw [stringBody, read]

theorem stringBody_char {c : Char} (quote : c ≠ '"') (slash : c ≠ '\\') (printed : 32 ≤ c.toNat)
    (rest : List Char) :
    stringBody opening (fuel + 1) done (c :: rest) = stringBody opening fuel (c :: done) rest := by
  have : ¬ c.toNat < 32 := by omega
  simp [stringBody, slash, this]

/-- A code point that was written is read back, unless it is half of a pair. -/
theorem stringBody_escapedOne {p : CodePoint} {c : Char} {rest : List Char}
    (alone : isHighSurrogate p.toNat = true → NotLow (c :: rest)) :
    stringBody opening (fuel + 1) done (escapedOne p ++ c :: rest) =
      stringBody opening fuel (p :: done) (c :: rest) := by
  unfold escapedOne
  split
  · rename_i eq; subst eq; rfl
  split
  · rename_i eq; subst eq; rfl
  split
  · rename_i eq; subst eq; rfl
  split
  · rename_i eq; subst eq; rfl
  split
  · rename_i eq; subst eq; rfl
  split
  · rename_i eq; subst eq; rfl
  split
  · rename_i eq; subst eq; rfl
  split
  · rename_i quote slash _ _ _ _ _ printed
    have valid : p.toNat.isValidChar := .inl (by omega)
    have char := ofChar_char valid
    have same : p.char.toNat = p.toNat := congrArg CodePoint.toNat char
    rw [List.singleton_append, stringBody_char, char]
    · intro eq
      exact quote (by rw [← char, eq])
    · intro eq
      exact slash (by rw [← char, eq])
    · omega
  split
  · rename_i small
    have read := unicodeEscape_unit small alone
    rw [ofNat_toNat] at read
    exact stringBody_unicode opening fuel done read
  · rename_i wide
    have isHigh : isHighSurrogate (0xD800 + (p.toNat - 0x10000) / 0x400) = true := by
      have := p.toNat_lt
      simp [isHighSurrogate]
      omega
    have isLow : isLowSurrogate (0xDC00 + (p.toNat - 0x10000) % 0x400) = true := by
      simp [isLowSurrogate]
      omega
    have read := unicodeEscape_pair isHigh isLow c rest
    rw [paired_units (Nat.le_of_not_lt wide)] at read
    exact stringBody_unicode opening fuel done read

/-- What was written of a code point that is no low half does not go on with one. -/
theorem notLow_escapedOne {q : CodePoint} (other : isLowSurrogate q.toNat = false) (c : Char)
    (rest : List Char) : NotLow (escapedOne q ++ c :: rest) := by
  intro low eq
  unfold escapedOne at eq
  split at eq
  · cases eq
  split at eq
  · cases eq
  split at eq
  · cases eq
  split at eq
  · cases eq
  split at eq
  · cases eq
  split at eq
  · cases eq
  split at eq
  · cases eq
  split at eq
  · rename_i slash _ _ _ _ _ printed
    have char := ofChar_char (p := q) (.inl (by omega))
    injection eq with same
    exact absurd (by rw [← char, same]) slash
  split at eq
  · rename_i small
    simp only [unitEscape, List.cons_append, List.cons.injEq, true_and] at eq
    exact ⟨q.toNat, _, eq ▸ fourHex?_hex small c rest, other⟩
  · have small : 0xD800 + (q.toNat - 0x10000) / 0x400 < 0x10000 := by
      have := q.toNat_lt
      omega
    simp only [unitEscape, List.cons_append, List.append_assoc, List.cons.injEq, true_and] at eq
    refine ⟨_, _, eq ▸ fourHex?_hex small '\\' _, ?_⟩
    have := q.toNat_lt
    simp [isLowSurrogate]
    omega

theorem escapedOne_surrogate {p : CodePoint} (lower : 0xD800 ≤ p.toNat) (upper : p.toNat < 0xE000) :
    escapedOne p = unitEscape p.toNat := by
  have other (c : Char) (small : c.toNat < 0xD800) : p ≠ CodePoint.ofChar c := by
    rintro rfl
    simp only [CodePoint.ofChar] at lower
    omega
  unfold escapedOne
  rw [if_neg (other _ (by decide)), if_neg (other _ (by decide)), if_neg (other _ (by decide)),
    if_neg (other _ (by decide)), if_neg (other _ (by decide)), if_neg (other _ (by decide)),
    if_neg (other _ (by decide)), if_neg (by omega), if_pos (by omega)]

/-! ## Strings -/

theorem stringBody_quote {fuel : Nat} (positive : 0 < fuel) (rest : List Char) :
    stringBody opening fuel done ('"' :: rest) = .ok (done, rest) := by
  obtain ⟨fuel, rfl⟩ := Nat.exists_eq_succ_of_ne_zero (Nat.ne_of_gt positive)
  rfl

/-- The text of a string goes on at least with its closing quote. -/
theorem exists_cons_flatMap (s : Text) (rest : List Char) :
    ∃ c more, s.flatMap escapedOne ++ '"' :: rest = c :: more :=
  List.exists_cons_of_ne_nil (by simp)

theorem stringBody_flatMap (s : Text) {fuel : Nat} (enough : s.length < fuel) (done : Text)
    (rest : List Char) :
    stringBody opening fuel done (s.flatMap escapedOne ++ '"' :: rest) =
      .ok (s.rejoined.reverse ++ done, rest) := by
  fun_induction Text.rejoined s generalizing fuel done with
  | case1 p q s pair ih =>
    obtain ⟨fuel, rfl⟩ := Nat.exists_eq_succ_of_ne_zero (Nat.ne_zero_of_lt enough)
    obtain ⟨high, low⟩ := Bool.and_eq_true_iff.1 pair
    obtain ⟨c, more, next⟩ := exists_cons_flatMap s rest
    have read := unicodeEscape_pair high low c more
    simp [isHighSurrogate] at high
    simp [isLowSurrogate] at low
    have text : (p :: q :: s).flatMap escapedOne ++ '"' :: rest =
        '\\' :: 'u' :: (Text.hex 4 p.toNat ++ unitEscape q.toNat ++ c :: more) := by
      rw [← next]
      simp only [List.flatMap_cons, escapedOne_surrogate (p := p) (by omega) (by omega),
        escapedOne_surrogate (p := q) (by omega) (by omega)]
      simp [unitEscape]
    rw [text, stringBody_unicode opening fuel done read, ← next, ih]
    · simp
    · simp only [List.length_cons] at enough
      omega
  | case2 p q s pair ih =>
    obtain ⟨fuel, rfl⟩ := Nat.exists_eq_succ_of_ne_zero (Nat.ne_zero_of_lt enough)
    obtain ⟨c, more, next⟩ := exists_cons_flatMap (q :: s) rest
    have alone (high : isHighSurrogate p.toNat = true) : NotLow (c :: more) := by
      have other : isLowSurrogate q.toNat = false := by simpa [high] using pair
      obtain ⟨c', more', tail⟩ := exists_cons_flatMap s rest
      rw [← next, List.flatMap_cons, List.append_assoc, tail]
      exact notLow_escapedOne other c' more'
    rw [List.flatMap_cons, List.append_assoc, next, stringBody_escapedOne opening fuel done alone,
      ← next, ih]
    · simp
    · simp only [List.length_cons] at enough ⊢
      omega
  | case3 p =>
    obtain ⟨fuel, rfl⟩ := Nat.exists_eq_succ_of_ne_zero (Nat.ne_zero_of_lt enough)
    have alone (_ : isHighSurrogate p.toNat = true) : NotLow ('"' :: rest) := by
      intro low eq
      cases eq
    have text : [p].flatMap escapedOne ++ '"' :: rest = escapedOne p ++ '"' :: rest := by simp
    rw [text, stringBody_escapedOne opening fuel done alone, stringBody_quote]
    · rfl
    · simp only [List.length_singleton] at enough
      omega
  | case4 => exact stringBody_quote opening done enough rest

/-- A string that was written is read back with its surrogate pairs joined. -/
theorem string_stringText (s : Text) {size : Nat} (enough : s.length < size) (rest : List Char) :
    string size (s.flatMap escapedOne ++ '"' :: rest) = .ok (s.rejoined, rest) := by
  rw [string, stringBody_flatMap _ s enough]
  simp

/-- The text of a string is at least as long as the string. -/
theorem length_le_flatMap (s : Text) : s.length ≤ (s.flatMap escapedOne).length := by
  have one (p : CodePoint) : 0 < (escapedOne p).length := by
    unfold escapedOne
    repeat' split
    all_goals simp [unitEscape]
  induction s with
  | nil => exact Nat.le_refl _
  | cons p s ih =>
    rw [List.flatMap_cons, List.length_append, List.length_cons]
    have := one p
    omega

end Json

end ContentBlocker
