import ContentBlocker.Proofs.Json.Layout
import Mathlib.Data.List.TakeDrop

/-!
# Whole numbers in documents

A whole number is written with its decimal digits, behind a sign if it is negative, and is read back
unless it has too many of them.
-/

namespace ContentBlocker.Json

/-! ## Digits -/

theorem spanDigits_append {ds rest : List Char} (digits : ∀ c ∈ ds, c.isDigit = true)
    (closes : Closes rest) : spanDigits (ds ++ rest) = (ds, rest) := by
  have stops : rest.takeWhile Char.isDigit = [] ∧ rest.dropWhile Char.isDigit = rest := by
    cases rest with
    | nil => exact ⟨rfl, rfl⟩
    | cons c rest => rcases closes c rfl with rfl | rfl <;> exact ⟨rfl, rfl⟩
  rw [spanDigits, List.span_eq_takeWhile_dropWhile, List.takeWhile_append_of_pos digits,
    List.dropWhile_append_of_pos digits, stops.1, stops.2, List.append_nil]

theorem isDigit_toDigits {n : Nat} : ∀ c ∈ Nat.toDigits 10 n, c.isDigit = true :=
  fun _ => Nat.isDigit_of_mem_toDigits (by decide) (by decide)

/-- The digits of a number other than zero do not start with a zero. -/
theorem exists_cons_toDigits {n : Nat} (positive : 0 < n) :
    ∃ c ds, Nat.toDigits 10 n = c :: ds ∧ c ≠ '0' := by
  induction n using Nat.strongRecOn with
  | ind n ih =>
    by_cases small : n < 10
    · refine ⟨n.digitChar, [], Nat.toDigits_of_lt_base small, ?_⟩
      have digit : ∀ d < 10, 0 < d → d.digitChar ≠ '0' := by decide
      exact digit n small positive
    · obtain ⟨c, ds, eq, nonzero⟩ := ih (n / 10) (by omega) (by omega)
      refine ⟨c, ds ++ [(n % 10).digitChar], ?_, nonzero⟩
      rw [Nat.toDigits_of_base_le (by decide) (by omega), eq]
      rfl

theorem digitsValue_toDigits (n : Nat) : digitsValue (Nat.toDigits 10 n) = n := by
  have same (s : List Char) : digitsValue s = Nat.ofDigitChars 10 s 0 := by
    rw [digitsValue, Nat.ofDigitChars_eq_foldl]
    congr
    funext m c
    rw [Nat.mul_comm]
    rfl
  rw [same, Nat.ofDigitChars_ten_toDigits]

theorem wholeDigits_toDigits (n : Nat) {rest : List Char} (closes : Closes rest) :
    wholeDigits (Nat.toDigits 10 n ++ rest) = (Nat.toDigits 10 n, rest) := by
  rcases Nat.eq_zero_or_pos n with rfl | positive
  · rfl
  · obtain ⟨c, ds, eq, nonzero⟩ := exists_cons_toDigits positive
    have span : spanDigits (Nat.toDigits 10 n ++ rest) = (Nat.toDigits 10 n, rest) :=
      spanDigits_append isDigit_toDigits closes
    rw [eq] at span ⊢
    simpa [wholeDigits, nonzero] using span

/-! ## Numbers -/

theorem number_toDigits {bound n : Nat} (short : (Nat.toDigits 10 n).length ≤ bound)
    (start : List Char) (negative : Bool) {rest : List Char} (closes : Closes rest) :
    number (some bound) start negative (Nat.toDigits 10 n ++ rest) =
      .ok (.int (if negative then -n else n), rest) := by
  have point : fraction rest = ([], rest) ∧ exponent? rest = none := by
    cases rest with
    | nil => exact ⟨rfl, rfl⟩
    | cons c rest => rcases closes c rfl with rfl | rfl <;> exact ⟨rfl, rfl⟩
  obtain ⟨c, ds, digits⟩ := List.exists_cons_of_ne_nil (Nat.toDigits_ne_nil (n := n) (b := 10))
  have value := digitsValue_toDigits n
  unfold number
  rw [wholeDigits_toDigits n closes]
  rw [digits] at short value ⊢
  simp only [point.1, point.2, value, if_neg (Nat.not_lt_of_le short)]

theorem scalar_digit {c : Char} (digit : c.isDigit = true) (bound : Option Nat) (size : Nat)
    (s : List Char) : scalar bound size (c :: s) = number bound (c :: s) false (c :: s) := by
  have other (d : Char) (h : d.isDigit = false) : c ≠ d := by
    rintro rfl
    simp [digit] at h
  simp [scalar, other]

theorem toList_toString (n : Int) :
    (toString n).toList =
      if 0 ≤ n then Nat.toDigits 10 n.natAbs else '-' :: Nat.toDigits 10 n.natAbs := by
  rw [Int.toString_eq_repr, Int.repr_eq_if]
  split
  · rw [Nat.toList_repr, show n.toNat = n.natAbs by omega]
  · rw [String.toList_append, Nat.toList_repr, show (-n).toNat = n.natAbs by omega]
    rfl

/-- The text of a whole number starts with a sign or a digit. -/
theorem exists_cons_toString (n : Int) :
    ∃ c s, (toString n).toList = c :: s ∧ ∀ d, d ≠ '-' → d.isDigit = false → c ≠ d := by
  rw [toList_toString]
  split
  · obtain ⟨c, ds, digits⟩ :=
      List.exists_cons_of_ne_nil (Nat.toDigits_ne_nil (n := n.natAbs) (b := 10))
    have digit : c.isDigit = true := isDigit_toDigits (n := n.natAbs) c (by simp [digits])
    refine ⟨c, ds, digits, fun d _ other => ?_⟩
    rintro rfl
    simp [digit] at other
  · exact ⟨_, _, rfl, fun d sign _ => sign.symm⟩

/-- A whole number that was written is read back. -/
theorem scalar_int {bound : Nat} {n : Int} (short : (Nat.toDigits 10 n.natAbs).length ≤ bound)
    (size : Nat) {rest : List Char} (closes : Closes rest) :
    scalar (some bound) size ((toString n).toList ++ rest) = .ok (.int n, rest) := by
  obtain ⟨c, ds, digits⟩ :=
    List.exists_cons_of_ne_nil (Nat.toDigits_ne_nil (n := n.natAbs) (b := 10))
  have digit : c.isDigit = true := isDigit_toDigits (n := n.natAbs) c (by simp [digits])
  have read (start : List Char) (negative : Bool) := number_toDigits short start negative closes
  rw [digits] at read
  rw [toList_toString, digits]
  split
  · rename_i positive
    have value : (if false = true then -(n.natAbs : Int) else n.natAbs) = n := by
      rw [if_neg Bool.false_ne_true]
      omega
    rw [List.cons_append, scalar_digit digit, ← List.cons_append, read, value]
  · rename_i negative
    have letter : c ≠ 'I' := by
      rintro rfl
      cases digit
    have signed : afterWord? ['I', 'n', 'f', 'i', 'n', 'i', 't', 'y'] (c :: ds ++ rest) = none := by
      simp [afterWord?, letter.symm]
    have value : -(n.natAbs : Int) = n := by omega
    rw [List.cons_append]
    simp only [scalar, signed, read, if_true, value]

end ContentBlocker.Json
