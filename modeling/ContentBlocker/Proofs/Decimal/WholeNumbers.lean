import ContentBlocker.Defect

/-!
# Whole numbers as floating-point numbers

A whole number below `2 ^ 53` is a floating-point number, so that nothing is lost where another is
compared with it: `exists_real_int`.
-/

namespace ContentBlocker

namespace Binary64

theorem roundQuotient_one (n : Nat) : roundQuotient n 1 = n := by
  simp [roundQuotient, Nat.mod_one]

theorem binaryExponent_one {n : Nat} (positive : 0 < n) : binaryExponent n 1 = n.log2 := by
  have least : 2 ^ n.log2 ≤ n := Nat.log2_self_le (by omega)
  have one : Nat.log2 1 = 0 := by decide
  simp [binaryExponent, one, least]

/-- A whole number below `2 ^ 53` keeps all its bits. -/
theorem ofFraction_one (negative : Bool) {n : Nat} (positive : 0 < n) (small : n < Nat.pow 2 53) :
    ofFraction negative n 1 = finite negative (n * Nat.pow 2 (52 - n.log2)) (n.log2 - 52) := by
  have bits : n.log2 < 53 := (Nat.log2_lt (by omega)).2 small
  have exponent : max (binaryExponent n 1 - 52) (-1074) = (n.log2 : Int) - 52 := by
    rw [binaryExponent_one positive]
    omega
  have up : (-((n.log2 : Int) - 52)).toNat = 52 - n.log2 := by omega
  have down : ((n.log2 : Int) - 52).toNat = 0 := by omega
  have below : n * 2 ^ (52 - n.log2) < 2 ^ 53 := by
    have top : n < 2 ^ (n.log2 + 1) := Nat.lt_log2_self
    have whole : n.log2 + 1 + (52 - n.log2) = 53 := by omega
    calc n * 2 ^ (52 - n.log2)
      _ < 2 ^ (n.log2 + 1) * 2 ^ (52 - n.log2) :=
        Nat.mul_lt_mul_of_pos_right top (Nat.two_pow_pos _)
      _ = 2 ^ 53 := by rw [← Nat.pow_add, whole]
  -- all bits fit, so that the quotient is whole and is not rounded
  have rounded : roundQuotient (n * Nat.pow 2 (52 - n.log2)) (1 * Nat.pow 2 0) =
      n * 2 ^ (52 - n.log2) := roundQuotient_one _
  have carries : n * 2 ^ (52 - n.log2) ≠ Nat.pow 2 53 := Nat.ne_of_lt below
  unfold ofFraction
  simp only [exponent, up, down, rounded, if_neg carries]
  exact if_neg (by omega)

theorem exceeds_scaled (negative : Bool) (n e : Nat) (k : Int) :
    (finite negative (n * Nat.pow 2 e) (-e)).exceeds k =
      decide (k < if negative then -(n : Int) else n) := by
  have up : (- -(e : Int)).toNat = e := by omega
  have down : (-(e : Int)).toNat = 0 := by omega
  have scale : (0 : Int) < (2 ^ e : Nat) := Int.natCast_pos.2 (Nat.two_pow_pos e)
  have signed : (if negative then -((n * 2 ^ e : Nat) : Int) else (n * 2 ^ e : Nat)) =
      (if negative then -(n : Int) else n) * (2 ^ e : Nat) := by
    cases negative with
    | false => exact Int.natCast_mul ..
    | true => exact (congrArg Neg.neg (Int.natCast_mul ..)).trans (Int.neg_mul ..).symm
  rw [exceeds, up, down, decide_eq_decide]
  change k * (2 ^ e : Nat) <
    (if negative then -((n * 2 ^ e : Nat) : Int) else (n * 2 ^ e : Nat)) * 1 ↔ _
  rw [Int.mul_one, signed, Int.mul_lt_mul_right scale]

theorem exceeds_zero (negative : Bool) (e : Nat) (k : Int) :
    (finite negative 0 (-e)).exceeds k = decide (k < 0) := by
  have scaled := exceeds_scaled negative 0 e k
  rw [Nat.zero_mul] at scaled
  rw [scaled]
  cases negative <;> rfl

/-- The number nearest to a small whole number exceeds what the whole number exceeds. -/
theorem exists_ofInt? {n : Int} (small : n.natAbs < Nat.pow 2 53) :
    ∃ x, ofInt? n = some x ∧ ∀ k, x.exceeds k = decide (k < n) := by
  by_cases none : n = 0
  · exact ⟨zero false, if_pos none, fun k => none ▸ exceeds_zero false 1074 k⟩
  · have positive : 0 < n.natAbs := Int.natAbs_pos.2 none
    have bits : n.natAbs.log2 < 53 := (Nat.log2_lt (by omega)).2 small
    have exponent : (n.natAbs.log2 : Int) - 52 = -((52 - n.natAbs.log2 : Nat) : Int) := by omega
    have value := ofFraction_one (n < 0) positive small
    refine ⟨finite (n < 0) (n.natAbs * Nat.pow 2 (52 - n.natAbs.log2)) (n.natAbs.log2 - 52), ?_,
      fun k => ?_⟩
    · rw [ofInt?, if_neg none, value]
    · rw [exponent, exceeds_scaled, decide_eq_decide]
      simp only [decide_eq_true_eq]
      omega

end Binary64

/-- A small whole number stands for a floating-point number that exceeds what it exceeds. -/
theorem Json.exists_real_int {n : Int} (small : n.natAbs < Nat.pow 2 53) :
    ∃ x, (Json.int n).real = .ok x ∧ ∀ k, x.exceeds k = decide (k < n) := by
  obtain ⟨x, read, compares⟩ := Binary64.exists_ofInt? small
  have found : (Json.int n).real? = some x := read
  refine ⟨x, ?_, compares⟩
  rw [Json.real, found]

end ContentBlocker
