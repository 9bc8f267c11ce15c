import LoadBench.Proofs.Binary64.Notation

/-!
The exact values of finite binary64 numbers.

Main statements: comparisons that are made on the bits are comparisons of the values, and a number
written with a fixed count of places is off by at most half a unit of the last place.
-/
namespace LoadBench.Binary64

/-- The rational number that a finite binary64 stands for. -/
def toRat (x : Binary64) : ℚ :=
  (if x.signBit then -1 else 1) * (x.significand * 2 ^ x.exponent)

variable {x : Binary64}

theorem significand_eq_zero_iff : x.significand = 0 ↔ x.isZero = true := by
  rw [isZero, beq_iff_eq]
  unfold significand hiddenBit
  split <;> omega

theorem toRat_nonneg_iff : 0 ≤ x.toRat ↔ x.isNonneg = true := by
  have hscale : (0 : ℚ) < 2 ^ x.exponent := zpow_pos (by norm_num) _
  have hsignificand : (0 : ℚ) ≤ x.significand := Nat.cast_nonneg _
  unfold toRat isNonneg
  rw [Bool.or_eq_true, ← significand_eq_zero_iff]
  cases x.signBit with
  | false =>
    rw [if_neg Bool.false_ne_true, one_mul]
    exact iff_of_true (mul_nonneg hsignificand hscale.le) (.inl rfl)
  | true =>
    rw [if_pos rfl, neg_one_mul, neg_nonneg]
    constructor
    · intro hle
      have hzero : (x.significand : ℚ) = 0 :=
        le_antisymm (nonpos_of_mul_nonpos_left hle hscale) hsignificand
      exact .inr (by exact_mod_cast hzero)
    · rintro (hsign | hzero)
      · cases hsign
      · rw [hzero, Nat.cast_zero, zero_mul]

theorem abs_toRat (x : Binary64) : |x.toRat| = x.ratio.1 / x.ratio.2 := by
  have hscale : (0 : ℚ) < 2 ^ x.exponent := zpow_pos (by norm_num) _
  have habs : |(if x.signBit then -1 else 1 : ℚ)| = 1 := by
    split
    · rw [abs_neg, abs_one]
    · exact abs_one
  rw [ratio_eq, toRat, abs_mul, habs, one_mul]
  exact abs_of_nonneg (mul_nonneg (Nat.cast_nonneg _) hscale.le)

/-- The bound on the absolute value is one on the value when that is not negative. -/
theorem toRat_le_iff (h : x.isNonneg = true) (n : ℕ) : x.toRat ≤ n ↔ x.absAtMost n = true := by
  have hden : (0 : ℚ) < x.ratio.2 := by exact_mod_cast ratio_pos x
  rw [← abs_of_nonneg (toRat_nonneg_iff.2 h), abs_toRat, div_le_iff₀ hden, absAtMost,
    decide_eq_true_iff]
  exact_mod_cast Iff.rfl

/-- A text with so many fraction digits, of a decimal nearest to the number. -/
def IsFixed (places : ℕ) (s : String) (x : Binary64) : Prop :=
  ∃ n : Numeral, s = n.text ∧ n.negative = x.signBit ∧ n.exponent = none ∧
    n.fraction.length = places ∧ |n.value - (|x.toRat|)| ≤ 10 ^ (-(places : ℤ)) / 2

theorem abs_roundEven_sub_le (num : ℕ) {den : ℕ} (h : 0 < den) :
    |(roundEven num den : ℚ) - num / den| ≤ 1 / 2 := by
  have hden : (0 : ℚ) < den := by exact_mod_cast h
  obtain ⟨hlow, hhigh⟩ := roundEven_error num den h
  have hlow' : 2 * (num : ℚ) ≤ (2 * roundEven num den + 1) * den := by exact_mod_cast hlow
  have hhigh' : 2 * (roundEven num den : ℚ) * den ≤ 2 * num + den := by exact_mod_cast hhigh
  have hquot : (num : ℚ) / den * den = num := div_mul_cancel₀ _ hden.ne'
  rw [abs_le]
  constructor
  · nlinarith
  · nlinarith

theorem length_fixedNumeral (places : ℕ) (x : Binary64) :
    (x.fixedNumeral places).fraction.length = places ∧ (x.fixedNumeral places).whole ≠ [] := by
  unfold fixedNumeral
  dsimp only
  generalize Digits.ofNat (roundEven (x.ratio.1 * Nat.pow 10 places) x.ratio.2) = digits
  have hpadded : places < (List.replicate (places + 1 - digits.length) Digit.zero ++ digits).length := by
    rw [List.length_append, List.length_replicate]
    omega
  constructor
  · rw [List.length_drop]
    omega
  · rw [← List.length_pos_iff, List.length_take]
    omega

/-- The digits are those of the exact value in units of the last place, rounded. -/
theorem coefficient_fixedNumeral (places : ℕ) (x : Binary64) :
    (x.fixedNumeral places).coefficient =
      roundEven (x.ratio.1 * Nat.pow 10 places) x.ratio.2 := by
  unfold Numeral.coefficient fixedNumeral
  dsimp only
  rw [List.take_append_drop, Digits.value_zeros_append, Digits.value_ofNat]

theorem ratio_scaled (places : ℕ) (x : Binary64) :
    ((x.ratio.1 * Nat.pow 10 places : ℕ) : ℚ) / x.ratio.2 = x.ratio.1 / x.ratio.2 * 10 ^ places := by
  rw [Nat.pow_eq, Nat.cast_mul, Nat.cast_pow, Nat.cast_ofNat]
  ring

/-- The error in units of the last place. -/
theorem abs_coefficient_sub_le (places : ℕ) (x : Binary64) :
    |((x.fixedNumeral places).coefficient : ℚ) - |x.toRat| * 10 ^ places| ≤ 1 / 2 := by
  have hround := abs_roundEven_sub_le (x.ratio.1 * Nat.pow 10 places) (ratio_pos x)
  rwa [ratio_scaled, ← abs_toRat, ← coefficient_fixedNumeral] at hround

theorem isFixed_fixedText (places : ℕ) (x : Binary64) : IsFixed places (x.fixedText places) x := by
  obtain ⟨hlength, -⟩ := x.length_fixedNumeral places
  refine ⟨x.fixedNumeral places, rfl, rfl, rfl, hlength, ?_⟩
  have hunit : (0 : ℚ) < 10 ^ places := by positivity
  have hvalue : (x.fixedNumeral places).value =
      (x.fixedNumeral places).coefficient / 10 ^ places := by
    have hscale : (x.fixedNumeral places).scale = -(places : ℤ) := by
      rw [Numeral.scale, hlength]
      exact zero_sub _
    rw [Numeral.value, hscale, zpow_neg, zpow_natCast, div_eq_mul_inv]
  have hexact : |x.toRat| = |x.toRat| * 10 ^ places / 10 ^ places :=
    (mul_div_cancel_right₀ _ hunit.ne').symm
  rw [hvalue, hexact, ← sub_div, abs_div, abs_of_pos hunit, zpow_neg, zpow_natCast]
  calc |((x.fixedNumeral places).coefficient : ℚ) - |x.toRat| * 10 ^ places| / 10 ^ places
      ≤ 1 / 2 / 10 ^ places := div_le_div_of_nonneg_right (x.abs_coefficient_sub_le places) hunit.le
    _ = (10 ^ places)⁻¹ / 2 := by ring

end LoadBench.Binary64
