import LoadBench.Proofs.Binary64.Value
import LoadBench.Proofs.Text.Numbers

/-!
Decimals with a fixed count of fraction digits, and the one that is written for a number.

Main statements: the text of a decimal is written by no other, the decimal for a number is nearest to
it and even at a midpoint, and greater numbers never have smaller decimals.
-/
namespace LoadBench

/-- A sign or none, digits, a point, and so many digits behind it. -/
structure Decimal (places : ℕ) where
  negative : Bool
  whole : List Digit
  fraction : List Digit
  whole_ne_nil : whole ≠ []
  length_fraction : fraction.length = places

namespace Decimal
variable {places : ℕ}

def chars (d : Decimal places) : List Char :=
  (if d.negative then ['-'] else []) ++ (Digits.chars d.whole ++ '.' :: Digits.chars d.fraction)

def text (d : Decimal places) : String := String.ofList d.chars

def coefficient (d : Decimal places) : ℕ := Digits.value (d.whole ++ d.fraction)

/-- The rational number that a decimal denotes. -/
def value (d : Decimal places) : ℚ :=
  (if d.negative then -1 else 1) *
    (Digits.value d.whole + Digits.value d.fraction / 10 ^ places)

/-- The last digit is even. -/
def EndsEven (d : Decimal places) : Prop :=
  ∃ digit : Digit, d.fraction.getLast? = some digit ∧ digit.val % 2 = 0

/-- No decimal with so many places is nearer to `q`, and of two that are equally near this is the one
that ends in an even digit. -/
structure IsNearest (d : Decimal places) (q : ℚ) : Prop where
  error_le : |d.value - q| ≤ 1 / 2 / 10 ^ places
  endsEven_of_midpoint : |d.value - q| = 1 / 2 / 10 ^ places → d.EndsEven

theorem value_eq (d : Decimal places) :
    d.value = (if d.negative then -1 else 1) * (d.coefficient / 10 ^ places) := by
  have hunit : (10 : ℚ) ^ places ≠ 0 := by positivity
  have hcoefficient : d.coefficient =
      Digits.value d.whole * 10 ^ places + Digits.value d.fraction := by
    rw [coefficient, Digits.value_append, d.length_fraction]
    rfl
  unfold value
  rw [hcoefficient]
  push_cast
  rw [add_div, mul_div_cancel_right₀ _ hunit]

theorem coefficient_mod_two {d : Decimal places} {digit : Digit}
    (h : d.fraction.getLast? = some digit) : d.coefficient % 2 = digit.val % 2 := by
  obtain ⟨front, hfront⟩ := List.getLast?_eq_some_iff.1 h
  have hvalue : d.coefficient = Digits.value (d.whole ++ front) * 10 + digit.val := by
    rw [coefficient, hfront, ← List.append_assoc, Digits.value_append]
    simp [Digits.value]
  omega

theorem endsEven_iff (d : Decimal places) (hplaces : 0 < places) :
    d.EndsEven ↔ d.coefficient % 2 = 0 := by
  have hfraction : d.fraction ≠ [] := by
    rw [← List.length_pos_iff, d.length_fraction]
    exact hplaces
  have hlast := List.getLast?_eq_some_getLast hfraction
  constructor
  · rintro ⟨digit, hdigit, heven⟩
    rw [coefficient_mod_two hdigit, heven]
  · intro heven
    exact ⟨_, hlast, by rw [← coefficient_mod_two hlast, heven]⟩

end Decimal

theorem Digit.char_injective : Function.Injective Digit.char := by
  intro d e h
  have hdigits : ∀ d e : Digit, d.char = e.char → d = e := by decide
  exact hdigits d e h

theorem Digits.notMem_chars {c : Char} (h : c.isDigit = false) (ds : List Digit) :
    c ∉ Digits.chars ds := by
  intro hc
  obtain ⟨d, -, rfl⟩ := List.mem_map.1 hc
  exact Bool.false_ne_true (h.symm.trans d.isDigit_char)

theorem Digits.chars_injective : Function.Injective Digits.chars :=
  List.map_injective_iff.2 Digit.char_injective

namespace Decimal
variable {places : ℕ}

theorem ext_fields {d e : Decimal places} (hnegative : d.negative = e.negative)
    (hwhole : d.whole = e.whole) (hfraction : d.fraction = e.fraction) : d = e := by
  cases d
  cases e
  cases hnegative
  cases hwhole
  cases hfraction
  rfl

/-- Without the sign there is a digit in front. -/
theorem head?_unsigned (d : Decimal places) :
    (Digits.chars d.whole ++ '.' :: Digits.chars d.fraction).head? ≠ some '-' := by
  obtain ⟨digit, ds, hwhole⟩ := List.exists_cons_of_ne_nil d.whole_ne_nil
  have hdigit : digit.char ≠ '-' := fun h => by
    have hchar := digit.isDigit_char
    rw [h] at hchar
    cases hchar
  rw [hwhole]
  simpa [Digits.chars] using hdigit

theorem head?_chars (d : Decimal places) : d.chars.head? = some '-' ↔ d.negative = true := by
  unfold chars
  cases d.negative with
  | false => simpa using d.head?_unsigned
  | true => simp

/-- A text is that of one decimal at most. -/
theorem text_injective : Function.Injective (text : Decimal places → String) := by
  intro d e h
  have hchars : d.chars = e.chars := String.ofList_injective h
  have hnegative : d.negative = e.negative := by
    rw [Bool.eq_iff_iff, ← head?_chars, ← head?_chars, hchars]
  have hdigits : Digits.chars d.whole ++ '.' :: Digits.chars d.fraction =
      Digits.chars e.whole ++ '.' :: Digits.chars e.fraction := by
    unfold chars at hchars
    rw [hnegative] at hchars
    exact List.append_cancel_left hchars
  have hpoint : ∀ ds, '.' ∉ Digits.chars ds := Digits.notMem_chars rfl
  have hwhole := congrArg (List.takeWhile (· != '.')) hdigits
  have hfraction := congrArg (List.dropWhile (· != '.')) hdigits
  rw [Text.takeWhile_of_notMem (hpoint _), Text.takeWhile_of_notMem (hpoint _)] at hwhole
  rw [Text.dropWhile_of_notMem (hpoint _), Text.dropWhile_of_notMem (hpoint _)] at hfraction
  exact ext_fields hnegative (Digits.chars_injective hwhole)
    (Digits.chars_injective (List.cons.inj hfraction).2)

end Decimal

/-! ### Rounding to the nearest integer -/

section
variable {num den num' den' : ℕ}

/-- At a midpoint the even integer is selected. -/
theorem roundEven_mod_two (h : 0 < den)
    (htie : |(roundEven num den : ℚ) - num / den| = 1 / 2) : roundEven num den % 2 = 0 := by
  have hden : (0 : ℚ) < den := by exact_mod_cast h
  have hquot : (num : ℚ) / den * den = num := div_mul_cancel₀ _ hden.ne'
  have hmiddle : 2 * (roundEven num den * den) = 2 * num + den ∨
      2 * (roundEven num den * den) + den = 2 * num := by
    rcases (abs_eq (by norm_num)).1 htie with hup | hdown
    · left
      have hvalue : 2 * ((roundEven num den : ℚ) * den) = 2 * num + den := by nlinarith
      exact_mod_cast hvalue
    · right
      have hvalue : 2 * ((roundEven num den : ℚ) * den) + den = 2 * num := by nlinarith
      exact_mod_cast hvalue
  have hdiv := Nat.div_add_mod' num den
  have hmod := Nat.mod_lt num h
  unfold roundEven at hmiddle ⊢
  dsimp only at hmiddle ⊢
  split_ifs at hmiddle ⊢ with hlow hhigh
  · omega
  · rw [Nat.add_mul] at hmiddle
    omega
  · omega

theorem roundEven_mono (h : 0 < den) (h' : 0 < den') (hle : (num : ℚ) / den ≤ num' / den') :
    roundEven num den ≤ roundEven num' den' := by
  by_contra hlt
  have hstep : (roundEven num' den' : ℚ) + 1 ≤ roundEven num den := by exact_mod_cast not_le.1 hlt
  have hbelow := abs_le.1 (Binary64.abs_roundEven_sub_le num h)
  have habove := abs_le.1 (Binary64.abs_roundEven_sub_le num' h')
  -- Both errors are a half, so both results are even, but they differ by one.
  have htie : |(roundEven num den : ℚ) - num / den| = 1 / 2 := by
    rw [abs_eq (by norm_num)]
    left
    linarith
  have htie' : |(roundEven num' den' : ℚ) - num' / den'| = 1 / 2 := by
    rw [abs_eq (by norm_num)]
    right
    linarith
  have hnext : (roundEven num den : ℚ) = (roundEven num' den' + 1 : ℕ) := by
    push_cast
    linarith
  have heven := roundEven_mod_two h htie
  have heven' := roundEven_mod_two h' htie'
  have hsucc : roundEven num den = roundEven num' den' + 1 := by exact_mod_cast hnext
  omega

end

namespace Binary64
variable {places : ℕ} {x y : Binary64}

/-- The decimal that is written for a finite number. -/
def decimal (places : ℕ) (x : Binary64) : Decimal places where
  negative := (x.fixedNumeral places).negative
  whole := (x.fixedNumeral places).whole
  fraction := (x.fixedNumeral places).fraction
  whole_ne_nil := (x.length_fixedNumeral places).2
  length_fraction := (x.length_fixedNumeral places).1

theorem fixedText_eq (hplaces : 0 < places) (x : Binary64) :
    x.fixedText places = (x.decimal places).text := by
  have hfraction : (x.fixedNumeral places).fraction.isEmpty = false := by
    rw [List.isEmpty_eq_false_iff, ← List.length_pos_iff, (x.length_fixedNumeral places).1]
    exact hplaces
  have hexponent : (x.fixedNumeral places).exponent = none := rfl
  rw [fixedText, Numeral.text, Decimal.text, Numeral.chars, Decimal.chars, hfraction, hexponent,
    if_neg Bool.false_ne_true, Numeral.exponentChars, List.append_nil, List.append_assoc]
  rfl

theorem toRat_eq (x : Binary64) : x.toRat = (if x.signBit then -1 else 1) * |x.toRat| := by
  rw [abs_toRat, ratio_eq]
  rfl

/-- The decimal has the sign of the number. -/
theorem value_decimal_sub (places : ℕ) (x : Binary64) :
    (x.decimal places).value - x.toRat =
      (if x.signBit then -1 else 1) *
        (((x.fixedNumeral places).coefficient - |x.toRat| * 10 ^ places) / 10 ^ places) := by
  have hunit : (10 : ℚ) ^ places ≠ 0 := by positivity
  have hsign : (x.decimal places).negative = x.signBit := rfl
  have hcoefficient : (x.decimal places).coefficient = (x.fixedNumeral places).coefficient := rfl
  rw [Decimal.value_eq, hsign, hcoefficient, sub_div, mul_div_cancel_right₀ _ hunit, mul_sub,
    ← toRat_eq]

theorem abs_value_decimal_sub (places : ℕ) (x : Binary64) :
    |(x.decimal places).value - x.toRat| =
      |((x.fixedNumeral places).coefficient : ℚ) - |x.toRat| * 10 ^ places| / 10 ^ places := by
  have hunit : (0 : ℚ) < 10 ^ places := by positivity
  rw [value_decimal_sub, abs_mul, abs_div, abs_of_pos hunit]
  split
  · rw [abs_neg, abs_one, one_mul]
  · rw [abs_one, one_mul]

/-- The error is at most half a unit of the last place. -/
theorem abs_value_decimal_sub_le (places : ℕ) (x : Binary64) :
    |(x.decimal places).value - x.toRat| ≤ 1 / 2 / 10 ^ places := by
  have hunit : (0 : ℚ) < 10 ^ places := by positivity
  rw [abs_value_decimal_sub]
  exact div_le_div_of_nonneg_right (x.abs_coefficient_sub_le places) hunit.le

theorem endsEven_decimal (hplaces : 0 < places)
    (htie : |(x.decimal places).value - x.toRat| = 1 / 2 / 10 ^ places) :
    (x.decimal places).EndsEven := by
  have hunit : (0 : ℚ) < 10 ^ places := by positivity
  rw [abs_value_decimal_sub, div_left_inj' hunit.ne', abs_toRat, ← ratio_scaled,
    coefficient_fixedNumeral] at htie
  have heven := roundEven_mod_two (ratio_pos x) htie
  rw [← coefficient_fixedNumeral] at heven
  exact ((x.decimal places).endsEven_iff hplaces).2 heven

theorem isNearest_decimal (hplaces : 0 < places) (x : Binary64) :
    (x.decimal places).IsNearest x.toRat :=
  ⟨abs_value_decimal_sub_le places x, endsEven_decimal hplaces⟩

/-- A negative zero is written with its sign, but its value is zero. -/
theorem value_decimal_of_nonneg (h : 0 ≤ x.toRat) :
    (x.decimal places).value =
      (roundEven (x.ratio.1 * Nat.pow 10 places) x.ratio.2 : ℚ) / 10 ^ places := by
  have hcoefficient : (x.decimal places).coefficient =
      roundEven (x.ratio.1 * Nat.pow 10 places) x.ratio.2 := x.coefficient_fixedNumeral places
  rw [Decimal.value_eq, hcoefficient]
  cases hsign : x.signBit with
  | false =>
    have hnegative : (x.decimal places).negative = false := hsign
    rw [hnegative, if_neg Bool.false_ne_true, one_mul]
  | true =>
    have hzero : x.isZero = true := by
      have hnonneg := toRat_nonneg_iff.1 h
      rw [isNonneg, hsign] at hnonneg
      exact hnonneg
    have hratio : x.ratio.1 = 0 := by
      rw [ratio, significand_eq_zero_iff.2 hzero, Nat.zero_shiftLeft]
    have hrounded : roundEven 0 x.ratio.2 = 0 := roundEven_eq_zero (ratio_pos x)
    rw [hratio, Nat.zero_mul, hrounded, Nat.cast_zero, zero_div, mul_zero]

theorem value_decimal_nonneg (h : 0 ≤ x.toRat) : 0 ≤ (x.decimal places).value := by
  rw [value_decimal_of_nonneg h]
  positivity

theorem ratio_of_nonneg (h : 0 ≤ x.toRat) : (x.ratio.1 : ℚ) / x.ratio.2 = x.toRat := by
  rw [← abs_toRat, abs_of_nonneg h]

theorem value_decimal_mono (hx : 0 ≤ x.toRat) (h : x.toRat ≤ y.toRat) :
    (x.decimal places).value ≤ (y.decimal places).value := by
  have hunit : (0 : ℚ) < 10 ^ places := by positivity
  have hy : 0 ≤ y.toRat := hx.trans h
  have hscaled : ((x.ratio.1 * Nat.pow 10 places : ℕ) : ℚ) / x.ratio.2 ≤
      ((y.ratio.1 * Nat.pow 10 places : ℕ) : ℚ) / y.ratio.2 := by
    rw [ratio_scaled, ratio_scaled, ratio_of_nonneg hx, ratio_of_nonneg hy]
    exact mul_le_mul_of_nonneg_right h hunit.le
  have hrounded := roundEven_mono (ratio_pos x) (ratio_pos y) hscaled
  rw [value_decimal_of_nonneg hx, value_decimal_of_nonneg hy]
  exact div_le_div_of_nonneg_right (by exact_mod_cast hrounded) hunit.le

/-- A whole bound on a number is one on its decimal. -/
theorem value_decimal_le {n : ℕ} (hx : 0 ≤ x.toRat) (h : x.toRat ≤ n) :
    (x.decimal places).value ≤ n := by
  have hunit : (0 : ℚ) < 10 ^ places := by positivity
  have hscaled : ((x.ratio.1 * Nat.pow 10 places : ℕ) : ℚ) / x.ratio.2 ≤
      ((n * 10 ^ places * 1 : ℕ) : ℚ) / (1 : ℕ) := by
    rw [ratio_scaled, ratio_of_nonneg hx]
    push_cast
    rw [mul_one, div_one]
    exact mul_le_mul_of_nonneg_right h hunit.le
  have hrounded := roundEven_mono (ratio_pos x) Nat.one_pos hscaled
  rw [roundEven_mul _ _ Nat.one_pos] at hrounded
  rw [value_decimal_of_nonneg hx, div_le_iff₀ hunit]
  exact_mod_cast hrounded

end Binary64
end LoadBench
