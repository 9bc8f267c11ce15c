import LoadBench.Binary64.Basic

/-! Rounding a quotient to an integer, and a quotient or a decimal to the nearest binary64. -/
namespace LoadBench

/-- `num / den` to the nearest integer, selecting the even integer at a midpoint. -/
def roundEven (num den : Nat) : Nat :=
  let q := num / den
  if 2 * (num % den) < den then q
  else if den < 2 * (num % den) then q + 1
  else q + q % 2

/-- The error of `roundEven` is at most a half. -/
theorem roundEven_error (num den : Nat) (h : 0 < den) :
    2 * num ≤ (2 * roundEven num den + 1) * den ∧
      2 * roundEven num den * den ≤ 2 * num + den := by
  have hq := Nat.div_add_mod num den
  have hr := Nat.mod_lt num h
  unfold roundEven
  generalize num / den = q at *
  generalize num % den = r at *
  dsimp only
  have e1 : 2 * (den * q) = 2 * q * den := by rw [Nat.mul_comm den q, Nat.mul_assoc]
  split
  · constructor
    · rw [Nat.add_mul]; omega
    · omega
  · split
    · rw [Nat.mul_add, Nat.add_mul, Nat.add_mul]; omega
    · have hm : q % 2 = 0 ∨ q % 2 = 1 := by omega
      rcases hm with hm | hm <;> rw [hm, Nat.mul_add, Nat.add_mul, Nat.add_mul] <;> omega

@[simp] theorem roundEven_mul (k den : Nat) (h : 0 < den) : roundEven (k * den) den = k := by
  simp [roundEven, Nat.mul_div_cancel k h, h]

/-- `num / den` to the nearest integer, selecting the greater integer at a midpoint. -/
def roundHalfUp (num den : Nat) : Nat := (2 * num + den) / (2 * den)

/-- Which of two integers is selected at the midpoint between them. -/
inductive TieRule | toEven | toGreater
  deriving DecidableEq, Repr

/-- `num / den` to the nearest integer. -/
def TieRule.round : TieRule → Nat → Nat → Nat
  | .toEven => roundEven
  | .toGreater => roundHalfUp

namespace Binary64

/-- The integer part of the binary logarithm of a positive quotient. -/
def binaryOrder (num den : Nat) : Int :=
  let k : Int := num.log2 - den.log2
  if den <<< k.toNat ≤ num <<< (-k).toNat then k else k - 1

/-- The magnitude nearest to a quotient, the even one of two; past the largest finite number
it is that of infinity. -/
def nearestMagnitude (num den : Nat) : Nat :=
  if num = 0 then 0
  else
    let q : Int := max (binaryOrder num den - 52) (-1074)
    let m := roundEven (num <<< (-q).toNat) (den <<< q.toNat)
    min ((q + 1074).toNat * hiddenBit + m) infinityMagnitude

/-- The magnitude nearest to `coefficient * 10 ^ exponent`. Exponents far outside the range of
binary64 are answered without computing the power. -/
def decimalMagnitude (coefficient : Nat) (exponent : Int) : Nat :=
  if coefficient = 0 then 0
  else if 400 < exponent then infinityMagnitude
  else if exponent + coefficient.log2 < -400 then 0
  else nearestMagnitude (coefficient * Nat.pow 10 exponent.toNat) (Nat.pow 10 (-exponent).toNat)

/-- The binary64 nearest to `± coefficient * 10 ^ exponent`. -/
def ofDecimal (negative : Bool) (coefficient : Nat) (exponent : Int) : Binary64 :=
  ofMagnitude negative (decimalMagnitude coefficient exponent)

def ofNat (n : Nat) : Binary64 := ofDecimal false n 0

def ofInt (i : Int) : Binary64 := ofDecimal (decide (i < 0)) i.natAbs 0

end Binary64
end LoadBench
