import LoadBench.Text.Digits
import LoadBench.Binary64.Rounding

/-! The fewest decimal digits that read back as a given binary64. -/
namespace LoadBench

/-- The number `d₁.d₂d₃… * 10 ^ order`. -/
structure Scientific where
  digits : List Digit
  order : Int
  deriving DecidableEq, Repr

namespace Scientific

/-- `coefficient * 10 ^ exponent` in scientific form, without trailing zeros. -/
def ofDecimal (coefficient : Nat) (exponent : Int) : Scientific :=
  let ds := Digits.ofNat coefficient
  let kept := (ds.reverse.dropWhile (· == .zero)).reverse
  ⟨if kept.isEmpty then [.zero] else kept, exponent + ds.length - 1⟩

end Scientific

namespace Binary64

/-- The integer part of the decimal logarithm of a positive quotient. -/
def decimalOrder (num den : Nat) : Int :=
  if den ≤ num then (Digits.ofNat (num / den)).length - 1
  else -((Digits.ofNat ((den - 1) / num)).length : Int)

/-- The coefficient on the grid `10 ^ exponent` that reads back as the magnitude of `x`. Of the
two neighbours of the value the nearer one is preferred; of two equally near the tie rule selects
one. -/
def readsBackOn (tie : TieRule) (x : Binary64) (exponent : Int) : Option Nat :=
  let (num, den) := x.ratio
  let num := num * Nat.pow 10 (-exponent).toNat
  let den := den * Nat.pow 10 exponent.toNat
  let below := num / den
  let nearest := tie.round num den
  let other := if nearest = below then below + 1 else below
  [nearest, other].find? fun c => decimalMagnitude c exponent == x.magnitude

/-- The exact value, which always reads back. -/
def exactDecimal (x : Binary64) : Nat × Int :=
  let (num, den) := x.ratio
  (num * Nat.pow 5 den.log2, -(den.log2 : Int))

/-- The shortest decimal that reads back as the absolute value of a finite number: the first grid
of one to seventeen digits that holds such a point. -/
def shortest (tie : TieRule) (x : Binary64) : Nat × Int :=
  if x.isZero then (0, 0)
  else
    let order := decimalOrder x.ratio.1 x.ratio.2
    let found := (List.range 17).findSome? fun (n : Nat) =>
      (x.readsBackOn tie (order - n)).map fun c => (c, order - n)
    found.getD x.exactDecimal

theorem readsBackOn_eq_some {tie : TieRule} {x : Binary64} {e : Int} {c : Nat}
    (h : x.readsBackOn tie e = some c) : decimalMagnitude c e = x.magnitude := by
  have := List.find?_some h
  simpa using this

end Binary64
end LoadBench
