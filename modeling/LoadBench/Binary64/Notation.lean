import LoadBench.Text.Numeral
import LoadBench.Binary64.Shortest

/-! Numerals for binary64 numbers: shortest digits in several styles, and fixed places. -/
namespace LoadBench

/-- How shortest digits are selected and laid out: the rule for two numerals equally near, for which
decimal orders notation is positional, whether whole numbers then end in `.0`, and whether a
positive exponent carries a sign. -/
structure NumeralStyle where
  tie : TieRule
  isPlain : Int → Bool
  pointZero : Bool
  plusSign : Bool

namespace NumeralStyle

/-- Positional notation for every number. -/
def positional : NumeralStyle := ⟨.toGreater, fun _ => true, false, false⟩

/-- Positional notation from `0.0001` up to `10^16`, always with a point. -/
def pointed : NumeralStyle := ⟨.toGreater, fun k => decide (-4 ≤ k ∧ k ≤ 15), true, false⟩

end NumeralStyle

namespace Scientific

/-- The digits without an exponent, padded with zeros up to the point or from it. -/
def plain (s : Scientific) : List Digit × List Digit :=
  if s.order < 0 then ([.zero], List.replicate (-s.order - 1).toNat .zero ++ s.digits)
  else
    let n := s.order.toNat + 1
    (s.digits.take n ++ List.replicate (n - s.digits.length) .zero, s.digits.drop n)

def numeral (style : NumeralStyle) (negative : Bool) (s : Scientific) : Numeral :=
  if style.isPlain s.order then
    let (whole, fraction) := s.plain
    ⟨negative, whole, if fraction.isEmpty && style.pointZero then [.zero] else fraction, none⟩
  else
    let sign := if s.order < 0 then .minus else if style.plusSign then .plus else .none
    ⟨negative, s.digits.take 1, s.digits.drop 1,
      some (false, sign, Digits.ofNat s.order.natAbs)⟩

end Scientific

namespace Binary64

/-- The shortest numeral that reads back as a finite number. -/
def numeral (style : NumeralStyle) (x : Binary64) : Numeral :=
  let (coefficient, exponent) := x.shortest style.tie
  (Scientific.ofDecimal coefficient exponent).numeral style x.signBit

/-- The text of any number, the special ones included. -/
def text (style : NumeralStyle) (x : Binary64) : String :=
  if x.isFinite then (x.numeral style).text
  else if x.isNaN then "NaN"
  else if x.signBit then "-inf" else "inf"

/-- A finite number with a fixed count of fraction digits: the exact value is rounded, and a
midpoint goes to the even digit. -/
def fixedNumeral (places : Nat) (x : Binary64) : Numeral :=
  let scaled := roundEven (x.ratio.1 * Nat.pow 10 places) x.ratio.2
  let digits := Digits.ofNat scaled
  let padded := List.replicate (places + 1 - digits.length) .zero ++ digits
  let point := padded.length - places
  ⟨x.signBit, padded.take point, padded.drop point, none⟩

def fixedText (places : Nat) (x : Binary64) : String := (x.fixedNumeral places).text

end Binary64
end LoadBench
