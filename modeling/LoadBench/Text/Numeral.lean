import LoadBench.Text.Digits
import LoadBench.Binary64.Rounding

/-! Decimal numerals with a fraction and an exponent, and the numbers they denote. -/
namespace LoadBench

inductive ExponentSign | none | plus | minus
  deriving DecidableEq, Repr

/-- A numeral as written: sign, whole digits, fraction digits (none, if there is no point), and
the exponent's mark, sign and digits. -/
structure Numeral where
  negative : Bool
  whole : List Digit
  fraction : List Digit
  exponent : Option (Bool × ExponentSign × List Digit)
  deriving DecidableEq, Repr

namespace Numeral

/-- A whole number, written plainly. -/
def ofInt (i : Int) : Numeral := ⟨decide (i < 0), Digits.ofNat i.natAbs, [], none⟩

/-- All digits before the exponent, as one number. -/
def coefficient (n : Numeral) : Nat := Digits.value (n.whole ++ n.fraction)

/-- The power of ten that the coefficient is multiplied by. -/
def scale (n : Numeral) : Int :=
  let e : Int := match n.exponent with
    | none => 0
    | some (_, .minus, ds) => -(Digits.value ds : Int)
    | some (_, _, ds) => Digits.value ds
  e - n.fraction.length

/-- The nearest binary64; a numeral that is too large gives an infinity. This is exact reading,
while `serde_json` without its feature `float_roundtrip` may be one unit in the last place off. -/
def toBinary64 (n : Numeral) : Binary64 := Binary64.ofDecimal n.negative n.coefficient n.scale

/-- Neither a fraction nor an exponent is written. -/
def isWhole (n : Numeral) : Bool := n.fraction.isEmpty && n.exponent.isNone

/-- The value of a whole numeral. The negative zero is no whole number. -/
def int? (n : Numeral) : Option Int :=
  if !n.isWhole then none
  else match n.negative, n.coefficient with
    | true, 0 => none
    | true, k => some (-(k : Int))
    | false, k => some k

def exponentChars : Option (Bool × ExponentSign × List Digit) → List Char
  | none => []
  | some (upper, sign, ds) =>
    (if upper then 'E' else 'e') ::
      ((match sign with | .none => [] | .plus => ['+'] | .minus => ['-']) ++ Digits.chars ds)

def chars (n : Numeral) : List Char :=
  (if n.negative then ['-'] else []) ++ Digits.chars n.whole ++
    (if n.fraction.isEmpty then [] else '.' :: Digits.chars n.fraction) ++
    exponentChars n.exponent

def text (n : Numeral) : String := String.ofList n.chars

end Numeral
end LoadBench
