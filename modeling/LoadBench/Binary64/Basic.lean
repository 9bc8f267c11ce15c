/-! Binary64 numbers as bit patterns, and the exact numbers that finite ones denote. -/
namespace LoadBench

/-- A binary64 number, given by its sixty-four bits. -/
structure Binary64 where
  bits : UInt64
  deriving DecidableEq, Repr

namespace Binary64

/-- Not a number (the exponent field full, the fraction field not empty). -/
def nan : Binary64 := ⟨0x7FF8000000000000⟩

/-- The value of the sign's bit. -/
def signMask : Nat := 0x8000000000000000

def signBit (x : Binary64) : Bool := decide (signMask ≤ x.bits.toNat)

/-- The bits below the sign. They order the numbers of one sign by their absolute value. -/
def magnitude (x : Binary64) : Nat := x.bits.toNat % signMask

/-- The magnitude of infinity, and the number of finite magnitudes. -/
def infinityMagnitude : Nat := 0x7FF0000000000000

def isFinite (x : Binary64) : Bool := decide (x.magnitude < infinityMagnitude)

def isNaN (x : Binary64) : Bool := decide (infinityMagnitude < x.magnitude)

def isZero (x : Binary64) : Bool := x.magnitude == 0

/-- The number with a given sign and magnitude; magnitudes past infinity are cut to it. -/
def ofMagnitude (negative : Bool) (m : Nat) : Binary64 :=
  ⟨UInt64.ofNat ((if negative then signMask else 0) + min m infinityMagnitude)⟩

/-- The bit above the fraction, which is set in all significands but the smallest ones. -/
def hiddenBit : Nat := 0x10000000000000

/-- A finite number is `± significand * 2 ^ exponent`. -/
def significand (x : Binary64) : Nat :=
  if x.magnitude < hiddenBit then x.magnitude else hiddenBit + x.magnitude % hiddenBit

/-- Always at least `-1074`. -/
def exponent (x : Binary64) : Int := (max (x.magnitude / hiddenBit) 1 : Nat) - 1075

/-- The absolute value of a finite number as a quotient of two integers. -/
def ratio (x : Binary64) : Nat × Nat :=
  (x.significand <<< x.exponent.toNat, 1 <<< (-x.exponent).toNat)

/-- Whether a finite number is at least zero, which both zeros are. -/
def isNonneg (x : Binary64) : Bool := !x.signBit || x.isZero

/-- Whether the absolute value of a finite number is at most `n`. -/
def absAtMost (x : Binary64) (n : Nat) : Bool := decide (x.ratio.1 ≤ n * x.ratio.2)

end Binary64
end LoadBench
