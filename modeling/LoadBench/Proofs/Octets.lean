import LoadBench.Octets
import Mathlib.Data.List.Induction
import Mathlib.Data.Nat.Digits.Defs

/-! Octets as digits. -/
namespace LoadBench.Octets

/-- Octets are the digits of their number to the base 256. -/
theorem toNat_eq_ofDigits (os : List UInt8) :
    toNat os = Nat.ofDigits 256 (os.map UInt8.toNat).reverse := by
  induction os using List.reverseRecOn with
  | nil => rfl
  | append_singleton os o ih =>
    have hdigits : ((os ++ [o]).map UInt8.toNat).reverse =
        o.toNat :: (os.map UInt8.toNat).reverse := by simp
    rw [toNat_append_singleton, hdigits, Nat.ofDigits_cons, ih]
    omega

theorem toNat_singleton (o : UInt8) : toNat [o] = o.toNat := by
  rw [← List.nil_append [o], toNat_append_singleton]
  exact Nat.zero_add _

theorem toNat_cons (o : UInt8) (os : List UInt8) :
    toNat (o :: os) = Nat.pow 256 os.length * o.toNat + toNat os := by
  rw [toNat_eq_ofDigits, toNat_eq_ofDigits, List.map_cons, List.reverse_cons, Nat.ofDigits_append,
    Nat.ofDigits_singleton, List.length_reverse, List.length_map]
  exact Nat.add_comm _ _

end LoadBench.Octets
