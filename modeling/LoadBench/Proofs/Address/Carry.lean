import LoadBench.Proofs.Address.Text
import LoadBench.Proofs.Octets
import Mathlib.Data.List.Lemmas

/-!
The next address, octet by octet.

Main statement: in the octets of an address, going on to the next one is a carry that runs from the
last octet to the front. Only the address with nothing but 255 in its octets goes round to zero.
-/
namespace LoadBench
namespace Octets

/-- What a carry does to an octet: 255 becomes zero and passes it on, any other octet is increased
and stops it. -/
def carryInto (o : UInt8) : Bool → Bool × UInt8
  | false => (false, o)
  | true => if o = 255 then (true, 0) else (false, o + 1)

/-- A carry into the last octet, and from there to the front. What is carried out of the first octet
is dropped. -/
def increment (os : List UInt8) : List UInt8 := (os.mapAccumr carryInto true).2

theorem carryInto_exact (o : UInt8) (carry : Bool) :
    256 * (carryInto o carry).1.toNat + (carryInto o carry).2.toNat = o.toNat + carry.toNat := by
  cases carry with
  | false => simp [carryInto]
  | true =>
    by_cases hfull : o = 255
    · rw [hfull]
      rfl
    · have ho : o.toNat ≠ 255 := fun h => hfull (UInt8.toNat_inj.1 h)
      have hlt := o.toNat_lt
      have hsum : (o + 1).toNat = o.toNat + 1 := by
        rw [UInt8.toNat_add, UInt8.toNat_one]
        omega
      have hstops : carryInto o true = (false, o + 1) := if_neg hfull
      simp [hstops, hsum]

/-- With what is carried out in front, nothing is lost. -/
theorem toNat_mapAccumr_carryInto (os : List UInt8) (carry : Bool) :
    Nat.pow 256 os.length * (os.mapAccumr carryInto carry).1.toNat +
        toNat (os.mapAccumr carryInto carry).2 =
      toNat os + carry.toNat := by
  induction os with
  | nil => simp [List.mapAccumr, toNat]
  | cons o os ih =>
    -- The octets behind the first one are done, and what they carry goes into it.
    have hlength := List.length_mapAccumr carryInto os carry
    generalize hrest : os.mapAccumr carryInto carry = rest at ih hlength
    have hfirst := carryInto_exact o rest.1
    simp only [List.mapAccumr, hrest, List.length_cons, toNat_cons, hlength]
    calc
      Nat.pow 256 (os.length + 1) * (carryInto o rest.1).1.toNat +
            (Nat.pow 256 os.length * (carryInto o rest.1).2.toNat + toNat rest.2) =
          Nat.pow 256 os.length *
              (256 * (carryInto o rest.1).1.toNat + (carryInto o rest.1).2.toNat) +
            toNat rest.2 := by
        simp only [Nat.pow_eq]
        ring
      _ = Nat.pow 256 os.length * o.toNat +
            (Nat.pow 256 os.length * rest.1.toNat + toNat rest.2) := by
        rw [hfirst]
        ring
      _ = Nat.pow 256 os.length * o.toNat + toNat os + carry.toNat := by
        rw [ih, Nat.add_assoc]

@[simp] theorem length_increment (os : List UInt8) : (increment os).length = os.length :=
  List.length_mapAccumr carryInto os true

theorem toNat_increment (os : List UInt8) :
    toNat (increment os) = (toNat os + 1) % Nat.pow 256 os.length := by
  have hexact := toNat_mapAccumr_carryInto os true
  have hlt : toNat (increment os) < Nat.pow 256 os.length := by
    rw [← length_increment]
    exact toNat_lt _
  rw [Bool.toNat_true] at hexact
  rw [← hexact, Nat.mul_add_mod]
  exact (Nat.mod_eq_of_lt hlt).symm

end Octets

/-- As many ones as the kind has bits. -/
def AddressKind.mask (k : AddressKind) : UInt64 := (1 <<< UInt64.ofNat k.width) - 1

namespace Address
variable {k : AddressKind}

theorem toNat_octets (a : Address k) : Octets.toNat a.octets = a.toNat := by
  rw [octets, Octets.toNat_ofNat, ← size_eq_pow]
  exact Nat.mod_eq_of_lt a.toNat_lt

/-- The octets of an address are the only ones of that count and that number. -/
theorem octets_eq_iff {a : Address k} {os : List UInt8} :
    a.octets = os ↔ os.length = k.width / 8 ∧ Octets.toNat os = a.toNat := by
  constructor
  · rintro rfl
    exact ⟨Octets.length_ofNat .., a.toNat_octets⟩
  · rintro ⟨hlength, hnumber⟩
    rw [octets, ← hnumber, ← hlength]
    exact Octets.ofNat_toNat os

theorem octets_succ (a : Address k) : a.succ.octets = Octets.increment a.octets := by
  have hlength : a.octets.length = k.width / 8 := Octets.length_ofNat ..
  refine octets_eq_iff.2 ⟨?_, ?_⟩
  · rw [Octets.length_increment, hlength]
  · rw [Octets.toNat_increment, toNat_octets, hlength, ← size_eq_pow]
    exact (a.toNat_add 1).symm

theorem toNat_succ (a : Address k) :
    a.succ.toNat = if a.toNat + 1 = k.size then 0 else a.toNat + 1 := by
  have hlt := a.toNat_lt
  rw [succ, toNat_add]
  split
  · rename_i hlast
    rw [hlast, Nat.mod_self]
  · exact Nat.mod_eq_of_lt (by omega)

theorem iterate_succ (a : Address k) (n : Nat) : succ^[n] a = a.add n := by
  induction n with
  | zero => exact a.add_zero.symm
  | succ n ih => rw [Function.iterate_succ_apply', ih, succ, add_add]

/-- One more, in a word of 64 bits of which the bits beyond the width are masked out. -/
theorem succ_eq_and_mask (a : Address k) :
    UInt64.ofNat a.succ.toNat = (UInt64.ofNat a.toNat + 1) &&& k.mask := by
  have hmask : k.mask.toNat = 2 ^ k.width - 1 := by cases k <;> rfl
  have hfits : k.size ≤ 2 ^ 48 := by cases k <;> decide
  have hlt := a.toNat_lt
  have hlt' := a.succ.toNat_lt
  have hword : (UInt64.ofNat a.toNat + 1).toNat = a.toNat + 1 := by
    rw [UInt64.toNat_add, UInt64.toNat_ofNat', UInt64.toNat_one]
    omega
  have hcut : a.succ.toNat = (a.toNat + 1) % 2 ^ k.width := a.toNat_add 1
  apply UInt64.toNat_inj.1
  rw [UInt64.toNat_and, hmask, Nat.and_two_pow_sub_one_eq_mod, hword, ← hcut, UInt64.toNat_ofNat']
  omega

theorem octets_eq_replicate_iff {a : Address k} {o : UInt8} :
    a.octets = List.replicate (k.width / 8) o ↔
      Octets.toNat (List.replicate (k.width / 8) o) = a.toNat := by
  rw [octets_eq_iff, List.length_replicate, eq_self_iff_true, true_and]

theorem octets_eq_zeros_iff {a : Address k} :
    a.octets = List.replicate (k.width / 8) 0 ↔ a.toNat = 0 := by
  have hzeros : Octets.toNat (List.replicate (k.width / 8) 0) = 0 := by cases k <;> rfl
  rw [octets_eq_replicate_iff, hzeros, eq_comm]

theorem octets_eq_full_iff {a : Address k} :
    a.octets = List.replicate (k.width / 8) 255 ↔ a.toNat + 1 = k.size := by
  have hfull : Octets.toNat (List.replicate (k.width / 8) 255) + 1 = k.size := by cases k <;> rfl
  rw [octets_eq_replicate_iff]
  omega

/-- The successor is one more in a word of 64 bits, cut to the width of the kind. In the octets it is
a carry that runs from the last of them to the front. After any number of steps, or none, they are
the octets of the number that many further on, modulo the number of addresses, with the most
significant octet first. Only 255 in every octet is followed by zeros; any other address grows by
one. -/
theorem succ_carries (a : Address k) :
    UInt64.ofNat a.succ.toNat = (UInt64.ofNat a.toNat + 1) &&& k.mask ∧
      a.succ.octets = Octets.increment a.octets ∧
      (∀ n os, (succ^[n] a).octets = os ↔ os.length = k.width / 8 ∧
        Nat.ofDigits 256 (os.map UInt8.toNat).reverse = (a.toNat + n) % Nat.pow 2 k.width) ∧
      (a.succ.octets = List.replicate (k.width / 8) 0 ↔
        a.octets = List.replicate (k.width / 8) 255) ∧
      (a.succ.toNat = a.toNat + 1 ↔ a.octets ≠ List.replicate (k.width / 8) 255) := by
  refine ⟨a.succ_eq_and_mask, a.octets_succ, ?_, ?_, ?_⟩
  · intro n os
    rw [iterate_succ, octets_eq_iff, Octets.toNat_eq_ofDigits, toNat_add]
    rfl
  · rw [octets_eq_zeros_iff, octets_eq_full_iff, toNat_succ]
    split <;> omega
  · rw [ne_eq, octets_eq_full_iff, toNat_succ]
    split <;> omega

/-- A carry through two octets. -/
example : (ofNat 0x0A00FFFF : Ipv4).succ.octets = [10, 1, 0, 0] := by decide

end Address
end LoadBench
