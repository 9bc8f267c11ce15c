/-! Numbers as octets, most significant first. -/
namespace LoadBench.Octets

/-- The last `count` octets of a number. -/
def ofNat : (count : Nat) → Nat → List UInt8
  | 0, _ => []
  | count + 1, n => ofNat count (n / 256) ++ [UInt8.ofNat n]

def toNat (os : List UInt8) : Nat := os.foldl (fun n o => 256 * n + o.toNat) 0

@[simp] theorem length_ofNat (count n : Nat) : (ofNat count n).length = count := by
  induction count generalizing n with
  | zero => rfl
  | succ count ih => simp [ofNat, ih]

@[simp] theorem toNat_append_singleton (os : List UInt8) (o : UInt8) :
    toNat (os ++ [o]) = 256 * toNat os + o.toNat := by
  simp [toNat, List.foldl_append]

theorem toNat_ofNat (count n : Nat) : toNat (ofNat count n) = n % Nat.pow 256 count := by
  induction count generalizing n with
  | zero => simp [ofNat, toNat, Nat.mod_one]
  | succ count ih =>
    rw [ofNat, toNat_append_singleton, ih, Nat.pow_eq, Nat.pow_eq, Nat.pow_succ, Nat.mul_comm _ 256,
      Nat.mod_mul, UInt8.toNat_ofNat']
    omega

theorem toNat_lt (os : List UInt8) : toNat os < Nat.pow 256 os.length := by
  have bound : ∀ (os : List UInt8) (n m : Nat), n < m →
      os.foldl (fun n o => 256 * n + o.toNat) n < m * Nat.pow 256 os.length := by
    intro os
    induction os with
    | nil => intro n m h; simpa using h
    | cons o os ih =>
      intro n m h
      have ho : o.toNat < 256 := o.toNat_lt
      have := ih (256 * n + o.toNat) (m * 256) (by omega)
      simpa [Nat.pow_succ, Nat.mul_assoc, Nat.mul_comm] using this
  simpa [toNat] using bound os 0 1 (by decide)

end LoadBench.Octets
