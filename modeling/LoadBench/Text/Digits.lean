/-! Decimal digit strings and the numbers they denote. -/
namespace LoadBench

abbrev Digit := Fin 10

namespace Digit

def zero : Digit := ⟨0, by decide⟩

def char (d : Digit) : Char := Nat.digitChar d.val

def ofChar? (c : Char) : Option Digit :=
  if h : c.toNat - 48 < 10 ∧ 48 ≤ c.toNat then some ⟨c.toNat - 48, h.1⟩ else none

end Digit

namespace Digits

/-- The number a digit string denotes, most significant digit first. -/
def value (ds : List Digit) : Nat := ds.foldl (fun n d => 10 * n + d.val) 0

/-- The digits of a number, without leading zeros; zero has one digit. -/
def ofNat (n : Nat) : List Digit :=
  if h : n < 10 then [⟨n, h⟩] else ofNat (n / 10) ++ [⟨n % 10, Nat.mod_lt n (by decide)⟩]

def chars (ds : List Digit) : List Char := ds.map Digit.char

theorem value_append (xs ys : List Digit) :
    value (xs ++ ys) = value xs * Nat.pow 10 ys.length + value ys := by
  have shift : ∀ (ds : List Digit) (n : Nat),
      ds.foldl (fun n d => 10 * n + d.val) n = n * Nat.pow 10 ds.length + value ds := by
    intro ds
    induction ds with
    | nil => simp [value]
    | cons d ds ih =>
      intro n
      have hd := ih d.val
      simp only [value, List.foldl_cons, Nat.mul_zero, Nat.zero_add, List.length_cons] at hd ⊢
      rw [ih, hd, Nat.pow_eq, Nat.pow_eq, Nat.pow_succ]
      simp only [value]
      rw [Nat.add_mul, Nat.add_assoc]
      congr 1
      rw [Nat.mul_comm 10 n, Nat.mul_assoc, Nat.mul_comm 10]
  rw [value, List.foldl_append, shift]
  rfl

@[simp] theorem value_ofNat (n : Nat) : value (ofNat n) = n := by
  fun_induction ofNat n with
  | case1 n h => simp [value]
  | case2 n h ih =>
    rw [value_append, ih]
    simp only [value, List.foldl_cons, List.foldl_nil, List.length_singleton, Nat.pow_eq,
      Nat.pow_one]
    omega

theorem ofNat_ne_nil (n : Nat) : ofNat n ≠ [] := by
  rw [ofNat]; split <;> simp

end Digits
end LoadBench
