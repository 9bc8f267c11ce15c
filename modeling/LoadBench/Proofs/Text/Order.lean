import LoadBench.Proofs.Text.Utf8
import Mathlib.Tactic.SplitIfs

/-! The order of texts, character by character, is the order of their octets in UTF-8. -/
namespace LoadBench.Utf8

/-- Numbers are compared place by place, here to the base 64. -/
theorem lt_places {m n : Nat} (h : m < n) :
    m / 262144 < n / 262144 ∨ m / 262144 = n / 262144 ∧
      (m / 4096 % 64 < n / 4096 % 64 ∨ m / 4096 % 64 = n / 4096 % 64 ∧
        (m / 64 % 64 < n / 64 % 64 ∨ m / 64 % 64 = n / 64 % 64 ∧ m % 64 < n % 64)) := by
  by_cases h₁ : m / 4096 = n / 4096 <;> by_cases h₂ : m / 64 = n / 64 <;> omega

/-- Two characters are told apart within their octets, whatever follows. The first octet tells
sequences of different length apart, and the places of the two numbers tell those of one length. -/
theorem utf8EncodeChar_lt {c d : Char} (h : c < d) (x y : List UInt8) :
    String.utf8EncodeChar c ++ x < String.utf8EncodeChar d ++ y := by
  have hlt : c.val.toNat < d.val.toNat := UInt32.lt_iff_toNat_lt.1 h
  have hmax : d.val.toNat < 0x110000 := by
    rcases d.valid with hd | ⟨-, hd⟩
    · exact Nat.lt_trans hd (by decide)
    · exact hd
  have hplaces := lt_places hlt
  simp only [String.utf8EncodeChar]
  split_ifs <;>
    simp only [List.cons_append, List.nil_append, List.cons_lt_cons_iff, UInt8.lt_iff_toNat_lt,
      ← UInt8.toNat_inj, UInt8.toNat_ofNat'] <;>
    simp (disch := omega) only [Nat.mod_eq_of_lt, Nat.add_lt_add_iff_right,
      Nat.add_right_cancel_iff] <;>
    omega

theorem encode_lt_encode {s t : String} (h : s < t) : encode s < encode t := by
  have hchars : ∀ {cs ds : List Char}, List.Lex (· < ·) cs ds →
      cs.flatMap String.utf8EncodeChar < ds.flatMap String.utf8EncodeChar := by
    intro cs ds hlex
    induction hlex with
    | @nil d ds =>
      obtain ⟨b, bs, hd⟩ := List.exists_cons_of_ne_nil (String.utf8EncodeChar_ne_nil (c := d))
      rw [List.flatMap_nil, List.flatMap_cons, hd]
      exact List.nil_lt_cons _ _
    | cons _ ih => exact List.append_left_lt ih
    | rel hlt => exact utf8EncodeChar_lt hlt _ _
  rw [encode_eq, encode_eq]
  exact hchars h

end LoadBench.Utf8
