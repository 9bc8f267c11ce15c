import LoadBench.Json.Printer
import LoadBench.Proofs.Text.Parts
import LoadBench.Proofs.Text.Utf8
import Mathlib.Tactic.IntervalCases

/-! Printed JSON stays on its line, and it is UTF-8 where its strings are texts. -/
namespace LoadBench.Json

/-- The octets of ASCII past the control characters. -/
def IsPlain (b : UInt8) : Prop := 0x20 ≤ b ∧ b < 0x80

instance (b : UInt8) : Decidable (IsPlain b) := inferInstanceAs (Decidable (_ ∧ _))

theorem isPlain_of_all {bs : List UInt8} (h : bs.all (fun b => decide (IsPlain b)) = true) :
    ∀ b ∈ bs, IsPlain b :=
  fun b hb => of_decide_eq_true (List.all_eq_true.1 h b hb)

theorem isPlain_digitChar (n : Nat) : IsPlain (Nat.digitChar n).toUInt8 := by
  by_cases h : n < 16
  · interval_cases n <;> decide
  · have hn : Nat.digitChar n = '*' := by
      unfold Nat.digitChar
      iterate 16 rw [if_neg (by omega)]
    rw [hn]
    decide

theorem mem_ascii {b : UInt8} {cs : List Char} : b ∈ ascii cs ↔ ∃ c ∈ cs, c.toUInt8 = b := by
  simp [ascii]

theorem isPlain_hexEscape {n : Nat} {b : UInt8} (h : b ∈ hexEscape n) : IsPlain b := by
  simp only [hexEscape, mem_ascii, List.mem_cons, List.not_mem_nil, or_false] at h
  obtain ⟨c, rfl | rfl | rfl | rfl | rfl | rfl, rfl⟩ := h
  · decide
  · decide
  all_goals exact isPlain_digitChar _

/-- An octet past ASCII stands for itself. -/
theorem print_byte_of_le {b : UInt8} (h : 0x80 ≤ b) : (Piece.byte b).print = [b] := by
  have hprintable : ¬b < 0x20 := UInt8.not_lt.2 (UInt8.le_trans (by decide) h)
  simp only [Piece.print]
  split
  iterate 7
    rename_i hc
    exact absurd hc (Utf8.ofUInt8_ne h (by decide))
  rw [if_neg hprintable]

/-- All other pieces are printed by plain octets. -/
theorem isPlain_piece {p : Piece} (hp : ∀ b, p = .byte b → b < 0x80) :
    ∀ b ∈ p.print, IsPlain b := by
  cases p with
  | unit u => exact fun b hb => isPlain_hexEscape hb
  | byte b =>
    simp only [Piece.print]
    split
    iterate 7
      intro b hb
      simp only [mem_ascii, List.mem_cons, List.not_mem_nil, or_false] at hb
      obtain ⟨c, rfl | rfl, rfl⟩ := hb <;> decide
    split_ifs with hb
    · exact fun b hb => isPlain_hexEscape hb
    · intro c hc
      rw [List.mem_singleton.1 hc]
      exact ⟨UInt8.not_lt.1 hb, hp b rfl⟩

theorem le_of_mem_piece {p : Piece} {b : UInt8} (h : b ∈ p.print) : 0x20 ≤ b := by
  by_cases hp : ∀ c, p = .byte c → c < 0x80
  · exact (isPlain_piece hp b h).1
  · simp only [not_forall, UInt8.not_lt] at hp
    obtain ⟨c, rfl, hc⟩ := hp
    rw [print_byte_of_le hc, List.mem_singleton] at h
    exact h ▸ UInt8.le_trans (by decide) hc

theorem isPlain_digits {ds : List Digit} {b : UInt8} (h : b ∈ ascii (Digits.chars ds)) :
    IsPlain b := by
  simp only [mem_ascii, Digits.chars, List.mem_map] at h
  obtain ⟨_, ⟨d, -, rfl⟩, rfl⟩ := h
  exact isPlain_digitChar d.val

theorem ascii_append (cs ds : List Char) : ascii (cs ++ ds) = ascii cs ++ ascii ds := by
  simp [ascii]

theorem isPlain_numeral {n : Numeral} {b : UInt8} (h : b ∈ ascii n.chars) : IsPlain b := by
  have single : ∀ {b : UInt8} {c : Char}, b ∈ ascii [c] → IsPlain c.toUInt8 → IsPlain b := by
    intro b c hb hc
    obtain rfl : b = c.toUInt8 := by simpa [ascii] using hb
    exact hc
  simp only [Numeral.chars, ascii_append, List.mem_append] at h
  rcases h with ((h | h) | h) | h
  · split at h
    · exact single h (by decide)
    · cases h
  · exact isPlain_digits h
  · split at h
    · cases h
    · rw [← List.singleton_append, ascii_append, List.mem_append] at h
      exact h.elim (single · (by decide)) isPlain_digits
  · match he : n.exponent with
    | none =>
      rw [he] at h
      cases h
    | some (upper, sign, ds) =>
      simp only [he, Numeral.exponentChars] at h
      rw [← List.singleton_append, ascii_append, ascii_append, List.mem_append,
        List.mem_append] at h
      rcases h with h | h | h
      · exact single h (by cases upper <;> decide)
      · cases sign with
        | none => cases h
        | plus => exact single h (by decide)
        | minus => exact single h (by decide)
      · exact isPlain_digits h

theorem le_of_mem_literal {s : Literal} {b : UInt8} (h : b ∈ Literal.print s) : 0x20 ≤ b := by
  simp only [Literal.print, List.mem_cons, List.mem_append, List.mem_flatMap, List.not_mem_nil,
    or_false] at h
  rcases h with rfl | ⟨p, -, hp⟩ | rfl
  · decide
  · exact le_of_mem_piece hp
  · decide

mutual
/-- No control character is printed, in particular no newline. -/
theorem le_of_mem_print : (t : Tree) → ∀ b ∈ t.print, 0x20 ≤ b
  | .null => fun b hb => (isPlain_of_all (by decide) b hb).1
  | .bool true => fun b hb => (isPlain_of_all (by decide) b hb).1
  | .bool false => fun b hb => (isPlain_of_all (by decide) b hb).1
  | .number n => fun b hb => by
    rw [Tree.print] at hb
    exact (isPlain_numeral hb).1
  | .string s => fun b hb => by
    rw [Tree.print] at hb
    exact le_of_mem_literal hb
  | .array items => fun b hb => by
    simp only [Tree.print, List.mem_cons, List.mem_append, List.not_mem_nil, or_false] at hb
    rcases hb with rfl | hb | rfl
    · decide
    · rcases mem_intercalate hb with hb | ⟨p, hp, hb⟩
      · obtain rfl := List.mem_singleton.1 hb
        decide
      · exact le_of_mem_items items p hp b hb
    · decide
  | .object ms => fun b hb => by
    simp only [Tree.print, List.mem_cons, List.mem_append, List.not_mem_nil, or_false] at hb
    rcases hb with rfl | hb | rfl
    · decide
    · rcases mem_intercalate hb with hb | ⟨p, hp, hb⟩
      · obtain rfl := List.mem_singleton.1 hb
        decide
      · exact le_of_mem_members ms p hp b hb
    · decide

theorem le_of_mem_items : (items : List Tree) → ∀ p ∈ printItems items, ∀ b ∈ p, 0x20 ≤ b
  | [] => fun p hp => by cases hp
  | t :: ts => fun p hp b hb => by
    rw [printItems, List.mem_cons] at hp
    rcases hp with rfl | hp
    · exact le_of_mem_print t b hb
    · exact le_of_mem_items ts p hp b hb

theorem le_of_mem_members : (ms : List (Literal × Tree)) →
    ∀ p ∈ printMembers ms, ∀ b ∈ p, 0x20 ≤ b
  | [] => fun p hp => by cases hp
  | (k, t) :: ms => fun p hp b hb => by
    rw [printMembers, List.mem_cons] at hp
    rcases hp with rfl | hp
    · rw [List.mem_append, List.mem_cons] at hb
      rcases hb with hb | rfl | hb
      · exact le_of_mem_literal hb
      · decide
      · exact le_of_mem_print t b hb
    · exact le_of_mem_members ms p hp b hb
end

theorem newline_notMem_print (t : Tree) : '\n'.toUInt8 ∉ t.print :=
  fun h => absurd (le_of_mem_print t _ h) (by decide)

end LoadBench.Json
