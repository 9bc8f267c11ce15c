import LoadBench.Text.Digits
import LoadBench.Text.Natural

/-! Texts of digits and the numbers they denote, whatever zeros stand in front. -/
namespace LoadBench
namespace Digit

theorem isDigit_char (d : Digit) : d.char.isDigit = true := by
  revert d
  decide

theorem toNat_char (d : Digit) : d.char.toNat - '0'.toNat = d.val := by
  revert d
  decide

theorem exists_char {c : Char} (h : c.isDigit = true) : ∃ d : Digit, d.char = c := by
  have hbounds : 48 ≤ c.toNat ∧ c.toNat ≤ 57 := by
    simp only [Char.isDigit, Bool.and_eq_true, decide_eq_true_eq, ge_iff_le,
      UInt32.le_iff_toNat_le] at h
    exact h
  have hchars : ∀ n < 10, Nat.digitChar n = Char.ofNat (48 + n) := by decide
  have hlt : c.toNat - 48 < 10 := by omega
  refine ⟨⟨c.toNat - 48, hlt⟩, ?_⟩
  show Nat.digitChar (c.toNat - 48) = c
  rw [hchars _ hlt, Nat.add_sub_cancel' hbounds.1, Char.ofNat_toNat]

theorem eq_char_of_ofChar? {c : Char} {d : Digit} (h : ofChar? c = some d) :
    c = d.char := by
  have hdigits : ∀ d : Digit, d.char.toNat = 48 + d.val := by decide
  unfold ofChar? at h
  split at h
  · rename_i hc
    cases h
    apply Char.toNat_inj.1
    rw [hdigits]
    exact (Nat.add_sub_cancel' hc.2).symm
  · cases h

end Digit

namespace Text

/-- A text of digits and its number. There is at least one digit, and there may be zeros in
front. -/
def Denotes (cs : List Char) (n : Nat) : Prop :=
  ∃ ds : List Digit, ds ≠ [] ∧ cs = Digits.chars ds ∧ Digits.value ds = n

theorem exists_chars {cs : List Char} (h : ∀ c ∈ cs, c.isDigit = true) :
    ∃ ds : List Digit, cs = Digits.chars ds := by
  induction cs with
  | nil => exact ⟨[], rfl⟩
  | cons c cs ih =>
    obtain ⟨d, rfl⟩ := Digit.exists_char (h c (by simp))
    obtain ⟨ds, rfl⟩ := ih fun c hc => h c (by simp [hc])
    exact ⟨d :: ds, rfl⟩

theorem isDigits_iff {cs : List Char} :
    isDigits cs = true ↔ ∃ ds : List Digit, ds ≠ [] ∧ cs = Digits.chars ds := by
  simp only [isDigits, Bool.and_eq_true, Bool.not_eq_true', List.isEmpty_eq_false_iff,
    List.all_eq_true]
  constructor
  · rintro ⟨hne, hall⟩
    obtain ⟨ds, rfl⟩ := exists_chars hall
    refine ⟨ds, ?_, rfl⟩
    rintro rfl
    exact hne rfl
  · rintro ⟨ds, hne, rfl⟩
    refine ⟨fun h => hne (List.map_eq_nil_iff.1 h), fun c hc => ?_⟩
    obtain ⟨d, -, rfl⟩ := List.mem_map.1 hc
    exact d.isDigit_char

theorem isDigits_iff_denotes {cs : List Char} : isDigits cs = true ↔ ∃ n, Denotes cs n := by
  rw [isDigits_iff]
  constructor
  · rintro ⟨ds, hne, hcs⟩
    exact ⟨_, ds, hne, hcs, rfl⟩
  · rintro ⟨_, ds, hne, hcs, -⟩
    exact ⟨ds, hne, hcs⟩

theorem ofDigitChars_chars (ds : List Digit) (n : Nat) :
    Nat.ofDigitChars 10 (Digits.chars ds) n = ds.foldl (fun n d => 10 * n + d.val) n := by
  induction ds generalizing n with
  | nil => rfl
  | cons d ds ih =>
    rw [Digits.chars, List.map_cons, Nat.ofDigitChars_cons, Digit.toNat_char]
    exact ih _

/-- Digits are read as the number they denote. -/
theorem readDigits?_eq_some_iff {cs : List Char} {n : Nat} :
    readDigits? cs = some n ↔ Denotes cs n := by
  unfold readDigits?
  constructor
  · intro h
    split at h
    · rename_i hdigits
      obtain ⟨ds, hne, rfl⟩ := isDigits_iff.1 hdigits
      cases h
      exact ⟨ds, hne, rfl, (ofDigitChars_chars ds 0).symm⟩
    · cases h
  · rintro ⟨ds, hne, rfl, rfl⟩
    rw [if_pos (isDigits_iff.2 ⟨ds, hne, rfl⟩), ofDigitChars_chars]
    rfl

/-- A number is written in digits that denote it. -/
theorem denotes_toString (n : Nat) : Denotes (toString n).toList n := by
  have htext : (toString n).toList = Nat.toDigits 10 n := String.toList_ofList
  rw [htext, ← readDigits?_eq_some_iff]
  exact readDigits?_toDigits n

theorem Denotes.unique {cs : List Char} {m n : Nat} (hm : Denotes cs m) (hn : Denotes cs n) :
    m = n := by
  rw [← readDigits?_eq_some_iff] at hm hn
  exact Option.some.inj (hm.symm.trans hn)

/-- Digits have no sign in front that could be dropped. -/
theorem readUnsigned?_of_denotes {cs : List Char} {n : Nat} (h : Denotes cs n) (bound : Nat) :
    readUnsigned? bound cs = if n < bound then some n else none := by
  have hread := readDigits?_eq_some_iff.2 h
  unfold readUnsigned?
  split
  · obtain ⟨ds, hne, hcs, -⟩ := h
    cases ds with
    | nil => exact absurd rfl hne
    | cons d ds =>
      obtain ⟨hplus, -⟩ := List.cons.inj hcs
      have hdigit := d.isDigit_char
      rw [← hplus] at hdigit
      cases hdigit
  · rw [hread]
    rfl

theorem readUInt32?_of_denotes {cs : List Char} {n : Nat} (h : Denotes cs n) :
    readUInt32? cs = if n < UInt32.size then some (UInt32.ofNat n) else none := by
  unfold readUInt32?
  rw [readUnsigned?_of_denotes h]
  split <;> rfl

end Text
end LoadBench
