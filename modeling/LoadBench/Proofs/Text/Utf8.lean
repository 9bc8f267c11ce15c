import LoadBench.Text.Utf8

/-! Texts in UTF-8: what is well formed stays so when it is put together. -/
namespace LoadBench.Utf8

@[simp] theorem encode_append (s t : String) : encode (s ++ t) = encode s ++ encode t := by
  simp [encode, String.toByteArray_append]

theorem encode_ofList (cs : List Char) :
    encode (String.ofList cs) = cs.flatMap String.utf8EncodeChar := by
  simp [encode, List.utf8Encode]

theorem encode_eq (s : String) : encode s = s.toList.flatMap String.utf8EncodeChar := by
  rw [← encode_ofList, String.ofList_toList]

theorem decode?_eq_some_iff {bs : List UInt8} {s : String} :
    decode? bs = some s ↔ encode s = bs :=
  ⟨encode_of_decode?, fun h => h ▸ decode?_encode s⟩

/-- Well-formed octets. -/
def IsText (bs : List UInt8) : Prop := ∃ s, encode s = bs

theorem isText_iff {bs : List UInt8} : IsText bs ↔ (decode? bs).isSome := by
  simp only [IsText, ← decode?_eq_some_iff, Option.isSome_iff_exists]

theorem isText_nil : IsText [] := ⟨"", rfl⟩

theorem IsText.append {a b : List UInt8} (ha : IsText a) (hb : IsText b) : IsText (a ++ b) := by
  obtain ⟨s, rfl⟩ := ha
  obtain ⟨t, rfl⟩ := hb
  exact ⟨s ++ t, encode_append s t⟩

theorem isText_utf8EncodeChar (c : Char) : IsText (String.utf8EncodeChar c) := by
  refine ⟨String.ofList [c], ?_⟩
  rw [encode_ofList, List.flatMap_cons, List.flatMap_nil, List.append_nil]

theorem isText_flatten {parts : List (List UInt8)} (h : ∀ p ∈ parts, IsText p) :
    IsText parts.flatten := by
  induction parts with
  | nil => exact isText_nil
  | cons p parts ih =>
    rw [List.flatten_cons]
    exact (h p (by simp)).append (ih fun q hq => h q (by simp [hq]))

theorem toNat_ofUInt8 (b : UInt8) : (Char.ofUInt8 b).toNat = b.toNat := UInt8.toNat_toUInt32 b

theorem isText_singleton {b : UInt8} (h : b < 0x80) : IsText [b] := by
  have hb : b.toNat < 128 := UInt8.lt_iff_toNat_lt.1 h
  refine ⟨String.ofList [Char.ofUInt8 b], ?_⟩
  rw [encode_ofList]
  have hv : (Char.ofUInt8 b).val.toNat = b.toNat := toNat_ofUInt8 b
  simp only [List.flatMap_cons, List.flatMap_nil, List.append_nil, String.utf8EncodeChar, hv]
  rw [if_pos (by omega), UInt8.ofNat_toNat]

theorem isText_of_lt {bs : List UInt8} (h : ∀ b ∈ bs, b < 0x80) : IsText bs := by
  induction bs with
  | nil => exact isText_nil
  | cons b bs ih =>
    rw [← List.singleton_append]
    exact (isText_singleton (h b (by simp))).append (ih fun c hc => h c (by simp [hc]))

theorem ofUInt8_ne {b : UInt8} (h : 0x80 ≤ b) {c : Char} (hc : c.toNat < 0x80) :
    Char.ofUInt8 b ≠ c := by
  have hb : 128 ≤ b.toNat := UInt8.le_iff_toNat_le.1 h
  have hn := toNat_ofUInt8 b
  rintro rfl
  omega

theorem eq_toUInt8 {b : UInt8} {c : Char} (h : Char.ofUInt8 b = c) : b = c.toUInt8 := by
  subst h
  apply UInt8.toNat_inj.1
  show b.toNat = b.toUInt32.toUInt8.toNat
  simp

/-- A character of ASCII is one octet, and the octets of any other one lie past ASCII. -/
theorem utf8EncodeChar_cases (c : Char) :
    (∃ b : UInt8, b < 0x80 ∧ b.toNat = c.toNat ∧ String.utf8EncodeChar c = [b]) ∨
      (0x80 ≤ c.toNat ∧ ∀ b ∈ String.utf8EncodeChar c, 0x80 ≤ b) := by
  have hv : c.val.toNat = c.toNat := rfl
  have past : ∀ k : Nat, 0x80 ≤ k → k < 256 → (0x80 : UInt8) ≤ UInt8.ofNat k := by
    intro k hlo hhi
    rw [UInt8.le_iff_toNat_le, UInt8.toNat_ofNat', Nat.mod_eq_of_lt hhi]
    exact hlo
  unfold String.utf8EncodeChar
  dsimp only
  rw [hv]
  split
  · left
    refine ⟨UInt8.ofNat c.toNat, ?_, ?_, rfl⟩
    · rw [UInt8.lt_iff_toNat_lt, UInt8.toNat_ofNat']
      show c.toNat % 256 < 128
      omega
    · rw [UInt8.toNat_ofNat']
      omega
  · right
    refine ⟨by omega, ?_⟩
    split
    · simp only [List.mem_cons, List.not_mem_nil, or_false]
      rintro b (rfl | rfl) <;> exact past _ (by omega) (by omega)
    · split
      · simp only [List.mem_cons, List.not_mem_nil, or_false]
        rintro b (rfl | rfl | rfl) <;> exact past _ (by omega) (by omega)
      · simp only [List.mem_cons, List.not_mem_nil, or_false]
        rintro b (rfl | rfl | rfl | rfl) <;> exact past _ (by omega) (by omega)

end LoadBench.Utf8
