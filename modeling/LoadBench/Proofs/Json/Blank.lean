import LoadBench.Proofs.Json.Reading
import LoadBench.Text.Blank

/-! A line of white space holds no JSON value. -/
namespace LoadBench.Json
namespace Reader

/-- No value starts with an octet past ASCII. -/
theorem step_value_of_le {b : UInt8} (h : 0x80 ≤ b) (fs : List Frame) (orClose : Bool) :
    step ⟨fs, .value orClose⟩ b = none := by
  have hb : 128 ≤ b.toNat := UInt8.le_iff_toNat_le.1 h
  have hspace : isSpace b = false := by
    have hne : ∀ k : UInt8, k.toNat < 128 → (b == k) = false := by
      intro k hk
      apply beq_false_of_ne
      rintro rfl
      omega
    unfold isSpace
    rw [hne 0x20 (by decide), hne 0x09 (by decide), hne 0x0A (by decide), hne 0x0D (by decide)]
    rfl
  rw [step_value hspace (Utf8.ofUInt8_ne h (by decide)), startValue]
  dsimp only
  split
  iterate 8
    rename_i hc
    exact absurd hc (Utf8.ofUInt8_ne h (by decide))
  have hn := Utf8.toNat_ofUInt8 b
  rw [Digit.ofChar?, dif_neg (by omega)]
  rfl

/-- White space leaves the reader where it was, or it is none of JSON's. -/
theorem run_blank {c : Char} (h : Text.isBlank c = true) :
    run start (String.utf8EncodeChar c) = some start ∨
      run start (String.utf8EncodeChar c) = none := by
  rcases Utf8.utf8EncodeChar_cases c with ⟨b, hb, hbc, hc⟩ | ⟨-, hc⟩
  · have hlt : b.toNat < 128 := UInt8.lt_iff_toNat_lt.1 hb
    have hn : b.toNat = 9 ∨ b.toNat = 10 ∨ b.toNat = 11 ∨ b.toNat = 12 ∨ b.toNat = 13 ∨
        b.toNat = 32 := by
      simp only [Text.isBlank, ← hbc, Bool.or_eq_true, Bool.and_eq_true, decide_eq_true_eq,
        beq_iff_eq] at h
      omega
    rw [hc]
    have hself : ∀ k : Nat, b.toNat = k → b = UInt8.ofNat k := by
      rintro _ rfl
      exact UInt8.ofNat_toNat.symm
    rcases hn with hn | hn | hn | hn | hn | hn <;> obtain rfl := hself _ hn
    · exact .inl rfl
    · exact .inl rfl
    · exact .inr rfl
    · exact .inr rfl
    · exact .inl rfl
    · exact .inl rfl
  · obtain ⟨b, bs, hbs⟩ := List.exists_cons_of_ne_nil (String.utf8EncodeChar_ne_nil (c := c))
    rw [hbs] at hc ⊢
    right
    rw [run_cons, start, step_value_of_le (hc b (by simp))]
    rfl

end Reader

theorem Tree.parse?_blank {s : String} (h : s.toList.all Text.isBlank = true) :
    parse? (Utf8.encode s) = none := by
  have blank : ∀ cs : List Char, cs.all Text.isBlank = true →
      Reader.run Reader.start (cs.flatMap String.utf8EncodeChar) = some Reader.start ∨
        Reader.run Reader.start (cs.flatMap String.utf8EncodeChar) = none := by
    intro cs
    induction cs with
    | nil => exact fun _ => .inl rfl
    | cons c cs ih =>
      intro hcs
      rw [List.all_cons, Bool.and_eq_true] at hcs
      rw [List.flatMap_cons, Reader.run_append]
      rcases Reader.run_blank hcs.1 with hc | hc <;> rw [hc]
      · exact ih hcs.2
      · exact .inr rfl
  rw [parse?, Utf8.encode_eq]
  show (Reader.run Reader.start _).bind _ = none
  rcases blank _ h with hb | hb <;> rw [hb] <;> rfl

end LoadBench.Json
