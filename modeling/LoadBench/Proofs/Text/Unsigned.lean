import LoadBench.Proofs.Text.Numbers
import LoadBench.Proofs.Text.Parts

/-! Numbers without a minus sign, as they stand in a field between separators. -/
namespace LoadBench.Text

/-- Digits that denote a number below `bound`, perhaps behind a plus sign. -/
inductive Unsigned (bound : Nat) : List Char → Nat → Prop
  | plain {ds : List Char} {n : Nat} (digits : Denotes ds n) (lt : n < bound) : Unsigned bound ds n
  | plus {ds : List Char} {n : Nat} (digits : Denotes ds n) (lt : n < bound) :
      Unsigned bound ('+' :: ds) n

/-- An unsigned number with blanks around it. -/
def IsField (bound : Nat) (cs : List Char) (n : Nat) : Prop :=
  ∃ core, Unsigned bound core n ∧ Surrounded core cs

variable {bound n : Nat} {cs : List Char}

theorem readUnsigned?_eq_some_iff : readUnsigned? bound cs = some n ↔ Unsigned bound cs n := by
  constructor
  · intro h
    unfold readUnsigned? at h
    split at h
    · obtain ⟨m, hm, h⟩ := Option.bind_eq_some_iff.1 h
      split at h
      · cases h
        exact .plus (readDigits?_eq_some_iff.1 hm) ‹_›
      · cases h
    · obtain ⟨m, hm, h⟩ := Option.bind_eq_some_iff.1 h
      split at h
      · cases h
        exact .plain (readDigits?_eq_some_iff.1 hm) ‹_›
      · cases h
  · intro h
    cases h with
    | plain digits lt => rw [readUnsigned?_of_denotes digits, if_pos lt]
    | @plus ds _ digits lt =>
      show (readDigits? ds >>= fun n => if n < bound then some n else none) = some n
      rw [readDigits?_eq_some_iff.2 digits, Option.bind_eq_bind, Option.bind_some, if_pos lt]

theorem Denotes.isDigit (h : Denotes cs n) {c : Char} (hc : c ∈ cs) : c.isDigit = true := by
  obtain ⟨ds, -, rfl, -⟩ := h
  obtain ⟨d, -, rfl⟩ := List.mem_map.1 hc
  exact d.isDigit_char

theorem Unsigned.mem (h : Unsigned bound cs n) {c : Char} (hc : c ∈ cs) :
    c = '+' ∨ c.isDigit = true := by
  cases h with
  | plain digits _ => exact .inr (digits.isDigit hc)
  | plus digits _ =>
    rcases List.mem_cons.1 hc with rfl | hc
    · exact .inl rfl
    · exact .inr (digits.isDigit hc)

theorem isBlank_of_isDigit {c : Char} (h : c.isDigit = true) : isBlank c = false := by
  obtain ⟨d, rfl⟩ := Digit.exists_char h
  revert d
  decide

theorem Unsigned.isBlank_eq_false (h : Unsigned bound cs n) : ∀ c ∈ cs, isBlank c = false := by
  intro c hc
  rcases h.mem hc with rfl | hdigit
  · rfl
  · exact isBlank_of_isDigit hdigit

theorem readUnsigned?_trim_eq_some_iff :
    readUnsigned? bound (trim cs) = some n ↔ IsField bound cs n := by
  rw [readUnsigned?_eq_some_iff]
  constructor
  · exact fun h => ⟨trim cs, h, surrounded_trim cs⟩
  · rintro ⟨core, hcore, hsurrounded⟩
    rwa [trim_of_surrounded hcore.isBlank_eq_false hsurrounded]

theorem Denotes.exists_digit (h : Denotes cs n) : ∃ c ∈ cs, c.isDigit = true := by
  obtain ⟨ds, hne, rfl, -⟩ := h
  obtain ⟨d, ds', rfl⟩ := List.exists_cons_of_ne_nil hne
  exact ⟨d.char, by simp [Digits.chars], d.isDigit_char⟩

/-- The number of a text does not depend on the bound that it is read with. -/
theorem Unsigned.unique {bound' m : Nat} (h : Unsigned bound cs n) (h' : Unsigned bound' cs m) :
    n = m := by
  cases h with
  | plain digits _ =>
    cases h' with
    | plain digits' _ => exact digits.unique digits'
    | plus _ _ => exact absurd (digits.isDigit List.mem_cons_self) (by decide)
  | plus digits _ =>
    cases h' with
    | plain digits' _ => exact absurd (digits'.isDigit List.mem_cons_self) (by decide)
    | plus digits' _ => exact digits.unique digits'

theorem IsField.lt (h : IsField bound cs n) : n < bound := by
  obtain ⟨core, hcore, -⟩ := h
  cases hcore with
  | plain _ lt => exact lt
  | plus _ lt => exact lt

theorem IsField.unique {bound' m : Nat} (h : IsField bound cs n) (h' : IsField bound' cs m) :
    n = m := by
  obtain ⟨core, hcore, hsurrounded⟩ := h
  obtain ⟨core', hcore', hsurrounded'⟩ := h'
  have htrim : trim cs = core := trim_of_surrounded hcore.isBlank_eq_false hsurrounded
  have htrim' : trim cs = core' := trim_of_surrounded hcore'.isBlank_eq_false hsurrounded'
  have hsame : core = core' := htrim.symm.trans htrim'
  subst hsame
  exact hcore.unique hcore'

theorem IsField.exists_digit (h : IsField bound cs n) : ∃ c ∈ cs, c.isDigit = true := by
  obtain ⟨core, hcore, front, back, rfl, -, -⟩ := h
  have hdigit : ∃ c ∈ core, c.isDigit = true := by
    cases hcore with
    | plain digits _ => exact digits.exists_digit
    | plus digits _ =>
      obtain ⟨c, hc, hdigit⟩ := digits.exists_digit
      exact ⟨c, by simp [hc], hdigit⟩
  obtain ⟨c, hc, hdigit⟩ := hdigit
  exact ⟨c, by simp [hc], hdigit⟩

/-- The separators of fields are none of the characters in them. -/
theorem IsField.notMem (h : IsField bound cs n) {c : Char} (hplus : c ≠ '+')
    (hdigit : c.isDigit = false) (hblank : isBlank c = false) : c ∉ cs := by
  intro hc
  obtain ⟨core, hcore, hsurrounded⟩ := h
  rcases hsurrounded.mem hc with hc | hc
  · rcases hcore.mem hc with rfl | hc
    · exact hplus rfl
    · exact Bool.false_ne_true (hdigit.symm.trans hc)
  · exact Bool.false_ne_true (hblank.symm.trans hc)

end LoadBench.Text
