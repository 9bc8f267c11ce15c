import LoadBench.Proofs.Json.Reading

/-! Texts that break off. What was read of an array, an object or any other value but a number is no
text by itself as long as an octet is missing that is not white space. -/
namespace LoadBench.Json
namespace Reader

/-- A text may end behind its value, or behind a numeral that nothing encloses. -/
theorem result?_eq_some {r : Reader} {t : Tree} (h : r.result? = some t) :
    r.mode = .done t ∨ ∃ last n, r = ⟨[], .numeral last n⟩ := by
  obtain ⟨fs, mode⟩ := r
  cases mode with
  | done u =>
    cases h
    exact .inl rfl
  | numeral last n =>
    cases fs with
    | nil => exact .inr ⟨last, n, rfl⟩
    | cons f fs => cases h
  | _ => cases h

theorem step_done (fs : List Frame) (t : Tree) (b : UInt8) :
    step ⟨fs, .done t⟩ b = if isSpace b then some ⟨fs, .done t⟩ else none := by
  show between ⟨fs, .done t⟩ b = _
  unfold between
  cases isSpace b <;> rfl

/-- Behind its value a text has white space only. -/
theorem isSpace_of_run_done {fs : List Frame} {t : Tree} {bs : List UInt8} {r : Reader}
    (h : run ⟨fs, .done t⟩ bs = some r) : ∀ b ∈ bs, isSpace b = true := by
  induction bs with
  | nil => exact fun b hb => absurd hb List.not_mem_nil
  | cons b bs ih =>
    rw [run_cons, step_done] at h
    cases hb : isSpace b with
    | false =>
      rw [hb] at h
      cases h
    | true =>
      rw [hb] at h
      exact List.forall_mem_cons.2 ⟨hb, ih h⟩

/-- A number on its own, complete or not. -/
def OnNumber (r : Reader) : Prop :=
  (∃ last n, r = ⟨[], .numeral last n⟩) ∨ ∃ n, r = ⟨[], .done (.number n)⟩

theorem OnNumber.step {r r' : Reader} {b : UInt8} (hr : OnNumber r) (h : r.step b = some r') :
    OnNumber r' := by
  rcases hr with ⟨last, n, rfl⟩ | ⟨n, rfl⟩
  · unfold Reader.step at h
    dsimp only at h
    split at h
    · cases h
      exact .inl ⟨_, _, rfl⟩
    · split at h
      · -- the octet ends the numeral, and may then only be white space
        have hdone : Reader.step ⟨[], .done (.number (finishNumeral n))⟩ b = some r' := h
        rw [step_done] at hdone
        split at hdone
        · cases hdone
          exact .inr ⟨_, rfl⟩
        · cases hdone
      · cases h
  · rw [step_done] at h
    split at h
    · cases h
      exact .inr ⟨n, rfl⟩
    · cases h

theorem OnNumber.run {bs : List UInt8} {r r' : Reader} (hr : OnNumber r)
    (h : r.run bs = some r') : OnNumber r' := by
  induction bs generalizing r with
  | nil =>
    cases h
    exact hr
  | cons b bs ih =>
    rw [run_cons] at h
    obtain ⟨m, hm, h⟩ := Option.bind_eq_some_iff.1 h
    exact ih (hr.step hm) h

theorem OnNumber.result {r : Reader} {t : Tree} (hr : OnNumber r) (h : r.result? = some t) :
    ∃ n, t = .number n := by
  rcases hr with ⟨last, n, rfl⟩ | ⟨n, rfl⟩
  · unfold result? at h
    dsimp only at h
    split at h
    · cases h
      exact ⟨_, rfl⟩
    · cases h
  · cases h
    exact ⟨n, rfl⟩

end Reader

theorem Tree.parse?_eq (text : List UInt8) :
    parse? text = (Reader.start.run text).bind Reader.result? := rfl

/-- A text that goes on past a value with more than white space is the text of a number. -/
theorem Tree.number_of_parse?_prefix {front back : List UInt8} {t u : Tree}
    (h : parse? (front ++ back) = some t) (hfront : parse? front = some u)
    (hback : ∃ b ∈ back, isSpace b = false) : ∃ n, t = .number n := by
  rw [parse?_eq, Reader.run_append] at h
  rw [parse?_eq] at hfront
  obtain ⟨r, hr, hu⟩ := Option.bind_eq_some_iff.1 hfront
  rw [hr, Option.bind_some] at h
  obtain ⟨r', hr', ht⟩ := Option.bind_eq_some_iff.1 h
  rcases Reader.result?_eq_some hu with hmode | hnumeral
  · obtain ⟨fs, mode⟩ := r
    dsimp only at hmode
    subst hmode
    obtain ⟨b, hb, hspace⟩ := hback
    rw [Reader.isSpace_of_run_done hr' b hb] at hspace
    cases hspace
  · have hnumber : Reader.OnNumber r := .inl hnumeral
    exact (hnumber.run hr').result ht

/-- The text of a tree, unless it is a number, does not go on past the text of another tree. -/
theorem Tree.eq_of_print_prefix {t u : Tree} (ht : t.Written) (hu : u.Written)
    (hnumber : ∀ n, u ≠ .number n) (h : t.print <+: u.print) : t = u := by
  obtain ⟨back, hback⟩ := h
  have hwhole := parse?_print hu
  rw [← hback] at hwhole
  by_cases hspace : ∃ b ∈ back, isSpace b = false
  · obtain ⟨n, hn⟩ := number_of_parse?_prefix hwhole (parse?_print ht) hspace
    exact absurd hn (hnumber n)
  · have hblank : IsBlank back := fun b hb => by
      rw [← Bool.not_eq_false]
      exact fun hfalse => hspace ⟨b, hb, hfalse⟩
    have hpadded : t.Spelled ([] ++ t.print ++ back) := .padded isBlank_nil ht.spelled hblank
    exact Option.some.inj ((parse?_of_spelled hpadded).symm.trans hwhole)

end LoadBench.Json
