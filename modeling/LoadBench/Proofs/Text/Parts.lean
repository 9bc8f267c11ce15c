import LoadBench.Text.Blank

/-! Texts put together from parts, and what trimming leaves of them. -/
namespace LoadBench

theorem mem_intercalate {α : Type} {sep : List α} {parts : List (List α)} {c : α}
    (h : c ∈ List.intercalate sep parts) : c ∈ sep ∨ ∃ part ∈ parts, c ∈ part := by
  match parts with
  | [] => cases h
  | [p] =>
    rw [List.intercalate_singleton] at h
    exact .inr ⟨p, by simp, h⟩
  | p :: q :: parts =>
    rw [List.intercalate_cons_cons, List.append_assoc, List.mem_append, List.mem_append] at h
    rcases h with h | h | h
    · exact .inr ⟨p, by simp, h⟩
    · exact .inl h
    · exact (mem_intercalate h).imp_right fun ⟨r, hr, hc⟩ => ⟨r, by simp [hr], hc⟩

theorem intercalate_singleton_cons_cons {α : Type} (sep : α) (p q : List α)
    (parts : List (List α)) :
    List.intercalate [sep] (p :: q :: parts) = p ++ sep :: List.intercalate [sep] (q :: parts) := by
  rw [List.intercalate_cons_cons, List.append_assoc, List.singleton_append]

namespace Text
variable {p : Char → Bool} {front cs back : List Char}

/-- The first of the separators stands between what is taken and what is left. -/
theorem eq_append_of_dropWhile {sep c : Char} {right : List Char}
    (h : cs.dropWhile (· != sep) = c :: right) :
    cs = cs.takeWhile (· != sep) ++ sep :: right := by
  have hhead := List.head?_dropWhile_not (· != sep) cs
  rw [h, List.head?_cons] at hhead
  have hc : c = sep := by simpa using hhead
  rw [← hc, ← h, hc, List.takeWhile_append_dropWhile]

theorem takeWhile_of_notMem {sep : Char} {left : List Char} (h : sep ∉ left) (right : List Char) :
    (left ++ sep :: right).takeWhile (· != sep) = left := by
  have hleft : ∀ c ∈ left, (c != sep) = true := fun c hc => bne_iff_ne.2 fun e => h (e ▸ hc)
  rw [List.takeWhile_append_of_pos hleft, List.takeWhile_cons_of_neg (by simp), List.append_nil]

theorem dropWhile_of_notMem {sep : Char} {left : List Char} (h : sep ∉ left) (right : List Char) :
    (left ++ sep :: right).dropWhile (· != sep) = sep :: right := by
  have hleft : ∀ c ∈ left, (c != sep) = true := fun c hc => bne_iff_ne.2 fun e => h (e ▸ hc)
  rw [List.dropWhile_append_of_pos hleft, List.dropWhile_cons_of_neg (by simp)]

theorem dropWhile_of_head? (h : ∀ c, cs.head? = some c → p c = false) : cs.dropWhile p = cs := by
  cases cs with
  | nil => rfl
  | cons c cs =>
    have hc : p c = false := h c rfl
    rw [List.dropWhile_cons, if_neg (by simp [hc])]

theorem head?_dropWhile {c : Char} (h : (cs.dropWhile p).head? = some c) : p c = false := by
  have hhead := List.head?_dropWhile_not p cs
  rwa [h] at hhead

/-- Trimming takes what is put around a text, and nothing of the text when that neither begins nor
ends in the same way. -/
theorem trimBy_eq_core (hfront : ∀ c ∈ front, p c = true) (hback : ∀ c ∈ back, p c = true)
    (hhead : ∀ c, cs.head? = some c → p c = false)
    (hlast : ∀ c, cs.getLast? = some c → p c = false) : trimBy p (front ++ cs ++ back) = cs := by
  unfold trimBy
  rw [List.append_assoc, List.dropWhile_append_of_pos hfront, List.dropWhile_append,
    dropWhile_of_head? hhead]
  by_cases hempty : cs = []
  · have hnone : back.dropWhile p = [] := by
      rw [← List.append_nil back, List.dropWhile_append_of_pos hback]
      rfl
    simp [hempty, hnone]
  · have hreverse : ∀ c, cs.reverse.head? = some c → p c = false := by
      simpa only [List.head?_reverse] using hlast
    rw [if_neg (by simpa using hempty), List.reverse_append,
      List.dropWhile_append_of_pos (by simpa using hback), dropWhile_of_head? hreverse,
      List.reverse_reverse]

theorem trimBy_surrounded (hfront : ∀ c ∈ front, p c = true) (hcs : ∀ c ∈ cs, p c = false)
    (hback : ∀ c ∈ back, p c = true) : trimBy p (front ++ cs ++ back) = cs :=
  trimBy_eq_core hfront hback (fun c hc => hcs c (List.mem_of_head? hc))
    fun c hc => hcs c (List.mem_of_getLast? hc)

/-- What trimming takes away stood around the rest. -/
theorem exists_trimBy (p : Char → Bool) (cs : List Char) :
    ∃ front back, cs = front ++ trimBy p cs ++ back ∧ (∀ c ∈ front, p c = true) ∧
      ∀ c ∈ back, p c = true := by
  let rest := cs.dropWhile p
  refine ⟨cs.takeWhile p, (rest.reverse.takeWhile p).reverse, ?_, ?_, ?_⟩
  · have hrest : trimBy p cs ++ (rest.reverse.takeWhile p).reverse = rest := by
      unfold trimBy
      rw [← List.reverse_append, List.takeWhile_append_dropWhile, List.reverse_reverse]
    rw [List.append_assoc, hrest, List.takeWhile_append_dropWhile]
  · exact List.all_eq_true.1 List.all_takeWhile
  · intro c hc
    exact List.all_eq_true.1 List.all_takeWhile c (List.mem_reverse.1 hc)

theorem getLast?_trimBy {c : Char} (h : (trimBy p cs).getLast? = some c) : p c = false := by
  unfold trimBy at h
  rw [List.getLast?_reverse] at h
  exact head?_dropWhile h

theorem head?_trimBy {c : Char} (h : (trimBy p cs).head? = some c) : p c = false := by
  obtain ⟨rest, hrest⟩ : trimBy p cs <+: cs.dropWhile p := by
    rw [← List.reverse_suffix, trimBy, List.reverse_reverse]
    exact List.dropWhile_suffix p
  have hhead : (cs.dropWhile p).head? = some c := by rw [← hrest, List.head?_append, h, Option.some_or]
  exact head?_dropWhile hhead

theorem trim_trim (cs : List Char) : trim (trim cs) = trim cs := by
  have htrim : trim ([] ++ trim cs ++ []) = trim cs :=
    trimBy_eq_core (by simp) (by simp) (fun _ => head?_trimBy) fun _ => getLast?_trimBy
  rwa [List.nil_append, List.append_nil] at htrim

/-- A text with blanks around it. -/
def Surrounded (core cs : List Char) : Prop :=
  ∃ front back, cs = front ++ core ++ back ∧ (∀ c ∈ front, isBlank c = true) ∧
    ∀ c ∈ back, isBlank c = true

theorem surrounded_trim (cs : List Char) : Surrounded (trim cs) cs := exists_trimBy isBlank cs

theorem trim_of_surrounded {core : List Char} (hcore : ∀ c ∈ core, isBlank c = false)
    (h : Surrounded core cs) : trim cs = core := by
  obtain ⟨front, back, rfl, hfront, hback⟩ := h
  exact trimBy_surrounded hfront hcore hback

theorem Surrounded.mem {core : List Char} (h : Surrounded core cs) {c : Char} (hc : c ∈ cs) :
    c ∈ core ∨ isBlank c = true := by
  obtain ⟨front, back, rfl, hfront, hback⟩ := h
  rw [List.mem_append, List.mem_append] at hc
  rcases hc with (hc | hc) | hc
  · exact .inr (hfront c hc)
  · exact .inl hc
  · exact .inr (hback c hc)

end Text
end LoadBench
