import LoadBench.Text.LowerCase
import Mathlib.Data.List.TakeWhile

/-!
Lower case of a text that stands inside another one.

Main statements: what stands around a text reaches its lower case only through a cased letter on
each side; it does not matter at all when every sigma of the text is settled, and otherwise some
surroundings leave no trace of the lower case that the text has alone.
-/
namespace LoadBench.Text

theorem occursIn_iff {needle cs : List Char} : occursIn needle cs = true ↔ needle <:+: cs := by
  induction cs with
  | nil =>
    rw [occursIn, List.isEmpty_iff]
    exact List.infix_nil.symm
  | cons c cs ih =>
    rw [occursIn, Bool.or_eq_true, List.isPrefixOf_iff_prefix, ih]
    exact List.infix_cons_iff.symm

/-- The text has a character that case does not ignore. Nothing beyond such a text counts. -/
def Shields (cs : List Char) : Prop := ∃ c ∈ cs, isCaseIgnorable c = false

theorem isCaseIgnorable_sigma : isCaseIgnorable 'Σ' = false := by decide +kernel

theorem casedFirst_letter : casedFirst ['a'] = true := by decide +kernel

theorem lowerChar_letter : ['a'].flatMap lowerChar = ['a'] := by decide +kernel

theorem shields_sigma (cs : List Char) : Shields ('Σ' :: cs) :=
  ⟨'Σ', List.mem_cons_self, isCaseIgnorable_sigma⟩

theorem dropWhile_of_not_shields {cs : List Char} (h : ¬Shields cs) (rest : List Char) :
    (cs ++ rest).dropWhile isCaseIgnorable = rest.dropWhile isCaseIgnorable := by
  apply List.dropWhile_append_of_pos
  intro c hc
  by_contra hseen
  exact h ⟨c, hc, Bool.eq_false_iff.2 hseen⟩

theorem casedFirst_append_of_shields {cs : List Char} (h : Shields cs) (rest : List Char) :
    casedFirst (cs ++ rest) = casedFirst cs := by
  obtain ⟨c, hc, hseen⟩ := h
  have hne : cs.dropWhile isCaseIgnorable ≠ [] := by
    intro hnil
    have hignored := List.dropWhile_eq_nil_iff.1 hnil c hc
    rw [hseen] at hignored
    cases hignored
  unfold casedFirst
  rw [List.dropWhile_append, if_neg (by simpa using hne)]
  cases hrest : cs.dropWhile isCaseIgnorable with
  | nil => exact absurd hrest hne
  | cons d ds => rfl

theorem casedFirst_append_of_not_shields {cs : List Char} (h : ¬Shields cs) (rest : List Char) :
    casedFirst (cs ++ rest) = casedFirst rest := by
  unfold casedFirst
  rw [dropWhile_of_not_shields h]

theorem casedFirst_of_not_shields {cs : List Char} (h : ¬Shields cs) : casedFirst cs = false := by
  rw [← List.append_nil cs, casedFirst_append_of_not_shields h]
  rfl

theorem casedFirst_sigma (cs : List Char) : casedFirst ('Σ' :: cs) = true := by
  have hsigma : casedFirst ['Σ'] = true := by decide +kernel
  rw [← List.singleton_append, casedFirst_append_of_shields (shields_sigma []), hsigma]

theorem casedFirst_congr {rest rest' : List Char} (h : casedFirst rest = casedFirst rest')
    (cs : List Char) : casedFirst (cs ++ rest) = casedFirst (cs ++ rest') := by
  by_cases hcs : Shields cs
  · rw [casedFirst_append_of_shields hcs, casedFirst_append_of_shields hcs]
  · rw [casedFirst_append_of_not_shields hcs, casedFirst_append_of_not_shields hcs, h]

/-! ### Inside a text -/

/-- The lower case of a sigma between two texts, the one before it latest first. -/
def sigmaForm (before after : List Char) : Char :=
  if casedFirst before && !casedFirst after then 'ς' else 'σ'

/-- Lower case between two texts, the one before latest first. -/
def lowerBetween (after : List Char) : List Char → List Char → List Char
  | _, [] => []
  | before, c :: cs =>
    (if c = 'Σ' then [sigmaForm before (cs ++ after)] else lowerChar c) ++
      lowerBetween after (c :: before) cs

theorem lowerAfter_append (before xs ys : List Char) :
    lowerAfter before (xs ++ ys) =
      lowerBetween ys before xs ++ lowerAfter (xs.reverse ++ before) ys := by
  induction xs generalizing before with
  | nil => rfl
  | cons c xs ih =>
    rw [List.cons_append, lowerAfter, lowerBetween, ih, List.append_assoc, List.reverse_cons,
      List.append_assoc]
    rfl

theorem lowerAfter_eq (before cs : List Char) : lowerAfter before cs = lowerBetween [] before cs := by
  have happend := lowerAfter_append before cs []
  rw [List.append_nil] at happend
  rw [happend]
  exact List.append_nil _

theorem lowerAfter_append_sigma (before xs ys : List Char) :
    lowerAfter before (xs ++ 'Σ' :: ys) = lowerBetween ('Σ' :: ys) before xs ++
      sigmaForm (xs.reverse ++ before) ys :: lowerAfter ('Σ' :: (xs.reverse ++ before)) ys := by
  rw [lowerAfter_append, lowerAfter]
  rfl

/-- Of the surroundings nothing matters but whether a cased letter comes first on each side. -/
theorem lowerBetween_congr {after after' before before' : List Char}
    (hafter : casedFirst after = casedFirst after')
    (hbefore : casedFirst before = casedFirst before') (cs : List Char) :
    lowerBetween after before cs = lowerBetween after' before' cs := by
  induction cs generalizing before before' with
  | nil => rfl
  | cons c cs ih =>
    have hnext := casedFirst_congr hbefore [c]
    have hform : sigmaForm before (cs ++ after) = sigmaForm before' (cs ++ after') := by
      unfold sigmaForm
      rw [hbefore, casedFirst_congr hafter cs]
    rw [lowerBetween, lowerBetween, hform]
    exact congrArg _ (ih hnext)

theorem lowerBetween_of_notMem {cs : List Char} (h : 'Σ' ∉ cs) (after before : List Char) :
    lowerBetween after before cs = cs.flatMap lowerChar := by
  induction cs generalizing before with
  | nil => rfl
  | cons c cs ih =>
    rw [List.mem_cons, not_or] at h
    obtain ⟨hc, hcs⟩ := h
    rw [lowerBetween, if_neg (Ne.symm hc), ih hcs, List.flatMap_cons]

/-! ### Settled sigmas -/

/-- The form of a sigma between the two parts of a text is decided there: a cased letter follows
first, or the character that counts before it is there and is no cased letter, or the characters
that count are there on both sides. -/
def IsSettledAt (before after : List Char) : Prop :=
  casedFirst after = true ∨
    Shields before ∧ (casedFirst before.reverse = false ∨ Shields after)

/-- No sigma of the text takes its form from what stands around the text. -/
def IsSettled (cs : List Char) : Prop :=
  ∀ before after, cs = before ++ 'Σ' :: after → IsSettledAt before after

theorem isSettled_of_notMem {cs : List Char} (h : 'Σ' ∉ cs) : IsSettled cs := by
  rintro before after rfl
  exact absurd (by simp) h

theorem isSettled_sigma_cons {cs : List Char} (hcased : casedFirst cs = true) (hrest : 'Σ' ∉ cs) :
    IsSettled ('Σ' :: cs) := by
  intro before after hparts
  cases before with
  | nil =>
    obtain rfl : cs = after := (List.cons.inj hparts).2
    exact .inl hcased
  | cons c before =>
    rw [(List.cons.inj hparts).2] at hrest
    exact absurd (by simp) hrest

theorem Shields.reverse {cs : List Char} (h : Shields cs) : Shields cs.reverse := by
  obtain ⟨c, hc, hseen⟩ := h
  exact ⟨c, List.mem_reverse.2 hc, hseen⟩

theorem sigmaForm_of_isSettledAt {before after : List Char} (h : IsSettledAt before after)
    (front back : List Char) :
    sigmaForm (before.reverse ++ front) (after ++ back) = sigmaForm before.reverse after := by
  unfold sigmaForm
  rcases h with hcased | ⟨hbefore, h⟩
  · have hshields : Shields after := by
      by_contra hnone
      rw [casedFirst_of_not_shields hnone] at hcased
      cases hcased
    rw [casedFirst_append_of_shields hshields, hcased, Bool.not_true, Bool.and_false,
      Bool.and_false]
  · rw [casedFirst_append_of_shields hbefore.reverse]
    rcases h with huncased | hafter
    · rw [huncased, Bool.false_and, Bool.false_and]
    · rw [casedFirst_append_of_shields hafter]

/-- A settled text has the same lower case wherever it stands. -/
theorem lowerBetween_of_isSettled {cs : List Char} (h : IsSettled cs) (after before : List Char) :
    lowerBetween after before cs = lowerAfter [] cs := by
  -- the part of the text that has been passed decides together with what is ahead
  have hrest : ∀ rest done : List Char, cs = done ++ rest →
      lowerBetween after (done.reverse ++ before) rest = lowerAfter done.reverse rest := by
    intro rest
    induction rest with
    | nil => exact fun _ _ => rfl
    | cons c rest ih =>
      intro done hcs
      have htail := ih (done ++ [c]) (by rw [hcs, List.append_cons])
      rw [List.reverse_append, List.reverse_singleton, List.singleton_append] at htail
      rw [lowerBetween, lowerAfter, ← htail]
      by_cases hc : c = 'Σ'
      · subst hc
        have hform := sigmaForm_of_isSettledAt (h done rest hcs) before after
        rw [if_pos rfl, if_pos rfl, hform]
        rfl
      · rw [if_neg hc, if_neg hc]
        rfl
  exact hrest cs [] rfl

theorem isInfix_lowerAfter_of_isSettled {cs : List Char} (h : IsSettled cs) (x y : List Char) :
    lowerAfter [] cs <:+: lowerAfter [] (x ++ cs ++ y) := by
  refine ⟨lowerBetween (cs ++ y) [] x, lowerAfter ((x ++ cs).reverse ++ []) y, ?_⟩
  rw [List.append_assoc x, lowerAfter_append, lowerAfter_append, lowerBetween_of_isSettled h,
    List.append_assoc, List.reverse_append, List.append_assoc]

/-- A part with one letter more than the whole is no part. -/
theorem not_isInfix_of_count_lt {needle cs : List Char} (c : Char)
    (h : cs.count c < needle.count c) : ¬needle <:+: cs := by
  intro hinfix
  have hle := hinfix.sublist.count_le c
  omega

/-- A sigma without a character that counts before it becomes final behind a letter. -/
theorem not_isInfix_behind_letter {before after : List Char} (hbefore : ¬Shields before)
    (hafter : casedFirst after = false) :
    ¬lowerAfter [] (before ++ 'Σ' :: after) <:+:
      lowerAfter [] (['a'] ++ (before ++ 'Σ' :: after)) := by
  have hmem : 'Σ' ∉ before := fun hmem => hbefore ⟨'Σ', hmem, isCaseIgnorable_sigma⟩
  have hreverse : ¬Shields before.reverse := fun h => hbefore (List.reverse_reverse before ▸ h.reverse)
  have halone : sigmaForm (before.reverse ++ []) after = 'σ' := by
    unfold sigmaForm
    rw [casedFirst_append_of_not_shields hreverse]
    rfl
  have hbehind : sigmaForm (before.reverse ++ ['a']) after = 'ς' := by
    unfold sigmaForm
    rw [casedFirst_append_of_not_shields hreverse, hafter, casedFirst_letter]
    rfl
  have hrest : lowerAfter ('Σ' :: (before.reverse ++ ['a'])) after =
      lowerAfter ('Σ' :: (before.reverse ++ [])) after := by
    rw [lowerAfter_eq, lowerAfter_eq]
    exact lowerBetween_congr rfl (by rw [casedFirst_sigma, casedFirst_sigma]) after
  have hletter : lowerAfter [] (['a'] ++ (before ++ 'Σ' :: after)) =
      'a' :: lowerAfter ['a'] (before ++ 'Σ' :: after) := by
    rw [lowerAfter_append, lowerBetween_of_notMem (by decide), lowerChar_letter]
    rfl
  rw [hletter, lowerAfter_append_sigma, lowerAfter_append_sigma, halone, hbehind, hrest,
    lowerBetween_of_notMem hmem, lowerBetween_of_notMem hmem]
  apply not_isInfix_of_count_lt 'σ'
  simp [List.count_append]

/-- A final sigma without a character that counts behind it is not final any more before a
letter. -/
theorem not_isInfix_before_letter {before after : List Char}
    (hbefore : casedFirst before.reverse = true) (hafter : ¬Shields after) :
    ¬lowerAfter [] (before ++ 'Σ' :: after) <:+:
      lowerAfter [] (before ++ 'Σ' :: after ++ ['a']) := by
  have hmem : 'Σ' ∉ after := fun hmem => hafter ⟨'Σ', hmem, isCaseIgnorable_sigma⟩
  have hshape : before ++ 'Σ' :: after ++ ['a'] = before ++ 'Σ' :: (after ++ ['a']) := by simp
  have halone : sigmaForm (before.reverse ++ []) after = 'ς' := by
    unfold sigmaForm
    rw [List.append_nil, hbefore, casedFirst_of_not_shields hafter]
    rfl
  have hinside : sigmaForm (before.reverse ++ []) (after ++ ['a']) = 'σ' := by
    unfold sigmaForm
    rw [casedFirst_append_of_not_shields hafter, casedFirst_letter, Bool.not_true, Bool.and_false]
    rfl
  have hfront : lowerBetween ('Σ' :: (after ++ ['a'])) [] before =
      lowerBetween ('Σ' :: after) [] before :=
    lowerBetween_congr (by rw [casedFirst_sigma, casedFirst_sigma]) rfl before
  have hmem' : 'Σ' ∉ after ++ ['a'] := by simp [hmem]
  rw [hshape, lowerAfter_append_sigma, lowerAfter_append_sigma, halone, hinside, hfront,
    lowerAfter_eq, lowerAfter_eq, lowerBetween_of_notMem hmem, lowerBetween_of_notMem hmem',
    List.flatMap_append, lowerChar_letter]
  apply not_isInfix_of_count_lt 'ς'
  simp [List.count_append]

/-- A text is found by its lower case wherever it stands exactly when all its sigmas are
settled. -/
theorem forall_isInfix_iff {cs : List Char} :
    (∀ x y : List Char, lowerAfter [] cs <:+: lowerAfter [] (x ++ cs ++ y)) ↔ IsSettled cs := by
  constructor
  · intro hfound before after hcs
    by_contra hunsettled
    unfold IsSettledAt at hunsettled
    rw [not_or, not_and_or, not_or, Bool.not_eq_true, Bool.not_eq_false] at hunsettled
    obtain ⟨hafter, hopen | ⟨hcased, hopen⟩⟩ := hunsettled
    · have hbehind := hfound ['a'] []
      rw [List.append_nil, hcs] at hbehind
      exact not_isInfix_behind_letter hopen hafter hbehind
    · have hinside := hfound [] ['a']
      rw [List.nil_append, hcs] at hinside
      exact not_isInfix_before_letter hcased hopen hinside
  · exact isInfix_lowerAfter_of_isSettled

end LoadBench.Text
