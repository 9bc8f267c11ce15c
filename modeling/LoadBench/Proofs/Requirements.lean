import LoadBench.Proofs.Fallible

/-!
Requirements that are checked one after the other.

Main statements: a computation that checks requirements succeeds exactly when all of them hold, and
its error is that of the first one that does not; computations that are put one behind the other
check the requirements of both in that order.
-/
namespace LoadBench

/-- A condition, and the error for those who do not meet it. -/
structure Requirement (ε : Type) where
  holds : Prop
  error : ε

namespace Requirement
variable {ε δ α β : Type} {rs qs : List (Requirement ε)} {e : ε}

/-- The error of the first requirement that does not hold. -/
def FirstError (rs : List (Requirement ε)) (e : ε) : Prop :=
  ∃ before r after, rs = before ++ r :: after ∧ (∀ q ∈ before, q.holds) ∧ ¬r.holds ∧ r.error = e

theorem firstError_cons_iff {r : Requirement ε} :
    FirstError (r :: rs) e ↔ ¬r.holds ∧ r.error = e ∨ r.holds ∧ FirstError rs e := by
  constructor
  · rintro ⟨before, q, after, hparts, hbefore, hq, he⟩
    cases before with
    | nil =>
      obtain ⟨rfl, -⟩ := List.cons.inj hparts
      exact .inl ⟨hq, he⟩
    | cons p before =>
      obtain ⟨rfl, rfl⟩ := List.cons.inj hparts
      obtain ⟨hr, hbefore⟩ := List.forall_mem_cons.1 hbefore
      exact .inr ⟨hr, before, q, after, rfl, hbefore, hq, he⟩
  · rintro (⟨hr, he⟩ | ⟨hr, before, q, after, rfl, hbefore, hq, he⟩)
    · exact ⟨[], r, rs, rfl, by simp, hr, he⟩
    · exact ⟨r :: before, q, after, rfl, List.forall_mem_cons.2 ⟨hr, hbefore⟩, hq, he⟩

theorem FirstError.not_forall (h : FirstError rs e) : ¬∀ r ∈ rs, r.holds := by
  obtain ⟨before, r, after, rfl, -, hr, -⟩ := h
  exact fun hall => hr (hall r (by simp))

theorem FirstError.unique {e' : ε} (h : FirstError rs e) (h' : FirstError rs e') : e = e' := by
  induction rs with
  | nil => exact absurd (by simp) h.not_forall
  | cons r rs ih =>
    rcases firstError_cons_iff.1 h with ⟨hr, rfl⟩ | ⟨hr, hrest⟩
    · rcases firstError_cons_iff.1 h' with ⟨-, rfl⟩ | ⟨hr', -⟩
      · rfl
      · exact absurd hr' hr
    · rcases firstError_cons_iff.1 h' with ⟨hr', -⟩ | ⟨-, hrest'⟩
      · exact absurd hr hr'
      · exact ih hrest hrest'

theorem FirstError.append_right (h : FirstError rs e) (qs : List (Requirement ε)) :
    FirstError (rs ++ qs) e := by
  obtain ⟨before, r, after, rfl, hbefore, hr, he⟩ := h
  exact ⟨before, r, after ++ qs, by simp, hbefore, hr, he⟩

theorem FirstError.append_left (hrs : ∀ r ∈ rs, r.holds) (h : FirstError qs e) :
    FirstError (rs ++ qs) e := by
  obtain ⟨before, r, after, rfl, hbefore, hr, he⟩ := h
  exact ⟨rs ++ before, r, after, by simp, List.forall_mem_append.2 ⟨hrs, hbefore⟩, hr, he⟩

theorem FirstError.map {f : ε → δ} (h : FirstError rs e) :
    FirstError (rs.map fun r => ⟨r.holds, f r.error⟩) (f e) := by
  obtain ⟨before, r, after, rfl, hbefore, hr, rfl⟩ := h
  refine ⟨_, _, _, List.map_append, ?_, hr, rfl⟩
  exact List.forall_mem_map.2 hbefore

end Requirement

open Requirement (FirstError)

/-- The two ways in which a computation ends that checks requirements in their order. -/
inductive Checked {ε α : Type} (rs : List (Requirement ε)) : Except ε α → Prop
  | passed {a : α} (all : ∀ r ∈ rs, r.holds) : Checked rs (.ok a)
  | failed {e : ε} (first : FirstError rs e) : Checked rs (.error e)

namespace Checked
variable {ε δ α β : Type} {rs qs : List (Requirement ε)} {x : Except ε α}

theorem exists_ok_iff (h : Checked rs x) : (∃ a, x = .ok a) ↔ ∀ r ∈ rs, r.holds := by
  cases h with
  | @passed a all => exact iff_of_true ⟨a, rfl⟩ all
  | failed first => exact iff_of_false (fun ⟨_, h⟩ => nomatch h) first.not_forall

theorem eq_error_iff (h : Checked rs x) {e : ε} : x = .error e ↔ FirstError rs e := by
  cases h with
  | passed all => exact iff_of_false (fun h => nomatch h) fun first => first.not_forall all
  | failed first =>
    constructor
    · intro h
      cases h
      exact first
    · intro first'
      rw [first.unique first']

theorem exists_error (h : Checked rs x) (hrs : ¬∀ r ∈ rs, r.holds) : ∃ e, x = .error e := by
  cases h with
  | passed all => exact absurd all hrs
  | @failed e first => exact ⟨e, rfl⟩

theorem pure (a : α) : Checked ([] : List (Requirement ε)) (.ok a) :=
  .passed (by simp)

/-- A requirement that holds changes nothing of what comes after it. -/
theorem cons {r : Requirement ε} (hr : r.holds) (h : Checked rs x) : Checked (r :: rs) x := by
  cases h with
  | passed all => exact .passed (List.forall_mem_cons.2 ⟨hr, all⟩)
  | failed first => exact .failed (Requirement.firstError_cons_iff.2 (.inr ⟨hr, first⟩))

/-- One check. -/
theorem single {c : Prop} [Decidable c] {p : Prop} (h : c ↔ p) (a : α) (e : ε) :
    Checked [⟨p, e⟩] (if c then .ok a else .error e) := by
  by_cases hc : c
  · rw [if_pos hc]
    exact .passed (List.forall_mem_singleton.2 (h.1 hc))
  · rw [if_neg hc]
    exact .failed ⟨[], _, [], rfl, by simp, mt h.2 hc, rfl⟩

theorem bind {f : α → Except ε β} (hx : Checked rs x) (hf : ∀ a, x = .ok a → Checked qs (f a)) :
    Checked (rs ++ qs) (x >>= f) := by
  cases hx with
  | failed first => exact .failed (first.append_right qs)
  | @passed a all =>
    have hrest := hf a rfl
    show Checked (rs ++ qs) (f a)
    generalize f a = y at hrest
    cases hrest with
    | passed all' => exact .passed (List.forall_mem_append.2 ⟨all, all'⟩)
    | failed first => exact .failed (.append_left all first)

/-- A check that lets the computation go on. -/
theorem guard {c : Prop} [Decidable c] {p : Prop} {e : ε} {k : Unit → Except ε α} (h : ¬c ↔ p)
    (hk : Checked qs (k ())) :
    Checked (⟨p, e⟩ :: qs) (if c then (throw e : Except ε Unit) >>= k else k ()) := by
  by_cases hc : c
  · rw [if_pos hc]
    exact .failed ⟨[], _, qs, rfl, by simp, fun hp => h.2 hp hc, rfl⟩
  · rw [if_neg hc]
    exact .cons (h.1 hc) hk

theorem map (h : Checked rs x) (f : α → β) : Checked rs (x.map f) := by
  cases h with
  | passed all => exact .passed all
  | failed first => exact .failed first

theorem mapError (h : Checked rs x) (f : ε → δ) :
    Checked (rs.map fun r => ⟨r.holds, f r.error⟩) (x.mapError f) := by
  cases h with
  | passed all => exact .passed (List.forall_mem_map.2 all)
  | failed first => exact .failed first.map

/-- A list is checked member by member. -/
theorem mapM {f : α → Except ε β} {r : α → Requirement ε} (h : ∀ a, Checked [r a] (f a))
    (xs : List α) : Checked (xs.map r) (xs.mapM f) := by
  induction xs with
  | nil => exact .pure []
  | cons a xs ih =>
    rw [List.mapM_cons, List.map_cons, ← List.singleton_append]
    exact (h a).bind fun _ _ => List.append_nil (xs.map r) ▸ ih.bind fun _ _ => .pure _

end Checked
end LoadBench
