import LoadBench.Json.Decode

/-! Which members of an object a record is read from: those of its own names, and of the others only
their names. -/
namespace LoadBench.Json.Tree

/-- The key names none of the fields. -/
def IsForeign (names : List String) (key : Literal) : Prop :=
  ∀ name ∈ names, Literal.text? key ≠ some name

instance (names : List String) (key : Literal) : Decidable (IsForeign names key) :=
  inferInstanceAs (Decidable (∀ name ∈ names, _))

variable {names : List String} {key : Literal}

theorem members?_append (as bs : List (Literal × Tree)) :
    members? (as ++ bs) =
      (members? as).bind fun xs => (members? bs).map fun ys => xs ++ ys := by
  induction as with
  | nil =>
    rw [List.nil_append, members?, Option.bind_some]
    exact Option.map_id'.symm
  | cons a as ih =>
    obtain ⟨k, t⟩ := a
    rw [List.cons_append, members?, members?, ih]
    cases Literal.text? k with
    | none => rfl
    | some name =>
      cases members? as with
      | none => rfl
      | some xs => cases members? bs <;> rfl

theorem members?_insert (before after : List (Literal × Tree)) (t : Tree) :
    members? (before ++ (key, t) :: after) =
      (members? before).bind fun xs => (Literal.text? key).bind fun name =>
        (members? after).map fun ys => xs ++ (name, t) :: ys := by
  rw [members?_append, members?]
  cases members? before with
  | none => rfl
  | some xs =>
    cases Literal.text? key with
    | none => rfl
    | some name => cases members? after <;> rfl

/-- A foreign member is read past wherever it stands, whatever its value is. Its name has to be a
text. -/
theorem record?_insert (h : IsForeign names key) (before after : List (Literal × Tree)) (t : Tree) :
    record? names (.object (before ++ (key, t) :: after)) =
      (Literal.text? key).bind fun _ => record? names (.object (before ++ after)) := by
  unfold record?
  dsimp only
  rw [members?_insert, members?_append]
  cases hkey : Literal.text? key with
  | none => cases members? before <;> rfl
  | some name =>
    have hname : names.contains name = false := by
      rw [← Bool.not_eq_true, List.contains_iff_mem]
      exact fun hmem => h name hmem hkey
    cases members? before with
    | none => rfl
    | some xs =>
      cases members? after with
      | none => rfl
      | some ys =>
        have hfilter : (xs ++ (name, t) :: ys).filter (fun m => names.contains m.1) =
            (xs ++ ys).filter fun m => names.contains m.1 := by
          rw [List.filter_append, List.filter_append, List.filter_cons_of_neg (by simpa using hname)]
        show (if (((xs ++ (name, t) :: ys).filter fun m => names.contains m.1).map
          Prod.fst).Nodup then _ else _) = _
        rw [hfilter]
        rfl

/-- Whether an object is a record does not depend on what stands in a field of it. -/
theorem record?_field {name : String} (hkey : Literal.text? key = some name) (hname : name ∈ names)
    (before after : List (Literal × Tree)) :
    (∀ t, ∃ field, record? names (.object (before ++ (key, t) :: after)) = some field ∧
      field name = some t) ∨
    ∀ t, record? names (.object (before ++ (key, t) :: after)) = none := by
  unfold record?
  dsimp only
  simp only [members?_insert, hkey]
  cases members? before with
  | none => exact .inr fun t => rfl
  | some xs =>
    cases members? after with
    | none => exact .inr fun t => rfl
    | some ys =>
      have hfilter : ∀ t, (xs ++ (name, t) :: ys).filter (fun m => names.contains m.1) =
          xs.filter (fun m => names.contains m.1) ++
            (name, t) :: ys.filter fun m => names.contains m.1 := by
        intro t
        rw [List.filter_append, List.filter_cons, if_pos (List.contains_iff_mem.2 hname)]
      simp only [Option.bind_some, Option.map_some, Option.bind_eq_bind, hfilter]
      generalize xs.filter (fun m => names.contains m.1) = front
      generalize ys.filter (fun m => names.contains m.1) = back
      simp only [List.map_append, List.map_cons]
      by_cases hnodup : (front.map Prod.fst ++ name :: back.map Prod.fst).Nodup
      · left
        intro t
        refine ⟨_, if_pos hnodup, ?_⟩
        have hfront : ∀ m ∈ front, name ≠ m.1 := by
          rintro m hm rfl
          exact (List.nodup_append.1 hnodup).2.2 _ (List.mem_map_of_mem hm) _ (by simp) rfl
        rw [List.lookup_append, List.lookup_eq_none_iff.2 (by simpa using hfront), Option.none_or,
          List.lookup_cons_self]
      · exact .inr fun t => if_neg hnodup

end LoadBench.Json.Tree
