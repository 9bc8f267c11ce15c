import LoadBench.Json.Value
import LoadBench.Proofs.Binary64.Nearest

/-! Decoded values hold finite numbers only, and integers of sixty-four bits. -/
namespace LoadBench.Json
namespace Value

inductive Bounded : Value → Prop
  | null : Bounded .null
  | bool (b : Bool) : Bounded (.bool b)
  | int {i : Int} (small : i.natAbs < 2 ^ 64) : Bounded (.int i)
  | float {x : Binary64} (finite : x.isFinite = true) : Bounded (.float x)
  | text (s : String) : Bounded (.text s)
  | list {items : List Value} (items_bounded : ∀ v ∈ items, Bounded v) : Bounded (.list items)
  | map {ms : List (String × Value)} (members_bounded : ∀ m ∈ ms, Bounded m.2) :
      Bounded (.map ms)

theorem bounded_of_ofFloat {x : Binary64} {v : Value}
    (h : ofNumeral?.ofFloat x = some v) : v.Bounded := by
  unfold ofNumeral?.ofFloat at h
  split at h
  · rename_i hx
    cases h
    exact .float hx
  · cases h

theorem bounded_of_numeral {n : Numeral} {v : Value} (h : ofNumeral? n = some v) : v.Bounded := by
  unfold ofNumeral? at h
  split at h
  · rename_i i hi
    split at h
    · rename_i hrange
      cases h
      have hmin : Int64.minValue.toInt = -2 ^ 63 := by decide
      rw [hmin] at hrange
      apply Bounded.int
      unfold UInt64.size at hrange
      omega
    · exact bounded_of_ofFloat h
  · exact bounded_of_ofFloat h

theorem mem_insert {name : String} {v : Value} {ms : List (String × Value)} {m : String × Value}
    (h : m ∈ insert name v ms) : m = (name, v) ∨ m ∈ ms := by
  induction ms with
  | nil => exact .inl (List.mem_singleton.1 h)
  | cons n ms ih =>
    unfold insert at h
    split at h
    · exact List.mem_cons.1 h
    · split at h
      · exact (List.mem_cons.1 h).imp_right (List.mem_cons_of_mem _)
      · rcases List.mem_cons.1 h with rfl | h
        · exact .inr (List.mem_cons_self ..)
        · exact (ih h).imp_right (List.mem_cons_of_mem _)

theorem mem_sorted {ms : List (String × Value)} {m : String × Value} (h : m ∈ sorted ms) :
    m ∈ ms := by
  have hfold : ∀ (ms acc : List (String × Value)),
      m ∈ ms.foldl (fun acc n => insert n.1 n.2 acc) acc → m ∈ acc ∨ m ∈ ms := by
    intro ms
    induction ms with
    | nil => exact fun _ => .inl
    | cons n ms ih =>
      intro acc h
      rcases ih _ h with h | h
      · rcases mem_insert h with rfl | h
        · exact .inr (List.mem_cons_self ..)
        · exact .inl h
      · exact .inr (List.mem_cons_of_mem _ h)
  exact (hfold ms [] h).resolve_left List.not_mem_nil

theorem Bounded.float?_isFinite {v : Value} (hv : v.Bounded) {x : Binary64}
    (h : v.float? = some x) : x.isFinite = true := by
  cases hv with
  | int small =>
    cases h
    exact Binary64.isFinite_ofInt small
  | float finite =>
    cases h
    exact finite
  | _ => cases h

theorem mem_of_lookup {ms : List (String × Value)} {name : String} {v : Value}
    (h : ms.lookup name = some v) : (name, v) ∈ ms := by
  obtain ⟨before, after, rfl, -⟩ := List.lookup_eq_some_iff.1 h
  simp

/-- The fields of a bounded value are bounded. -/
theorem Bounded.field {v w : Value} (hv : v.Bounded) {names : List String} {name : String}
    {field : String → Option Value} (hf : v.record? names = some field)
    (hw : field name = some w) : w.Bounded := by
  cases hv with
  | map members_bounded =>
    cases hf
    exact members_bounded _ (mem_of_lookup hw)
  | list items_bounded =>
    unfold record? at hf
    dsimp only at hf
    split at hf
    · cases hf
      exact items_bounded _ (List.of_mem_zip (mem_of_lookup hw)).2
    · cases hf
  | _ => cases hf

end Value

mutual
/-- Whatever a tree is decoded to is bounded. -/
theorem bounded_of_value? : (t : Tree) → ∀ {levels : Nat} {v : Value},
    t.value? levels = some v → v.Bounded
  | .null => fun h => by cases h; exact .null
  | .bool b => fun h => by cases h; exact .bool b
  | .number n => fun h => Value.bounded_of_numeral h
  | .string s => fun h => by
    obtain ⟨text, -, rfl⟩ := Option.map_eq_some_iff.1 h
    exact .text text
  | .array items => fun h => by
    rw [Tree.value?] at h
    split at h
    · cases h
    · obtain ⟨vs, hvs, rfl⟩ := Option.map_eq_some_iff.1 h
      exact .list (bounded_of_itemValues? items hvs)
  | .object ms => fun h => by
    rw [Tree.value?] at h
    split at h
    · cases h
    · obtain ⟨vs, hvs, rfl⟩ := Option.map_eq_some_iff.1 h
      exact .map fun m hm => bounded_of_memberValues? ms hvs m (Value.mem_sorted hm)

theorem bounded_of_itemValues? : (items : List Tree) → ∀ {levels : Nat} {vs : List Value},
    itemValues? levels items = some vs → ∀ v ∈ vs, v.Bounded
  | [] => fun h => by cases h; simp
  | t :: ts => fun h => by
    rw [itemValues?] at h
    obtain ⟨v, hv, h⟩ := Option.bind_eq_some_iff.1 h
    obtain ⟨vs, hvs, h⟩ := Option.bind_eq_some_iff.1 h
    cases h
    intro w hw
    rcases List.mem_cons.1 hw with rfl | hw
    · exact bounded_of_value? t hv
    · exact bounded_of_itemValues? ts hvs w hw

theorem bounded_of_memberValues? : (ms : List (Literal × Tree)) → ∀ {levels : Nat}
    {vs : List (String × Value)}, memberValues? levels ms = some vs → ∀ m ∈ vs, m.2.Bounded
  | [] => fun h => by cases h; simp
  | (k, t) :: ms => fun h => by
    rw [memberValues?] at h
    obtain ⟨name, -, h⟩ := Option.bind_eq_some_iff.1 h
    obtain ⟨v, hv, h⟩ := Option.bind_eq_some_iff.1 h
    obtain ⟨vs, hvs, h⟩ := Option.bind_eq_some_iff.1 h
    cases h
    intro m hm
    rcases List.mem_cons.1 hm with rfl | hm
    · exact bounded_of_value? t hv
    · exact bounded_of_memberValues? ms hvs m hm
end

end LoadBench.Json
