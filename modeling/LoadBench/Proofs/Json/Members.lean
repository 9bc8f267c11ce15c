import LoadBench.Proofs.Json.Value
import Mathlib.Data.String.Basic

/-! The members of a decoded value. In a map each name stands once, in the order of the names; in a
list the members of a record are told by their places. -/
namespace LoadBench.Json
namespace Value

/-- Each name is before all names behind it. -/
def Ascending (ms : List (String × Value)) : Prop := ms.Pairwise fun m n => m.1 < n.1

theorem ascending_insert (name : String) (v : Value) {ms : List (String × Value)}
    (h : Ascending ms) : Ascending (insert name v ms) := by
  induction ms with
  | nil => exact List.pairwise_singleton _ _
  | cons m ms ih =>
    obtain ⟨hm, hms⟩ := List.pairwise_cons.1 h
    unfold insert
    split_ifs with hlt heq
    · refine .cons ?_ h
      intro n hn
      rcases List.mem_cons.1 hn with rfl | hn
      · exact hlt
      · exact hlt.trans (hm n hn)
    · exact .cons (fun n hn => heq ▸ hm n hn) hms
    · have hgt : m.1 < name := lt_of_le_of_ne (not_lt.1 hlt) (Ne.symm heq)
      refine .cons ?_ (ih hms)
      intro n hn
      rcases mem_insert hn with rfl | hn
      · exact hgt
      · exact hm n hn

theorem ascending_sorted (ms : List (String × Value)) : Ascending (sorted ms) := by
  have hfold : ∀ (ms acc : List (String × Value)), Ascending acc →
      Ascending (ms.foldl (fun acc m => insert m.1 m.2 acc) acc) := by
    intro ms
    induction ms with
    | nil => exact fun _ h => h
    | cons m ms ih => exact fun acc h => ih _ (ascending_insert m.1 m.2 h)
  exact hfold ms [] .nil

/-- A name stands once, so it has one value. -/
theorem Ascending.eq_of_name {ms : List (String × Value)} (h : Ascending ms) {m n : String × Value}
    (hm : m ∈ ms) (hn : n ∈ ms) (hname : m.1 = n.1) : m = n := by
  have hnodup : (ms.map Prod.fst).Nodup :=
    List.pairwise_map.2 (h.imp fun hlt => hlt.ne)
  exact List.inj_on_of_nodup_map hnodup hm hn hname

theorem text?_eq_some_iff {v : Value} {s : String} : v.text? = some s ↔ v = .text s := by
  cases v <;> simp [text?]

theorem uint32?_eq_some_iff {v : Value} {n : UInt32} : v.uint32? = some n ↔ v = .int n.toNat := by
  constructor
  · intro h
    unfold uint32? at h
    split at h
    · rename_i i
      split at h
      · rename_i hrange
        cases h
        have hi : i.toNat < UInt32.size := by omega
        rw [UInt32.toNat_ofNat_of_lt' hi, Int.toNat_of_nonneg hrange.1]
      · cases h
    · cases h
  · rintro rfl
    have hrange : 0 ≤ (n.toNat : Int) ∧ (n.toNat : Int) < UInt32.size :=
      ⟨Int.natCast_nonneg _, Int.ofNat_lt.2 n.toNat_lt⟩
    rw [uint32?, if_pos hrange, Int.toNat_natCast, UInt32.ofNat_toNat]

/-- A value has members: a map has them under their names, and a list is made up of their values in
this order. -/
inductive HasMembers : Value → List (String × Value) → Prop
  | map {ms named : List (String × Value)} (found : ∀ m ∈ named, ms.lookup m.1 = some m.2) :
      HasMembers (.map ms) named
  | list (named : List (String × Value)) : HasMembers (.list (named.map Prod.snd)) named

/-- Where no name stands twice, each is found with the item at its place. -/
theorem lookup_zip {named : List (String × Value)} (hnames : (named.map Prod.fst).Nodup)
    {items : List Value} (hlength : items.length ≤ named.length) :
    (∀ m ∈ named, ((named.map Prod.fst).zip items).lookup m.1 = some m.2) ↔
      items = named.map Prod.snd := by
  induction named generalizing items with
  | nil => simpa using hlength
  | cons m named ih =>
    obtain ⟨name, v⟩ := m
    rw [List.map_cons, List.nodup_cons] at hnames
    cases items with
    | nil =>
      exact iff_of_false (fun h => nomatch h (name, v) List.mem_cons_self)
        (List.cons_ne_nil _ _).symm
    | cons item items =>
      have hothers : ∀ n ∈ named, (n.1 == name) = false := by
        intro n hn
        apply beq_false_of_ne
        rintro rfl
        exact hnames.1 (List.mem_map.2 ⟨n, hn, rfl⟩)
      have htail : (∀ n ∈ named, (((name, item) :: (named.map Prod.fst).zip items).lookup n.1) =
          some n.2) ↔ items = named.map Prod.snd := by
        rw [← ih hnames.2 (Nat.le_of_succ_le_succ hlength)]
        refine forall₂_congr fun n hn => ?_
        rw [List.lookup_cons, hothers n hn]
      rw [List.map_cons, List.zip_cons_cons, List.forall_mem_cons, List.lookup_cons_self, htail,
        Option.some.injEq, List.map_cons, List.cons.injEq]

theorem hasMembers_iff {v : Value} {named : List (String × Value)}
    (hnames : (named.map Prod.fst).Nodup) :
    HasMembers v named ↔ ∃ field, v.record? (named.map Prod.fst) = some field ∧
      ∀ m ∈ named, field m.1 = some m.2 := by
  constructor
  · rintro (⟨found⟩ | ⟨_⟩)
    · exact ⟨_, rfl, found⟩
    · have hlength : (named.map Prod.snd).length ≤ (named.map Prod.fst).length := by simp
      exact ⟨_, if_pos hlength, (lookup_zip hnames (by simp)).2 rfl⟩
  · rintro ⟨field, hfield, hmembers⟩
    cases v with
    | map ms =>
      cases hfield
      exact .map hmembers
    | list items =>
      unfold record? at hfield
      dsimp only at hfield
      split at hfield
      · rename_i hlength
        cases hfield
        rw [List.length_map] at hlength
        rw [(lookup_zip hnames hlength).1 hmembers]
        exact .list named
      · cases hfield
    | _ => cases hfield

end Value

/-- Numerals, texts and lists are no maps. -/
theorem exists_sorted_of_value? {t : Tree} {levels : Nat} {ms : List (String × Value)}
    (h : t.value? levels = some (.map ms)) : ∃ vs, ms = Value.sorted vs := by
  cases t with
  | object members =>
    rw [Tree.value?] at h
    split at h
    · cases h
    · obtain ⟨vs, -, hvs⟩ := Option.map_eq_some_iff.1 h
      cases hvs
      exact ⟨vs, rfl⟩
  | array items =>
    rw [Tree.value?] at h
    split at h
    · cases h
    · obtain ⟨_, -, hvs⟩ := Option.map_eq_some_iff.1 h
      cases hvs
  | string s =>
    obtain ⟨_, -, hs⟩ := Option.map_eq_some_iff.1 h
    cases hs
  | number n =>
    rw [Tree.value?] at h
    unfold Value.ofNumeral? Value.ofNumeral?.ofFloat at h
    grind
  | null => cases h
  | bool b => cases h

theorem ascending_of_value? {t : Tree} {levels : Nat} {ms : List (String × Value)}
    (h : t.value? levels = some (.map ms)) : Value.Ascending ms := by
  obtain ⟨vs, rfl⟩ := exists_sorted_of_value? h
  exact Value.ascending_sorted vs

end LoadBench.Json
