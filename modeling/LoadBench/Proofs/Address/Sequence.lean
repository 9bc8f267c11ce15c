import LoadBench.Address.Cursor
import Mathlib.Data.Finset.Card
import Mathlib.Data.Nat.ModEq

/-!
Consecutive addresses, and arithmetic modulo the number of addresses of a kind.

Main statement: taking the addresses of a range one by one gives the numbers from its base on,
modulo the number of addresses of the kind; the last of them is the one that is found without taking
any.
-/
namespace LoadBench

open AddressRange (sequence)

namespace Cursor
variable {k : AddressKind} {c : Cursor k} {as bs : List (Address k)}

/-- The addresses that are taken one after the other, until there is none left. -/
inductive Yields : Cursor k → List (Address k) → Prop
  | done {c c' : Cursor k} (exhausted : c.advance = (none, c')) : Yields c []
  | step {c c' : Cursor k} {a : Address k} {as : List (Address k)}
      (taken : c.advance = (some a, c')) (rest : Yields c' as) : Yields c (a :: as)

theorem Yields.eq_toList (h : c.Yields as) : as = c.toList := by
  induction h with
  | @done c c' exhausted =>
    have hhead : none = c.toList.head? := by rw [← advance_fst, exhausted]
    exact (List.head?_eq_none_iff.1 hhead.symm).symm
  | @step c c' a as taken _ ih =>
    have hhead : some a = c.toList.head? := by rw [← advance_fst, taken]
    have htail : c'.toList = c.toList.tail := by rw [← advance_snd, taken]
    rw [ih, htail]
    exact (List.eq_cons_of_mem_head? hhead.symm).symm

theorem yields_toList (c : Cursor k) : c.Yields c.toList := by
  generalize hlist : c.toList = as
  induction as generalizing c with
  | nil =>
    have hhead : c.advance.1 = none := by rw [advance_fst, hlist]; rfl
    exact .done (Prod.ext hhead rfl)
  | cons a as ih =>
    have hhead : c.advance.1 = some a := by rw [advance_fst, hlist]; rfl
    have htail : c.advance.2.toList = as := by rw [advance_snd, hlist]; rfl
    exact .step (Prod.ext hhead rfl) (ih c.advance.2 htail)

/-- There is always an end, and only one way to get there. -/
theorem yields_iff : c.Yields as ↔ as = c.toList := by
  constructor
  · exact Yields.eq_toList
  · intro h
    rw [h]
    exact c.yields_toList

end Cursor

theorem AddressKind.size_pos (k : AddressKind) : 0 < k.size := Nat.pow_pos (by decide)

namespace Address
variable {k : AddressKind}

/-- Two places from one base hold the same address when they are whole rounds apart. -/
theorem add_eq_add_iff (a : Address k) (i j : Nat) : a.add i = a.add j ↔ i ≡ j [MOD k.size] := by
  constructor
  · intro h
    have hmod : (a.toNat + i) % k.size = (a.toNat + j) % k.size := by
      rw [← toNat_add, ← toNat_add, h]
    exact Nat.ModEq.add_left_cancel' a.toNat hmod
  · intro h
    have hmod : (a.toNat + i) % k.size = (a.toNat + j) % k.size := h.add_left a.toNat
    apply ext_toNat
    rw [toNat_add, toNat_add, hmod]

end Address

namespace AddressRange
variable {k : AddressKind}

@[simp] theorem length_sequence (a : Address k) (n : Nat) : (sequence a n).length = n := by
  simp [sequence]

theorem getElem_sequence (a : Address k) (n : Nat) {i : Nat} (h : i < (sequence a n).length) :
    (sequence a n)[i] = a.add i := by
  simp [sequence]

theorem toNat_sequence (base : Address k) (count : Nat) :
    (sequence base count).map Address.toNat =
      (List.range count).map fun i => (base.toNat + i) % Nat.pow 2 k.width := by
  rw [sequence, List.map_map]
  exact List.map_congr_left fun i _ => base.toNat_add i

/-- One round has no address twice. -/
theorem nodup_sequence (a : Address k) {n : Nat} (h : n ≤ k.size) : (sequence a n).Nodup := by
  apply List.Nodup.map_on _ List.nodup_range
  intro i hi j hj hsame
  have hi' : i < n := List.mem_range.1 hi
  have hj' : j < n := List.mem_range.1 hj
  have hmod : i ≡ j [MOD k.size] := (a.add_eq_add_iff i j).1 hsame
  exact hmod.eq_of_lt_of_lt (by omega) (by omega)

/-- After one round there is nothing new. -/
theorem toFinset_sequence (a : Address k) (n : Nat) :
    (sequence a n).toFinset = (sequence a (min n k.size)).toFinset := by
  ext b
  simp only [List.mem_toFinset, sequence, List.mem_map, List.mem_range]
  constructor
  · rintro ⟨i, hi, rfl⟩
    have hround : i % k.size < k.size := Nat.mod_lt i k.size_pos
    have hle : i % k.size ≤ i := Nat.mod_le i k.size
    exact ⟨i % k.size, by omega, (a.add_eq_add_iff _ _).2 (Nat.mod_modEq i k.size)⟩
  · rintro ⟨i, hi, rfl⟩
    exact ⟨i, by omega, rfl⟩

theorem card_toFinset_sequence (a : Address k) (n : Nat) :
    (sequence a n).toFinset.card = min n k.size := by
  have hnodup : (sequence a (min n k.size)).Nodup := nodup_sequence a (by omega)
  rw [toFinset_sequence, List.toFinset_card_of_nodup hnodup, length_sequence]

theorem getLast?_toList (r : AddressRange k) : r.toList.getLast? = some r.last := by
  have hpos := r.count_pos
  have hlast : r.toList[r.count - 1]? = some r.last := r.getElem?_toList (r.count - 1) (by omega)
  rw [List.getLast?_eq_getElem?, length_toList, hlast]

/-- A range is a shorter one with the same base, and one that goes on where this stops. -/
theorem toList_eq_append {r left right : AddressRange k} (hbase : left.base = r.base)
    (hcount : left.count + right.count = r.count)
    (hright : right.base.toNat = (r.base.toNat + left.count) % k.size) :
    r.toList = left.toList ++ right.toList := by
  have hnext : right.base = r.base.add left.count := by
    apply Address.ext_toNat
    rw [hright, Address.toNat_add]
  rw [toList, toList, toList, ← hcount, hnext, hbase]
  exact sequence_add r.base left.count right.count

/-- What a range lists, taken one by one. There are as many values as its count says, and they are
the numbers from the base on, modulo the number of addresses of the kind; the last is found without
listing them. Values repeat after whole rounds and not before, and a range is listed part by
part. -/
theorem lists_modulo (r : AddressRange k) :
    (∀ as, (Cursor.ofRange r).Yields as ↔ as = r.toList) ∧
      r.toList.length = r.count ∧
      (∀ i (h : i < r.toList.length),
        r.toList[i].toNat = (r.base.toNat + i) % Nat.pow 2 k.width) ∧
      r.toList.getLast? = some r.last ∧
      (∀ i j (hi : i < r.toList.length) (hj : j < r.toList.length),
        r.toList[i] = r.toList[j] ↔ i ≡ j [MOD Nat.pow 2 k.width]) ∧
      r.toList.toFinset.card = min r.count (Nat.pow 2 k.width) ∧
      ∀ left right : AddressRange k, left.base = r.base → left.count + right.count = r.count →
        right.base.toNat = (r.base.toNat + left.count) % Nat.pow 2 k.width →
        r.toList = left.toList ++ right.toList := by
  have hvalue : ∀ i (h : i < r.toList.length), r.toList[i] = r.base.add i :=
    fun i h => getElem_sequence r.base r.count h
  refine ⟨fun _ => Cursor.yields_iff, r.length_toList, ?_, r.getLast?_toList, ?_, ?_, ?_⟩
  · intro i h
    rw [hvalue i h]
    exact Address.toNat_add r.base i
  · intro i j hi hj
    rw [hvalue i hi, hvalue j hj]
    exact r.base.add_eq_add_iff i j
  · exact card_toFinset_sequence r.base r.count
  · exact fun left right => toList_eq_append

/-- Ports that go round, and the two parts before and after the first port. -/
theorem lists_modulo_round :
    let r : AddressRange .port := { base := .ofNat 65534, count := 65539 }
    let left : AddressRange .port := { base := .ofNat 65534, count := 2 }
    let right : AddressRange .port := { base := .ofNat 0, count := 65537 }
    (∀ as, (Cursor.ofRange r).Yields as ↔ as = r.toList) ∧ r.toList.length = 65539 ∧
      r.toList[2]?.map Address.toNat = some 0 ∧ r.toList[65536]? = r.toList[0]? ∧
      r.toList.getLast? = some r.last ∧ r.last.toNat = 0 ∧ r.toList.toFinset.card = 65536 ∧
      left.count + right.count = r.count ∧
      right.base.toNat = (r.base.toNat + left.count) % Nat.pow 2 16 ∧
      r.toList = left.toList ++ right.toList := by
  intro r left right
  obtain ⟨hyields, hlength, hvalue, hlast, hequal, hcard, hparts⟩ := r.lists_modulo
  have hcount : r.count = 65539 := rfl
  have h0 : 0 < r.toList.length := by omega
  have h2 : 2 < r.toList.length := by omega
  have h65536 : 65536 < r.toList.length := by omega
  have hwhole : 65536 ≡ 0 [MOD Nat.pow 2 16] := by decide
  have hround : r.toList[65536] = r.toList[0] := (hequal 65536 0 h65536 h0).2 hwhole
  have hdistinct : min 65539 (Nat.pow 2 16) = 65536 := by decide
  have hfirst : r.toList[2].toNat = 0 := (hvalue 2 h2).trans (by decide)
  have hsum : left.count + right.count = r.count := by decide
  have hnext : right.base.toNat = (r.base.toNat + left.count) % Nat.pow 2 16 := by decide
  refine ⟨hyields, hlength, ?_, ?_, hlast, by decide, hcard.trans hdistinct, hsum, hnext,
    hparts left right rfl hsum hnext⟩
  · rw [List.getElem?_eq_getElem h2, Option.map_some, hfirst]
  · rw [List.getElem?_eq_getElem h65536, List.getElem?_eq_getElem h0, hround]

end AddressRange
end LoadBench
