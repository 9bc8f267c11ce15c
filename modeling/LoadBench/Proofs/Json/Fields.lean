import LoadBench.Json.Decode
import LoadBench.Proofs.Binary64.Notation
import LoadBench.Proofs.Fallible

/-! Typed data is read back from the tree it is written as. -/
namespace LoadBench

theorem Numeral.int?_ofInt (i : Int) : (Numeral.ofInt i).int? = some i := by
  have hvalue : (Numeral.ofInt i).coefficient = i.natAbs := by
    unfold coefficient ofInt
    rw [List.append_nil, Digits.value_ofNat]
  unfold int?
  rw [hvalue]
  by_cases hi : i < 0
  · have hneg : (Numeral.ofInt i).negative = true := decide_eq_true hi
    obtain ⟨n, hn⟩ := Nat.exists_eq_succ_of_ne_zero (show i.natAbs ≠ 0 by omega)
    rw [hneg, hn]
    show some (-((n + 1 : Nat) : Int)) = some i
    congr 1
    omega
  · have hneg : (Numeral.ofInt i).negative = false := decide_eq_false hi
    rw [hneg]
    show some ((i.natAbs : Nat) : Int) = some i
    congr 1
    omega

theorem Numeral.wellFormed_ofInt (i : Int) : (Numeral.ofInt i).WellFormed := by
  refine ⟨?_, fun _ _ _ he => nomatch he⟩
  by_cases hi : i.natAbs = 0
  · left
    show Digits.ofNat i.natAbs = _
    rw [hi, Digits.ofNat]
    rfl
  · exact .inr (Digits.head_ofNat hi)

namespace Json

theorem Literal.octets?_bytes (acc bs : List UInt8) :
    Literal.octets? acc (bs.map .byte) = some (bs.reverse ++ acc) := by
  induction bs generalizing acc with
  | nil => rfl
  | cons b bs ih =>
    rw [List.map_cons, Literal.octets?, ih]
    simp

@[simp] theorem Literal.text?_literal (s : String) : Literal.text? (literal s) = some s := by
  unfold Literal.text? literal
  rw [octets?_bytes, Option.bind_some, List.append_nil, List.reverse_reverse, Utf8.decode?_encode]

namespace Tree

@[simp] theorem text?_ofText (s : String) : (ofText s).text? = some s :=
  Literal.text?_literal s

@[simp] theorem bool?_bool (b : Bool) : (Tree.bool b).bool? = some b := rfl

theorem nat?_ofNat {n bound : ℕ} (h : n < bound) : (ofNat n).nat? bound = some n := by
  have hrange : (0 : Int) ≤ n ∧ (n : Int) ≤ (bound : Int) - 1 := by omega
  unfold nat? int? ofNat
  dsimp only
  rw [Numeral.int?_ofInt, Option.bind_some, if_pos hrange, Option.map_some, Int.toNat_natCast]

@[simp] theorem uint16?_ofNat (n : UInt16) : (ofNat n.toNat).uint16? = some n := by
  rw [uint16?, nat?_ofNat n.toNat_lt, Option.map_some, UInt16.ofNat_toNat]

@[simp] theorem uint32?_ofNat (n : UInt32) : (ofNat n.toNat).uint32? = some n := by
  rw [uint32?, nat?_ofNat n.toNat_lt, Option.map_some, UInt32.ofNat_toNat]

theorem float?_ofFloat {x : Binary64} (h : x.isFinite = true) : (ofFloat x).float? = some x := by
  unfold ofFloat
  rw [if_pos h, float?, Binary64.toBinary64_numeral numberStyle h, if_pos h]

theorem list?_array {α : Type} {read : Tree → Option α} {write : α → Tree} {xs : List α}
    (h : ∀ x ∈ xs, read (write x) = some x) : list? read (.array (xs.map write)) = some xs := by
  show (xs.map write).mapM read = some xs
  exact mapM_map_eq_some h

theorem members?_map (ms : List (String × Tree)) :
    members? (ms.map fun m => (literal m.1, m.2)) = some ms := by
  induction ms with
  | nil => rfl
  | cons m ms ih =>
    rw [List.map_cons, members?, Literal.text?_literal, ih]
    rfl

/-- The fields of a record of known names. -/
theorem record?_record {names : List String} {ms : List (String × Tree)}
    (hn : (ms.map Prod.fst).Nodup) (hs : ∀ m ∈ ms, m.1 ∈ names) :
    (record ms).record? names = some fun name => ms.lookup name := by
  have hknown : ms.filter (fun m => names.contains m.1) = ms :=
    List.filter_eq_self.2 fun m hm => List.contains_iff_mem.2 (hs m hm)
  rw [record_eq]
  unfold record?
  dsimp only
  rw [members?_map]
  show (if ((ms.filter fun m => names.contains m.1).map Prod.fst).Nodup then _ else _) = _
  rw [hknown, if_pos hn]

theorem lookup_of_mem {ms : List (String × Tree)} (hn : (ms.map Prod.fst).Nodup) {name : String}
    {t : Tree} (h : (name, t) ∈ ms) : ms.lookup name = some t := by
  induction ms with
  | nil => cases h
  | cons m ms ih =>
    rw [List.map_cons, List.nodup_cons] at hn
    rcases List.mem_cons.1 h with rfl | hm
    · exact List.lookup_cons_self
    · have hne : (name == m.1) = false := by
        apply beq_false_of_ne
        rintro rfl
        exact hn.1 (List.mem_map.2 ⟨_, hm, rfl⟩)
      obtain ⟨n, u⟩ := m
      rw [List.lookup_cons, hne]
      exact ih hn.2 hm

/-- Fields of one kind, read one after another. -/
theorem mapM_fields {α : Type} {read : Tree → Option α} {field : String → Option Tree}
    {names : List String} {xs : List α} (hl : names.length = xs.length)
    (h : ∀ p ∈ names.zip xs, (field p.1).bind read = some p.2) :
    (names.mapM fun name => (field name).bind read) = some xs := by
  induction names generalizing xs with
  | nil =>
    obtain rfl : xs = [] := List.length_eq_zero_iff.1 hl.symm
    rfl
  | cons name names ih =>
    cases xs with
    | nil => cases hl
    | cons x xs =>
      rw [List.mapM_cons, h (name, x) (by simp), ih (by simpa using hl)
        fun p hp => h p (by simp [hp])]
      rfl

theorem variant?_ofText (s : String) : (ofText s).variant? = some s := Literal.text?_literal s

/-- A tag with its content, in this order. -/
theorem tagged?_record (tagName contentName tag : String) (content : Tree) :
    (record [(tagName, ofText tag), (contentName, content)]).tagged? tagName contentName =
      some ⟨tag, some content, false⟩ := by
  rw [record_eq]
  unfold tagged?
  dsimp only
  rw [members?_map]
  simp [variant?_ofText]

/-- A tag without content. -/
theorem tagged?_tag (tagName contentName tag : String) :
    (record [(tagName, ofText tag)]).tagged? tagName contentName = some ⟨tag, none, false⟩ := by
  rw [record_eq]
  unfold tagged?
  dsimp only
  rw [members?_map]
  simp [variant?_ofText]

theorem value?_ofText (levels : Nat) (s : String) : (ofText s).value? levels = some (.text s) := by
  rw [ofText_eq, value?, Literal.text?_literal]
  rfl

theorem value?_texts {levels : Nat} (h : 0 < levels) (texts : List String) :
    (Tree.array (texts.map ofText)).value? levels = some (.list (texts.map .text)) := by
  have hitems : itemValues? (levels - 1) (texts.map ofText) = some (texts.map .text) := by
    induction texts with
    | nil => rfl
    | cons s texts ih =>
      rw [List.map_cons, itemValues?, value?_ofText, ih]
      rfl
  rw [value?, if_neg (by omega), hitems]
  rfl

/-! ### What is written -/

theorem written_ofText (s : String) : (ofText s).Written := .text s

theorem written_ofNat (n : Nat) : (ofNat n).Written := .number (Numeral.wellFormed_ofInt n)

theorem written_ofFloat (x : Binary64) : (ofFloat x).Written := by
  unfold ofFloat
  by_cases h : x.isFinite = true
  · rw [if_pos h]
    exact .number (Binary64.wellFormed_numeral numberStyle h)
  · rw [if_neg h]
    exact .null

theorem written_map {α : Type} {write : α → Tree} (xs : List α) (h : ∀ x, (write x).Written) :
    (Tree.array (xs.map write)).Written := by
  apply Tree.Written.array
  intro t ht
  obtain ⟨x, -, rfl⟩ := List.mem_map.1 ht
  exact h x

theorem written_record {ms : List (String × Tree)} (h : ∀ m ∈ ms, m.2.Written) :
    (record ms).Written := .record h

end Tree
end Json
end LoadBench
