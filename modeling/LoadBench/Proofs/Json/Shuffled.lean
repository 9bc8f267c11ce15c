import LoadBench.Proofs.Json.Fields

/-! Records whose members stand in any order, and lack some that have defaults. -/
namespace LoadBench.Json

/-- A numeral that does not overflow has a value, as an integer or as a binary64. -/
theorem Value.isSome_ofNumeral? {n : Numeral} (h : n.toBinary64.isFinite = true) :
    (Value.ofNumeral? n).isSome = true := by
  have hfloat : (Value.ofNumeral?.ofFloat n.toBinary64).isSome = true := by
    rw [Value.ofNumeral?.ofFloat, if_pos h]
    rfl
  unfold Value.ofNumeral?
  cases n.int? with
  | none => exact hfloat
  | some i =>
    dsimp only
    split_ifs
    · rfl
    · exact hfloat

namespace Tree

theorem value?_ofNat (levels : Nat) (n : UInt32) :
    (ofNat n.toNat).value? levels = some (.int n.toNat) := by
  have hn := n.toNat_lt
  have hrange : Int64.minValue.toInt ≤ (n.toNat : Int) ∧ (n.toNat : Int) < UInt64.size := by
    have hmin : Int64.minValue.toInt = -2 ^ 63 := by decide
    rw [hmin]
    unfold UInt64.size
    omega
  rw [ofNat, value?, Value.ofNumeral?, Numeral.int?_ofInt]
  dsimp only
  rw [if_pos hrange]

theorem isSome_value?_ofFloat (levels : Nat) {x : Binary64} (h : x.isFinite = true) :
    ((ofFloat x).value? levels).isSome = true := by
  rw [ofFloat, if_pos h, value?]
  apply Value.isSome_ofNumeral?
  rwa [Binary64.toBinary64_numeral numberStyle h]

/-- An object of texts and finite numbers has a value if its members have one. -/
theorem isSome_value?_record {levels : Nat} {ms : List (String × Tree)}
    (h : ∀ m ∈ ms, (m.2.value? levels).isSome = true) :
    ((record ms).value? (levels + 1)).isSome = true := by
  have hmembers : (memberValues? levels (ms.map fun m => (literal m.1, m.2))).isSome = true := by
    induction ms with
    | nil => rfl
    | cons m ms ih =>
      obtain ⟨hm, hms⟩ := List.forall_mem_cons.1 h
      obtain ⟨v, hv⟩ := Option.isSome_iff_exists.1 hm
      obtain ⟨vs, hvs⟩ := Option.isSome_iff_exists.1 (ih hms)
      rw [List.map_cons, memberValues?, Literal.text?_literal, hv, hvs]
      rfl
  rw [record_eq, value?, if_neg (Nat.succ_ne_zero levels), Nat.add_sub_cancel, Option.isSome_map]
  exact hmembers

section
variable {members kept dropped : List (String × Tree)}

/-- The members that are kept are read, in whatever order they stand. -/
theorem record?_kept (h : (kept ++ dropped).Perm members)
    (hn : (members.map Prod.fst).Nodup) :
    (record kept).record? (members.map Prod.fst) = some fun name => kept.lookup name := by
  have hnames := (h.map Prod.fst).nodup_iff.2 hn
  rw [List.map_append] at hnames
  refine record?_record (List.nodup_append.1 hnames).1 fun m hm => ?_
  exact List.mem_map_of_mem (h.subset (List.mem_append_left dropped hm))

/-- A field is read from its member, wherever it stands; it has its default where the member is
dropped. -/
theorem elim_lookup_kept {α : Type} (h : (kept ++ dropped).Perm members)
    (hn : (members.map Prod.fst).Nodup) {name : String} {t : Tree} (hmem : (name, t) ∈ members)
    {read : Tree → Option α} {v default : α} (hread : read t = some v)
    (hdefault : (name, t) ∈ dropped → v = default) :
    (kept.lookup name).elim (some default) read = some v := by
  have hnames := (h.map Prod.fst).nodup_iff.2 hn
  rw [List.map_append] at hnames
  rcases List.mem_append.1 (h.mem_iff.2 hmem) with hkept | hdropped
  · rw [lookup_of_mem (List.nodup_append.1 hnames).1 hkept]
    exact hread
  · have hmissing : kept.lookup name = none := by
      rw [List.lookup_eq_none_iff]
      intro m hm
      have hne := (List.nodup_append.1 hnames).2.2 _ (List.mem_map_of_mem hm) _
        (List.mem_map_of_mem hdropped)
      simpa using Ne.symm hne
    rw [hmissing, hdefault hdropped]
    rfl

/-- What is dropped are members of a record of defaults, and each field is read as the members or the
defaults have it. -/
theorem elim_lookup_of_defaults {α : Type} {defaults : List (String × Tree)}
    (h : (kept ++ dropped).Perm members) (hn : (members.map Prod.fst).Nodup)
    (hd : (defaults.map Prod.fst).Nodup) (hdropped : dropped ⊆ defaults) {name : String}
    {t t₀ : Tree} (hmem : (name, t) ∈ members) (hmem₀ : (name, t₀) ∈ defaults)
    {read : Tree → Option α} {v v₀ : α} (hread : read t = some v) (hread₀ : read t₀ = some v₀) :
    (kept.lookup name).elim (some v₀) read = some v := by
  refine elim_lookup_kept h hn hmem hread fun hm => ?_
  have hmember : (name, t) = (name, t₀) := List.inj_on_of_nodup_map hd (hdropped hm) hmem₀ rfl
  have htree : t = t₀ := (Prod.mk.inj hmember).2
  rw [htree, hread₀] at hread
  exact (Option.some.inj hread).symm

/-- Whether members of some name stand in an object, and which, does not depend on their order. -/
theorem filter_eq_singleton {p : String × Tree → Bool} {m : String × Tree}
    (h : kept.Perm members) (hm : members.filter p = [m]) : kept.filter p = [m] := by
  have hperm := h.filter p
  rw [hm] at hperm
  exact hperm.eq_singleton

end

/-- A tag behind its content. The content is held back until the tag is known. -/
theorem tagged?_record_of_content_first {tagName contentName : String} (hne : contentName ≠ tagName)
    (tag : String) {content : Tree} (h : (content.value? (maxLevels - 1)).isSome = true) :
    (record [(contentName, content), (tagName, ofText tag)]).tagged? tagName contentName =
      some ⟨tag, some content, true⟩ := by
  obtain ⟨v, hv⟩ := Option.isSome_iff_exists.1 h
  rw [record_eq]
  unfold tagged?
  dsimp only
  rw [members?_map]
  simp [variant?_ofText, hne, hv]

end Tree
end LoadBench.Json
