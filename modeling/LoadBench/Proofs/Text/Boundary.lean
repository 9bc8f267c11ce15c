import LoadBench.Proofs.Text.Utf8
import Mathlib.Data.List.Basic

/-! Where a text in UTF-8 may be cut in two: in front of an octet that begins a character. -/
namespace LoadBench.Utf8

theorem isText_iff_isValidUTF8 {bs : List UInt8} :
    IsText bs ↔ (⟨bs.toArray⟩ : ByteArray).IsValidUTF8 := by
  constructor
  · rintro ⟨s, rfl⟩
    exact s.isValidUTF8
  · exact fun h => ⟨⟨_, h⟩, rfl⟩

section
variable {s : String} {a b : List UInt8}

theorem toByteArray_of_encode (h : encode s = a) : s.toByteArray = ⟨a.toArray⟩ := by
  rw [← h]
  rfl

theorem utf8ByteSize_of_encode (h : encode s = a ++ b) :
    s.utf8ByteSize = a.length + b.length := by
  show s.toByteArray.size = _
  rw [toByteArray_of_encode h, ← List.length_append]
  rfl

/-- The cut is a position of the string when what lies before it is a text. -/
theorem isValid_cut_iff (h : encode s = a ++ b) :
    String.Pos.Raw.IsValid s ⟨a.length⟩ ↔ IsText a := by
  have hleft : s.toByteArray.extract 0 a.length = ⟨a.toArray⟩ := by
    rw [toByteArray_of_encode h]
    ext1
    simp
  have hle : (⟨a.length⟩ : String.Pos.Raw) ≤ s.rawEndPos := by
    show a.length ≤ s.utf8ByteSize
    rw [utf8ByteSize_of_encode h]
    exact Nat.le_add_right _ _
  rw [String.Pos.Raw.isValid_iff_isValidUTF8_extract_zero, and_iff_right hle, hleft,
    isText_iff_isValidUTF8]

end

/-- What follows a text within a text is a text. -/
theorem IsText.right {a b : List UInt8} (h : IsText (a ++ b)) (ha : IsText a) : IsText b := by
  obtain ⟨s, hs⟩ := h
  have hvalid := ((isValid_cut_iff hs).2 ha).isValidUTF8_extract_utf8ByteSize
  have hright : s.toByteArray.extract a.length s.utf8ByteSize = ⟨b.toArray⟩ := by
    rw [utf8ByteSize_of_encode hs, toByteArray_of_encode hs]
    ext1
    simp
  rw [hright] at hvalid
  exact isText_iff_isValidUTF8.2 hvalid

/-- Nothing, or octets of which the first begins a character. -/
def AtBoundary (bs : List UInt8) : Prop := ∀ b ∈ bs.head?, b.IsUTF8FirstByte

theorem atBoundary_cons {b : UInt8} {bs : List UInt8} :
    AtBoundary (b :: bs) ↔ b.IsUTF8FirstByte := by
  simp [AtBoundary]

/-- The octets before a cut are a text exactly when no character runs over the cut. -/
theorem IsText.left_iff {a b : List UInt8} (h : IsText (a ++ b)) : IsText a ↔ AtBoundary b := by
  obtain ⟨s, hs⟩ := h
  have hsize := utf8ByteSize_of_encode hs
  rw [← isValid_cut_iff hs, String.Pos.Raw.isValid_iff_isUTF8FirstByte]
  cases b with
  | nil =>
    have hend : (⟨a.length⟩ : String.Pos.Raw) = s.rawEndPos :=
      String.Pos.Raw.ext (by simpa using hsize.symm)
    exact ⟨fun _ c hc => absurd hc (Option.not_mem_none c), fun _ => .inl hend⟩
  | cons c cs =>
    have hlt : (⟨a.length⟩ : String.Pos.Raw) < s.rawEndPos := by
      show a.length < s.utf8ByteSize
      rw [hsize, List.length_cons]
      omega
    have hne : (⟨a.length⟩ : String.Pos.Raw) ≠ s.rawEndPos := String.Pos.Raw.ne_of_lt hlt
    have hoctet : s.getUTF8Byte ⟨a.length⟩ hlt = c := by
      show s.toByteArray[a.length] = c
      simp [toByteArray_of_encode hs, ByteArray.getElem_eq_getElem_data]
    rw [or_iff_right hne, exists_prop_of_true hlt, hoctet, atBoundary_cons]

theorem IsText.atBoundary {bs : List UInt8} (h : IsText bs) : AtBoundary bs :=
  (show IsText ([] ++ bs) from h).left_iff.1 isText_nil

/-- An octet of ASCII parts a text into two. -/
theorem isText_append_cons {b : UInt8} (hb : b < 0x80) {front back : List UInt8} :
    IsText (front ++ b :: back) ↔ IsText front ∧ IsText back := by
  have hsingle : IsText [b] := isText_singleton hb
  constructor
  · intro h
    have hfront : IsText front := h.left_iff.2 (atBoundary_cons.2 (atBoundary_cons.1
      hsingle.atBoundary))
    have hrest : IsText ([b] ++ back) := h.right hfront
    exact ⟨hfront, hrest.right hsingle⟩
  · rintro ⟨hfront, hback⟩
    exact hfront.append (hsingle.append hback)

theorem isText_cons {b : UInt8} (hb : b < 0x80) {bs : List UInt8} :
    IsText (b :: bs) ↔ IsText bs :=
  (@isText_append_cons b hb [] bs).trans (and_iff_right isText_nil)

end LoadBench.Utf8
