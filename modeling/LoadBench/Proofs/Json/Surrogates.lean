import LoadBench.Json.Value
import LoadBench.Proofs.Json.Grammar
import LoadBench.Proofs.Text.Numbers

/-! Which strings are texts: those whose surrogates come in pairs. -/
namespace LoadBench.Json

/-- A high surrogate stands only in front of a low one, and a low one only behind a high one. -/
inductive Literal.Paired : Literal → Prop
  | nil : Paired []
  | byte (b : UInt8) {ps : Literal} (rest : Paired ps) : Paired (.byte b :: ps)
  | unit {u : UInt16} {ps : Literal} (no_surrogate : u < 0xD800 ∨ 0xE000 ≤ u) (rest : Paired ps) :
      Paired (.unit u :: ps)
  | pair {u v : UInt16} {ps : Literal} (high : 0xD800 ≤ u ∧ u < 0xDC00)
      (low : 0xDC00 ≤ v ∧ v < 0xE000) (rest : Paired ps) : Paired (.unit u :: .unit v :: ps)

theorem paired_literal (s : String) : (literal s).Paired := by
  unfold literal
  induction Utf8.encode s with
  | nil => exact .nil
  | cons b bs ih => exact .byte b ih

theorem Literal.Paired.of_high {u : UInt16} {ps : Literal} (h : Paired (.unit u :: ps))
    (high : 0xD800 ≤ u ∧ u < 0xDC00) :
    ∃ v qs, ps = .unit v :: qs ∧ (0xDC00 ≤ v ∧ v < 0xE000) ∧ Paired qs := by
  cases h with
  | unit no_surrogate _ =>
    rcases no_surrogate with hlt | hle
    · exact absurd high.1 (UInt16.not_le.2 hlt)
    · exact absurd (UInt16.lt_of_lt_of_le high.2 (by decide)) (UInt16.not_lt.2 hle)
  | pair _ low rest => exact ⟨_, _, rfl, low, rest⟩

theorem Literal.Paired.of_not_high {u : UInt16} {ps : Literal} (h : Paired (.unit u :: ps))
    (not_high : ¬(0xD800 ≤ u ∧ u < 0xDC00)) : (u < 0xD800 ∨ 0xE000 ≤ u) ∧ Paired ps := by
  cases h with
  | unit no_surrogate rest => exact ⟨no_surrogate, rest⟩
  | pair high _ _ => exact absurd high not_high

theorem isIn_iff {lo hi u : UInt16} :
    (decide (lo ≤ u) && decide (u < hi)) = true ↔ lo ≤ u ∧ u < hi := by
  simp

/-- Only strings with all surrogates in pairs are decoded. -/
theorem paired_of_octets? {acc os : List UInt8} {s : Literal}
    (h : Literal.octets? acc s = some os) : s.Paired := by
  fun_induction Literal.octets? acc s with
  | case1 => exact .nil
  | case2 acc b ps ih => exact .byte b (ih h)
  | case3 acc u high v ps low n ih => exact .pair (isIn_iff.1 high) (isIn_iff.1 low) (ih h)
  | case4 => cases h
  | case5 => cases h
  | case6 => cases h
  | case7 acc u ps not_high not_low ih =>
    refine .unit ?_ (ih h)
    have hhigh := mt isIn_iff.2 not_high
    have hlow := mt isIn_iff.2 not_low
    rw [not_and, UInt16.not_lt] at hhigh hlow
    rcases UInt16.lt_or_le u 0xD800 with hu | hu
    · exact .inl hu
    · exact .inr (hlow (hhigh hu))

open Utf8 (IsText isText_append_cons)

theorem lt_of_hexDigit? {b : UInt8} {d : Nat} (h : Text.hexDigit? (Char.ofUInt8 b) = some d) :
    b < 0x80 := by
  apply UInt8.not_le.1
  intro hb
  have hn : 128 ≤ (Char.ofUInt8 b).toNat := by
    rw [Utf8.toNat_ofUInt8]
    exact UInt8.le_iff_toNat_le.1 hb
  have hbound : ∀ {c : Char}, c.toNat < 128 → ¬Char.ofUInt8 b ≤ c := by
    intro c hc hle
    have hle : (Char.ofUInt8 b).toNat ≤ c.toNat := UInt32.le_iff_toNat_le.1 hle
    omega
  have hdigit : (Char.ofUInt8 b).isDigit = false := by
    rw [← Bool.not_eq_true]
    intro hdigit
    have hchars : ∀ e : Digit, e.char.toNat < 0x80 := by decide
    obtain ⟨e, he⟩ := Digit.exists_char hdigit
    exact Utf8.ofUInt8_ne hb (hchars e) he.symm
  unfold Text.hexDigit? at h
  rw [hdigit, if_neg Bool.false_ne_true, if_neg fun h => hbound (by decide) h.2,
    if_neg fun h => hbound (by decide) h.2] at h
  cases h

theorem lt_of_readHex? {bs : List UInt8} {n : Nat}
    (h : Text.readHex? (bs.map Char.ofUInt8) = some n) : ∀ b ∈ bs, b < 0x80 := by
  have go : ∀ (bs : List UInt8) (m : Nat),
      (bs.map Char.ofUInt8).foldlM (fun n c => (Text.hexDigit? c).map (16 * n + ·)) m = some n →
      ∀ b ∈ bs, b < 0x80 := by
    intro bs
    induction bs with
    | nil => exact fun _ _ b hb => absurd hb List.not_mem_nil
    | cons b bs ih =>
      intro m h
      rw [List.map_cons, List.foldlM_cons] at h
      obtain ⟨m', hm', h⟩ := Option.bind_eq_some_iff.1 h
      obtain ⟨d, hd, -⟩ := Option.map_eq_some_iff.1 hm'
      exact List.forall_mem_cons.2 ⟨lt_of_hexDigit? hd, ih m' h⟩
  exact go bs 0 h

/-- An escape, in ASCII. -/
def IsEscape (text : List UInt8) : Prop := ∃ cs, text = '\\'.toUInt8 :: cs ∧ ∀ b ∈ cs, b < 0x80

/-- A piece is written as itself or as an escape. -/
theorem Piece.Spelled.plain_or_escape {p : Piece} {text : List UInt8} (h : p.Spelled text) :
    (∃ b, p = .byte b ∧ text = [b]) ∨ (∀ b, p = .byte b → b < 0x80) ∧ IsEscape text := by
  cases h with
  | @plain b => exact .inl ⟨b, rfl, rfl⟩
  | @short b c escape =>
    have hsmall : shortEscapes.all (fun x => x.1 < 0x80 ∧ x.2 < 0x80) = true := by decide
    obtain ⟨hb, hc⟩ := of_decide_eq_true (List.all_eq_true.1 hsmall _ escape)
    refine .inr ⟨?_, _, rfl, List.forall_mem_singleton.2 hb⟩
    rintro _ ⟨⟩
    exact hc
  | @hex bs n four value =>
    refine .inr ⟨?_, _, rfl, List.forall_mem_cons.2 ⟨by decide, lt_of_readHex? value⟩⟩
    intro b hb
    unfold ofCodeUnit at hb
    split_ifs at hb with hn
    cases hb
    rw [UInt8.lt_iff_toNat_lt, UInt8.toNat_ofNat']
    show n % 256 < 128
    omega

theorem Piece.Spelled.isEscape {u : UInt16} {text : List UInt8} (h : (Piece.unit u).Spelled text) :
    IsEscape text := by
  rcases h.plain_or_escape with ⟨b, ⟨⟩, -⟩ | ⟨-, hescape⟩
  exact hescape

/-- What an escape stands for may stand for it. -/
theorem IsEscape.isText_replace {front text back octets : List UInt8} (h : IsEscape text)
    (hoctets : IsText octets) (htext : IsText (front ++ (text ++ back))) :
    IsText (front ++ octets ++ back) := by
  obtain ⟨cs, rfl, hcs⟩ := h
  rw [List.cons_append, isText_append_cons (by decide)] at htext
  have hback : IsText back := htext.2.right (Utf8.isText_of_lt hcs)
  exact (htext.1.append hoctets).append hback

/-- A string is decoded along the text it is written as. -/
theorem exists_octets? {acc : List UInt8} {s : Literal} {bs : List UInt8} (paired : s.Paired)
    (spelled : s.Spelled bs) (text : IsText (acc.reverse ++ bs)) :
    ∃ os, Literal.octets? acc s = some os ∧ IsText os.reverse := by
  fun_induction Literal.octets? acc s generalizing bs with
  | case1 acc =>
    cases spelled
    rw [List.append_nil] at text
    exact ⟨acc, rfl, text⟩
  | case2 acc b ps ih =>
    cases paired with
    | byte _ paired =>
    cases spelled with
    | cons piece rest =>
    refine ih paired rest ?_
    rw [List.reverse_cons]
    rcases piece.plain_or_escape with ⟨c, hc, rfl⟩ | ⟨hlt, hescape⟩
    · cases hc
      rwa [List.append_assoc]
    · exact hescape.isText_replace (Utf8.isText_singleton (hlt b rfl)) text
  | case3 acc u high v ps low n =>
    rename_i ih
    obtain ⟨_, _, hps, -, paired⟩ := paired.of_high (isIn_iff.1 high)
    cases hps
    cases spelled with
    | cons piece spelled =>
    cases spelled with
    | @cons _ _ text₂ back piece' rest =>
    refine ih paired rest ?_
    have hfirst := piece.isEscape.isText_replace Utf8.isText_nil text
    rw [List.append_nil] at hfirst
    rw [List.reverse_append, List.reverse_reverse]
    exact piece'.isEscape.isText_replace (Utf8.isText_utf8EncodeChar _) hfirst
  | case4 acc u high v ps not_low =>
    obtain ⟨_, _, hps, low, -⟩ := paired.of_high (isIn_iff.1 high)
    cases hps
    exact absurd (isIn_iff.2 low) not_low
  | case5 acc u ps high single =>
    obtain ⟨v, qs, hps, -, -⟩ := paired.of_high (isIn_iff.1 high)
    exact (single v qs hps).elim
  | case6 acc u ps not_high low =>
    obtain ⟨hlo, hhi⟩ := isIn_iff.1 low
    rcases (paired.of_not_high (mt isIn_iff.2 not_high)).1 with hlt | hle
    · exact absurd (UInt16.lt_of_lt_of_le hlt (by decide)) (UInt16.not_lt.2 hlo)
    · exact absurd hhi (UInt16.not_lt.2 hle)
  | case7 acc u ps not_high not_low ih =>
    obtain ⟨-, paired⟩ := paired.of_not_high (mt isIn_iff.2 not_high)
    cases spelled with
    | cons piece rest =>
    refine ih paired rest ?_
    rw [List.reverse_append, List.reverse_reverse]
    exact piece.isEscape.isText_replace (Utf8.isText_utf8EncodeChar _) text

/-- A string is a text exactly when its surrogates come in pairs. -/
theorem isSome_text?_iff {s : Literal} {bs : List UInt8} (spelled : s.Spelled bs)
    (text : IsText bs) : (Literal.text? s).isSome ↔ s.Paired := by
  unfold Literal.text?
  constructor
  · intro h
    obtain ⟨t, ht⟩ := Option.isSome_iff_exists.1 h
    obtain ⟨os, hos, -⟩ := Option.bind_eq_some_iff.1 ht
    exact paired_of_octets? hos
  · intro paired
    have hstart : IsText (([] : List UInt8).reverse ++ bs) := text
    obtain ⟨os, hos, htext⟩ := exists_octets? paired spelled hstart
    rw [hos, Option.bind_some, ← Utf8.isText_iff]
    exact htext

theorem isSome_text?_iff_of_names {key : Literal} {name : List UInt8} (names : key.Names name)
    (text : IsText name) : (Literal.text? key).isSome ↔ key.Paired := by
  obtain ⟨hfront, spelled, hback⟩ := names
  rw [isText_padded_iff hfront hback, quoted, Utf8.isText_cons (by decide),
    isText_append_cons (by decide)] at text
  exact isSome_text?_iff spelled text.1

end LoadBench.Json
