import LoadBench.Proofs.Json.Output

/-! The trees that messages are written as: their strings are texts, and their numerals follow the
grammar. -/
namespace LoadBench

/-- No superfluous zero in front, and no exponent without digits. -/
structure Numeral.WellFormed (n : Numeral) : Prop where
  whole : n.whole = [.zero] ∨ ∃ d ds, n.whole = d :: ds ∧ d ≠ .zero
  exponent : ∀ upper sign ds, n.exponent = some (upper, sign, ds) → ds ≠ []

namespace Json

/-- The octets of a text as the pieces of a string. -/
def literal (s : String) : Literal := (Utf8.encode s).map .byte

inductive Tree.Written : Tree → Prop
  | null : Written .null
  | bool (b : Bool) : Written (.bool b)
  | number {n : Numeral} (wellFormed : n.WellFormed) : Written (.number n)
  | text (s : String) : Written (.string (literal s))
  | array {items : List Tree} (items_written : ∀ t ∈ items, Written t) : Written (.array items)
  | record {ms : List (String × Tree)} (members_written : ∀ m ∈ ms, Written m.2) :
      Written (.object (ms.map fun m => (literal m.1, m.2)))

theorem ofText_eq (s : String) : Tree.ofText s = .string (literal s) := rfl

theorem record_eq (ms : List (String × Tree)) :
    Tree.record ms = .object (ms.map fun m => (literal m.1, m.2)) := rfl

theorem printItems_eq (items : List Tree) : printItems items = items.map Tree.print := by
  induction items with
  | nil => rfl
  | cons t ts ih => rw [printItems, ih, List.map_cons]

theorem printMembers_eq (ms : List (Literal × Tree)) :
    printMembers ms = ms.map fun m => Literal.print m.1 ++ ':'.toUInt8 :: m.2.print := by
  induction ms with
  | nil => rfl
  | cons m ms ih => rw [printMembers, ih, List.map_cons]

open Utf8 (IsText isText_of_lt isText_nil isText_flatten)

theorem isText_of_isPlain {bs : List UInt8} (h : ∀ b ∈ bs, IsPlain b) : IsText bs :=
  isText_of_lt fun b hb => (h b hb).2

theorem isText_intercalate {sep : List UInt8} {parts : List (List UInt8)} (hs : IsText sep)
    (h : ∀ p ∈ parts, IsText p) : IsText (List.intercalate sep parts) := by
  match parts with
  | [] => exact isText_nil
  | [p] =>
    rw [List.intercalate_singleton]
    exact h p (by simp)
  | p :: q :: parts =>
    rw [List.intercalate_cons_cons]
    exact ((h p (by simp)).append hs).append
      (isText_intercalate hs fun r hr => h r (by simp [hr]))

/-- One character inside a string, escaped or not. -/
private theorem isText_printChar (c : Char) :
    IsText ((String.utf8EncodeChar c).flatMap fun b => (Piece.byte b).print) := by
  rcases Utf8.utf8EncodeChar_cases c with ⟨b, hb, -, hc⟩ | ⟨-, hc⟩
  · rw [hc, List.flatMap_cons, List.flatMap_nil, List.append_nil]
    refine isText_of_lt fun d hd => (isPlain_piece ?_ d hd).2
    rintro _ ⟨⟩
    exact hb
  · have hself : (String.utf8EncodeChar c).flatMap (fun b => (Piece.byte b).print) =
        String.utf8EncodeChar c := by
      rw [List.flatMap_def, List.map_congr_left fun b hb => print_byte_of_le (hc b hb)]
      exact List.flatMap_singleton' _
    rw [hself]
    exact Utf8.isText_utf8EncodeChar c

theorem isText_literal (s : String) : IsText (Literal.print (literal s)) := by
  have hbody : IsText ((literal s).flatMap Piece.print) := by
    rw [literal, Utf8.encode_eq, List.flatMap_map, List.flatMap_assoc, List.flatMap_def]
    exact isText_flatten fun p hp => by
      obtain ⟨c, -, rfl⟩ := List.mem_map.1 hp
      exact isText_printChar c
  have hquote : IsText ['"'.toUInt8] := isText_of_isPlain (isPlain_of_all (by decide))
  rw [Literal.print, ← List.singleton_append]
  exact hquote.append (hbody.append hquote)

theorem Tree.Written.isText {t : Tree} (h : t.Written) : IsText t.print := by
  have single : ∀ b : UInt8, b < 0x80 → IsText [b] := fun b hb => Utf8.isText_singleton hb
  induction h with
  | null => exact isText_of_isPlain (isPlain_of_all (by decide))
  | bool b => cases b <;> exact isText_of_isPlain (isPlain_of_all (by decide))
  | number h =>
    rw [Tree.print]
    exact isText_of_isPlain fun b hb => isPlain_numeral hb
  | text s =>
    rw [Tree.print]
    exact isText_literal s
  | @array items _ ih =>
    rw [Tree.print, printItems_eq, ← List.singleton_append]
    refine (single _ (by decide)).append (.append (isText_intercalate (single _ (by decide)) ?_)
      (single _ (by decide)))
    intro p hp
    obtain ⟨t, ht, rfl⟩ := List.mem_map.1 hp
    exact ih t ht
  | @record ms _ ih =>
    rw [Tree.print, printMembers_eq, ← List.singleton_append]
    refine (single _ (by decide)).append (.append (isText_intercalate (single _ (by decide)) ?_)
      (single _ (by decide)))
    intro p hp
    rw [List.map_map] at hp
    obtain ⟨m, hm, rfl⟩ := List.mem_map.1 hp
    show IsText (Literal.print (literal m.1) ++ ':'.toUInt8 :: m.2.print)
    rw [← List.singleton_append]
    exact (isText_literal m.1).append ((single _ (by decide)).append (ih m hm))

end Json
end LoadBench
