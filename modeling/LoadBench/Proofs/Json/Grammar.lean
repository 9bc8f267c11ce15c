import LoadBench.Json.Reader
import LoadBench.Proofs.Json.Written
import LoadBench.Proofs.Text.Boundary

/-!
The grammar of JSON, apart from any reader: which octets spell which tree.

A tree has many spellings. White space may stand around every value, name and text, pieces of
strings may be escaped, and hexadecimal digits may be of either case. Nesting, the size of numbers
and the pairing of surrogates are not limited.
-/
namespace LoadBench.Json

def IsBlank (bs : List UInt8) : Prop := ∀ b ∈ bs, isSpace b = true

/-- The octets that may follow a backslash, apart from the `u`, and what they stand for. -/
def shortEscapes : List (UInt8 × UInt8) :=
  [('"'.toUInt8, 0x22), ('\\'.toUInt8, 0x5C), ('/'.toUInt8, 0x2F), ('b'.toUInt8, 0x08),
    ('f'.toUInt8, 0x0C), ('n'.toUInt8, 0x0A), ('r'.toUInt8, 0x0D), ('t'.toUInt8, 0x09)]

/-- What an escape with the code unit `n` stands for. -/
def Piece.ofCodeUnit (n : Nat) : Piece :=
  if n < 0x80 then .byte (UInt8.ofNat n) else .unit (UInt16.ofNat n)

inductive Piece.Spelled : Piece → List UInt8 → Prop
  | plain {b : UInt8} (printable : 0x20 ≤ b) (not_quote : b ≠ '"'.toUInt8)
      (not_backslash : b ≠ '\\'.toUInt8) : Spelled (.byte b) [b]
  | short {b c : UInt8} (escape : (b, c) ∈ shortEscapes) : Spelled (.byte c) ['\\'.toUInt8, b]
  | hex {bs : List UInt8} {n : Nat} (four : bs.length = 4)
      (value : Text.readHex? (bs.map Char.ofUInt8) = some n) :
      Spelled (.ofCodeUnit n) ('\\'.toUInt8 :: 'u'.toUInt8 :: bs)

/-- What stands between the quotes of a string. -/
inductive Literal.Spelled : Literal → List UInt8 → Prop
  | nil : Spelled [] []
  | cons {p : Piece} {ps : Literal} {bs cs : List UInt8} (piece : p.Spelled bs)
      (rest : Spelled ps cs) : Spelled (p :: ps) (bs ++ cs)

def quoted (bs : List UInt8) : List UInt8 := '"'.toUInt8 :: (bs ++ ['"'.toUInt8])

/-- The name of a member, with white space around it. -/
inductive Literal.Names : Literal → List UInt8 → Prop
  | intro {key : Literal} {front bs back : List UInt8} (front_blank : IsBlank front)
      (literal : key.Spelled bs) (back_blank : IsBlank back) :
      Names key (front ++ quoted bs ++ back)

def memberText (name value : List UInt8) : List UInt8 := name ++ ':'.toUInt8 :: value

/-- A member of an object with the texts of its name and its value. -/
structure MemberText where
  key : Literal
  value : Tree
  name : List UInt8
  text : List UInt8

namespace MemberText

def member (m : MemberText) : Literal × Tree := (m.key, m.value)

def octets (m : MemberText) : List UInt8 := memberText m.name m.text

end MemberText

/-- Parts with commas between them, in brackets. Where there are none, white space may stand. -/
def bracketed (left right : Char) (blank : List UInt8) (parts : List (List UInt8)) : List UInt8 :=
  left.toUInt8 :: ((if parts.isEmpty then blank else List.intercalate [','.toUInt8] parts) ++
    [right.toUInt8])

def arrayText (blank : List UInt8) (items : List (List UInt8)) : List UInt8 :=
  bracketed '[' ']' blank items

def objectText (blank : List UInt8) (members : List MemberText) : List UInt8 :=
  bracketed '{' '}' blank (members.map MemberText.octets)

inductive Tree.Spelled : Tree → List UInt8 → Prop
  | null : Spelled .null (ascii ['n', 'u', 'l', 'l'])
  | true : Spelled (.bool true) (ascii ['t', 'r', 'u', 'e'])
  | false : Spelled (.bool false) (ascii ['f', 'a', 'l', 's', 'e'])
  | number {n : Numeral} (wellFormed : n.WellFormed) : Spelled (.number n) (ascii n.chars)
  | string {s : Literal} {bs : List UInt8} (literal : s.Spelled bs) :
      Spelled (.string s) (quoted bs)
  | array {blank : List UInt8} {items : List (Tree × List UInt8)} (isBlank : IsBlank blank)
      (values : ∀ x ∈ items, Spelled x.1 x.2) :
      Spelled (.array (items.map Prod.fst)) (arrayText blank (items.map Prod.snd))
  | object {blank : List UInt8} {members : List MemberText} (isBlank : IsBlank blank)
      (names : ∀ m ∈ members, m.key.Names m.name) (values : ∀ m ∈ members, Spelled m.value m.text) :
      Spelled (.object (members.map MemberText.member)) (objectText blank members)
  | padded {t : Tree} {front bs back : List UInt8} (front_blank : IsBlank front)
      (value : Spelled t bs) (back_blank : IsBlank back) : Spelled t (front ++ bs ++ back)

/-- A member that is written the way its texts say. -/
structure MemberText.Spelled (m : MemberText) : Prop where
  name : m.key.Names m.name
  value : m.value.Spelled m.text

theorem Tree.spelled_object {blank : List UInt8} {members : List MemberText}
    (isBlank : IsBlank blank) (h : ∀ m ∈ members, m.Spelled) :
    (Tree.object (members.map MemberText.member)).Spelled (objectText blank members) :=
  .object isBlank (fun m hm => (h m hm).name) fun m hm => (h m hm).value

theorem isBlank_nil : IsBlank [] := fun _ h => absurd h List.not_mem_nil

theorem bracketed_nil (left right : Char) (parts : List (List UInt8)) :
    bracketed left right [] parts =
      left.toUInt8 :: (List.intercalate [','.toUInt8] parts ++ [right.toUInt8]) := by
  cases parts <;> rfl

theorem IsBlank.append {front back : List UInt8} (hfront : IsBlank front) (hback : IsBlank back) :
    IsBlank (front ++ back) :=
  List.forall_mem_append.2 ⟨hfront, hback⟩

theorem forall_mem_append_cons {α : Type} {P : α → Prop} {before after : List α} {x : α} :
    (∀ y ∈ before ++ x :: after, P y) ↔ P x ∧ ∀ y ∈ before ++ after, P y := by
  rw [List.forall_mem_append, List.forall_mem_cons, List.forall_mem_append]
  exact and_left_comm

/-- White space counts only where there are no parts. -/
theorem bracketed_append_cons (left right : Char) (blank : List UInt8)
    (before : List (List UInt8)) (part : List UInt8) (after : List (List UInt8)) :
    bracketed left right blank (before ++ part :: after) =
      bracketed left right [] (before ++ part :: after) := by
  cases before <;> rfl

theorem objectText_append_cons (blank : List UInt8) (before : List MemberText) (m : MemberText)
    (after : List MemberText) :
    objectText blank (before ++ m :: after) =
      bracketed '{' '}' []
        (before.map MemberText.octets ++ m.octets :: after.map MemberText.octets) := by
  rw [objectText, List.map_append, List.map_cons, bracketed_append_cons]

theorem Tree.spelled_object_field {before after : List MemberText} {key : Literal} {v : Tree}
    {name text : List UInt8} (others : ∀ o ∈ before ++ after, o.Spelled) (names : key.Names name)
    (value : v.Spelled text) :
    (Tree.object
      (before.map MemberText.member ++ (key, v) :: after.map MemberText.member)).Spelled
      (bracketed '{' '}' []
        (before.map MemberText.octets ++ memberText name text :: after.map MemberText.octets)) := by
  have hmember : MemberText.Spelled ⟨key, v, name, text⟩ := ⟨names, value⟩
  have hobject := spelled_object isBlank_nil (forall_mem_append_cons.2 ⟨hmember, others⟩)
  rwa [objectText_append_cons, List.map_append, List.map_cons] at hobject

theorem Tree.spelled_array_item {before after : List (Tree × List UInt8)} {v : Tree}
    {text : List UInt8} (others : ∀ x ∈ before ++ after, x.1.Spelled x.2) (value : v.Spelled text) :
    (Tree.array (before.map Prod.fst ++ v :: after.map Prod.fst)).Spelled
      (arrayText [] (before.map Prod.snd ++ text :: after.map Prod.snd)) := by
  have hitem : Tree.Spelled (v, text).1 (v, text).2 := value
  have harray := Tree.Spelled.array isBlank_nil (forall_mem_append_cons.2 ⟨hitem, others⟩)
  rwa [List.map_append, List.map_append, List.map_cons, List.map_cons] at harray

theorem Tree.spelled_array_single {v : Tree} {text : List UInt8} (value : v.Spelled text) :
    (Tree.array [v]).Spelled (arrayText [] [text]) :=
  @Tree.spelled_array_item [] [] v text (fun _ hx => absurd hx List.not_mem_nil) value

/-- The text of an object has its members in it. -/
theorem Tree.Spelled.exists_members {ms : List (Literal × Tree)} {bs : List UInt8}
    (h : (Tree.object ms).Spelled bs) :
    ∃ (front blank : List UInt8) (members : List MemberText) (back : List UInt8),
      IsBlank front ∧ IsBlank blank ∧ IsBlank back ∧ (∀ m ∈ members, m.Spelled) ∧
      ms = members.map MemberText.member ∧ bs = front ++ objectText blank members ++ back := by
  generalize ht : Tree.object ms = t at h
  induction h with
  | object isBlank names values =>
    cases ht
    exact ⟨[], _, _, [], isBlank_nil, isBlank, isBlank_nil, fun m hm => ⟨names m hm, values m hm⟩,
      rfl, (List.append_nil _).symm⟩
  | @padded t front bs back front_blank value back_blank ih =>
    obtain ⟨front', blank, members, back', hfront, hblank, hback, hmembers, hms, rfl⟩ := ih ht
    exact ⟨front ++ front', blank, members, back' ++ back, front_blank.append hfront, hblank,
      hback.append back_blank, hmembers, hms, by simp only [List.append_assoc]⟩
  | _ => cases ht

/-- The text of an array has its items in it. -/
theorem Tree.Spelled.exists_items {ts : List Tree} {bs : List UInt8}
    (h : (Tree.array ts).Spelled bs) :
    ∃ (front blank : List UInt8) (items : List (Tree × List UInt8)) (back : List UInt8),
      IsBlank front ∧ IsBlank blank ∧ IsBlank back ∧ (∀ x ∈ items, x.1.Spelled x.2) ∧
      ts = items.map Prod.fst ∧ bs = front ++ arrayText blank (items.map Prod.snd) ++ back := by
  generalize ht : Tree.array ts = t at h
  induction h with
  | array isBlank values =>
    cases ht
    exact ⟨[], _, _, [], isBlank_nil, isBlank, isBlank_nil, values, rfl,
      (List.append_nil _).symm⟩
  | @padded t front bs back front_blank value back_blank ih =>
    obtain ⟨front', blank, items, back', hfront, hblank, hback, hitems, hts, rfl⟩ := ih ht
    exact ⟨front ++ front', blank, items, back' ++ back, front_blank.append hfront, hblank,
      hback.append back_blank, hitems, hts, by simp only [List.append_assoc]⟩
  | _ => cases ht

/-! ### Spellings in UTF-8 -/

section
open Utf8 (IsText isText_nil isText_append_cons isText_cons)

theorem IsBlank.lt {bs : List UInt8} (h : IsBlank bs) : ∀ b ∈ bs, b < 0x80 := by
  intro b hb
  have hspace := h b hb
  simp only [isSpace, Bool.or_eq_true, beq_iff_eq] at hspace
  rcases hspace with ((rfl | rfl) | rfl) | rfl <;> decide

theorem isText_padded_iff {front bs back : List UInt8} (hfront : IsBlank front)
    (hback : IsBlank back) : IsText (front ++ bs ++ back) ↔ IsText bs := by
  have htext : IsText front := Utf8.isText_of_lt hfront.lt
  have hend : IsText back := Utf8.isText_of_lt hback.lt
  constructor
  · intro h
    rw [List.append_assoc] at h
    have hrest : IsText (bs ++ back) := h.right htext
    exact hrest.left_iff.2 hend.atBoundary
  · exact fun h => (htext.append h).append hend

theorem isText_intercalate_iff {parts : List (List UInt8)} :
    IsText (List.intercalate [','.toUInt8] parts) ↔ ∀ p ∈ parts, IsText p := by
  match parts with
  | [] => simp [isText_nil]
  | [p] => rw [List.intercalate_singleton, List.forall_mem_singleton]
  | p :: q :: parts =>
    rw [List.intercalate_cons_cons, List.append_assoc, List.singleton_append,
      isText_append_cons (by decide), isText_intercalate_iff]
    exact List.forall_mem_cons.symm

/-- The commas and brackets do not matter. -/
theorem isText_bracketed_iff {left right : Char} (hleft : left.toUInt8 < 0x80)
    (hright : right.toUInt8 < 0x80) {blank : List UInt8} (hblank : IsBlank blank)
    {parts : List (List UInt8)} :
    IsText (bracketed left right blank parts) ↔ ∀ p ∈ parts, IsText p := by
  rw [bracketed, isText_cons hleft, isText_append_cons hright, and_iff_left isText_nil]
  cases parts with
  | nil => exact iff_of_true (Utf8.isText_of_lt hblank.lt) (by simp)
  | cons p parts => exact isText_intercalate_iff

theorem isText_memberText_iff {name value : List UInt8} :
    IsText (memberText name value) ↔ IsText name ∧ IsText value :=
  isText_append_cons (by decide)

end

/-! ### What is printed is a spelling -/

theorem readHex?_hexDigits {n : Nat} (h : n < 0x10000) :
    Text.readHex? ((ascii [Nat.digitChar (n / 4096), Nat.digitChar (n / 256 % 16),
      Nat.digitChar (n / 16 % 16), Nat.digitChar (n % 16)]).map Char.ofUInt8) = some n := by
  have digit : ∀ {d : Nat}, d < 16 →
      Text.hexDigit? (Char.ofUInt8 (Nat.digitChar d).toUInt8) = some d := by
    intro d hd
    interval_cases d <;> rfl
  have hn : 16 * (16 * (16 * (16 * 0 + n / 4096) + n / 256 % 16) + n / 16 % 16) + n % 16 = n := by
    omega
  simp only [Text.readHex?, ascii, List.map_cons, List.map_nil, List.foldlM_cons, List.foldlM_nil,
    digit (show n / 4096 < 16 by omega), digit (show n / 256 % 16 < 16 by omega),
    digit (show n / 16 % 16 < 16 by omega), digit (show n % 16 < 16 by omega), Option.map_some,
    Option.bind_eq_bind, Option.bind_some, hn]
  rfl

theorem Piece.spelled_print (b : UInt8) : (Piece.byte b).Spelled (Piece.byte b).print := by
  simp only [Piece.print]
  split
  iterate 7
    rename_i h
    obtain rfl := Utf8.eq_toUInt8 h
    exact .short (by decide)
  rename_i hquote hslash _ _ _ _ _
  split_ifs with hb
  · have hn : b.toNat < 0x20 := UInt8.lt_iff_toNat_lt.1 hb
    have hcode : Piece.ofCodeUnit b.toNat = .byte b := by
      rw [ofCodeUnit, if_pos (by omega), UInt8.ofNat_toNat]
    rw [← hcode]
    exact .hex rfl (readHex?_hexDigits (by omega))
  · refine .plain (UInt8.not_lt.1 hb) ?_ ?_
    · rintro rfl
      exact hquote rfl
    · rintro rfl
      exact hslash rfl

theorem spelled_literal (s : String) : (literal s).Spelled ((literal s).flatMap Piece.print) := by
  unfold literal
  induction Utf8.encode s with
  | nil => exact .nil
  | cons b bs ih => exact .cons (Piece.spelled_print b) ih

theorem names_literal (s : String) : (literal s).Names (Literal.print (literal s)) := by
  have h := Literal.Names.intro isBlank_nil (spelled_literal s) isBlank_nil
  rwa [List.nil_append, List.append_nil] at h

/-- A written tree is printed in one of its spellings. -/
theorem Tree.Written.spelled {t : Tree} (h : t.Written) : t.Spelled t.print := by
  induction h with
  | null => exact .null
  | bool b =>
    cases b
    · exact .false
    · exact .true
  | number h => exact .number h
  | text s => exact .string (spelled_literal s)
  | @array items _ ih =>
    have hspelled := @Spelled.array [] (items.map fun t => (t, t.print)) isBlank_nil
      (List.forall_mem_map.2 ih)
    have hitems : items.map (Prod.fst ∘ fun t => (t, t.print)) = items := List.map_id items
    rw [List.map_map, List.map_map, arrayText, bracketed_nil, hitems] at hspelled
    rw [Tree.print, printItems_eq]
    exact hspelled
  | @record ms _ ih =>
    let text (m : String × Tree) : MemberText :=
      ⟨literal m.1, m.2, Literal.print (literal m.1), m.2.print⟩
    have hspelled := @Spelled.object [] (ms.map text) isBlank_nil
      (List.forall_mem_map.2 fun m _ => names_literal m.1) (List.forall_mem_map.2 ih)
    rw [objectText, bracketed_nil, List.map_map, List.map_map] at hspelled
    rw [Tree.print, printMembers_eq, List.map_map]
    exact hspelled

end LoadBench.Json
