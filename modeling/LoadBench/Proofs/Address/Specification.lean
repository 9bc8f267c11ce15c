import LoadBench.Address.Range
import LoadBench.Proofs.Address.Grammar
import LoadBench.Proofs.Address.Sequence
import Mathlib.Data.List.TakeWhile

/-!
Ranges as texts give them: an address, or an address and a count.

Main statement: what is accepted, and what is reported of each other text. A fault in the count goes
before one in the address, although it comes later in the text.
-/
namespace LoadBench.AddressRange

open Address (IsTextOf)
open Text (IsField Surrounded)

variable {k : AddressKind} {left right s : String} {n : Nat}

/-- The text of a count: digits with an optional plus sign and blanks around them, from one to
`2^32 - 1`. -/
def IsCount (cs : List Char) (n : Nat) : Prop := IsField (Nat.pow 2 32) cs n ∧ 1 ≤ n

/-- The texts of a range. The first comma of a text is the one before the count. -/
inductive IsSpec : String → AddressRange k → Prop
  | single {s : String} {a : Address k} (plain : ',' ∉ s.toList)
      (address : IsTextOf k s a.toNat) : IsSpec s (.single a)
  | counted {left right : String} {r : AddressRange k} (first : ',' ∉ left.toList)
      (address : IsTextOf k left r.base.toNat) (count : IsCount right.toList r.count) :
      IsSpec (left ++ "," ++ right) r

/-- What is wrong with a text: the count, whatever stands before it; else the address, alone or before
a good count. -/
inductive HasFault (k : AddressKind) : String → FormatError → Prop
  | address {s : String} (plain : ',' ∉ s.toList) (malformed : ∀ n, ¬IsTextOf k s n) :
      HasFault k s (.address k s)
  | count {left right : String} (first : ',' ∉ left.toList)
      (malformed : ∀ n, ¬IsCount right.toList n) :
      HasFault k (left ++ "," ++ right) (.count right)
  | base {left right : String} {n : Nat} (first : ',' ∉ left.toList)
      (count : IsCount right.toList n) (malformed : ∀ n, ¬IsTextOf k left n) :
      HasFault k (left ++ "," ++ right) (.address k left)

/-- Texts that are no counts: blanks only, a minus sign, zero or too large a number, or a further
comma. -/
inductive BadCount (cs : List Char) : Prop
  | empty (blank : ∀ c ∈ cs, Text.isBlank c = true)
  | negative {ds : List Char} (minus : Surrounded ('-' :: ds) cs)
  | outside {bound n : Nat} (number : IsField bound cs n) (excluded : n = 0 ∨ Nat.pow 2 32 ≤ n)
  | comma (further : ',' ∈ cs)

theorem readCount?_eq_some_iff {cs : List Char} {c : { n : Nat // 0 < n ∧ n < UInt32.size }} :
    readCount? cs = some c ↔ IsCount cs c.val := by
  have hfield : Text.readUnsigned? UInt32.size (Text.trim cs) = some c.val ↔
      IsField (Nat.pow 2 32) cs c.val := Text.readUnsigned?_trim_eq_some_iff
  unfold readCount? IsCount
  rw [← hfield]
  constructor
  · intro h
    obtain ⟨n, hn, h⟩ := Option.bind_eq_some_iff.1 h
    split at h
    · rename_i hbounds
      cases h
      exact ⟨hn, hbounds.1⟩
    · cases h
  · rintro ⟨hread, -⟩
    rw [hread, Option.bind_eq_bind, Option.bind_some, dif_pos c.property]

theorem IsCount.exists_readCount? {cs : List Char} (h : IsCount cs n) :
    ∃ hn : 0 < n ∧ n < UInt32.size, readCount? cs = some ⟨n, hn⟩ := by
  have hn : 0 < n ∧ n < UInt32.size := ⟨h.2, h.1.lt⟩
  exact ⟨hn, readCount?_eq_some_iff.2 h⟩

theorem readCount?_eq_none {cs : List Char} (h : ∀ n, ¬IsCount cs n) : readCount? cs = none := by
  cases hread : readCount? cs with
  | none => rfl
  | some c => exact absurd (readCount?_eq_some_iff.1 hread) (h c.val)

theorem BadCount.not_isCount {cs : List Char} (h : BadCount cs) (n : Nat) : ¬IsCount cs n := by
  rintro ⟨hfield, hpos⟩
  cases h with
  | empty blank =>
    obtain ⟨c, hc, hdigit⟩ := hfield.exists_digit
    have hsolid : Text.isBlank c = false := Text.isBlank_of_isDigit hdigit
    exact Bool.false_ne_true (hsolid.symm.trans (blank c hc))
  | @negative ds minus =>
    have hmem : '-' ∈ cs := by
      obtain ⟨front, back, rfl, -, -⟩ := minus
      simp
    exact hfield.notMem (by decide) rfl rfl hmem
  | @outside bound m number excluded =>
    have hsame : m = n := number.unique hfield
    have hlt : n < Nat.pow 2 32 := hfield.lt
    omega
  | comma further => exact hfield.notMem (by decide) rfl rfl further

theorem parse_of_notMem (h : ',' ∉ s.toList) :
    parse (k := k) s = (Address.parse s).map single := by
  have hnone : s.toList.dropWhile (· != ',') = [] := by
    rw [List.dropWhile_eq_nil_iff]
    intro c hc
    exact bne_iff_ne.2 fun hcomma => h (hcomma ▸ hc)
  unfold parse
  rw [hnone]

theorem parse_of_comma (h : ',' ∉ left.toList) :
    parse (k := k) (left ++ "," ++ right) =
      (readCount? right.toList).elim (.error (.count right)) fun n =>
        (Address.parse left).map fun a => ⟨a, n.val, n.property.1, n.property.2⟩ := by
  have hparts : (left ++ "," ++ right).toList = left.toList ++ ',' :: right.toList := by
    rw [String.toList_append, String.toList_append, List.append_assoc]
    rfl
  unfold parse
  rw [hparts, Text.takeWhile_of_notMem h, Text.dropWhile_of_notMem h]
  dsimp only
  rw [String.ofList_toList, String.ofList_toList]
  cases readCount? right.toList with
  | none => rfl
  | some n => rfl

theorem parse_of_isSpec {r : AddressRange k} (h : IsSpec s r) : parse s = .ok r := by
  cases h with
  | single plain address =>
    rw [parse_of_notMem plain, Address.parse_eq_ok_iff.2 address]
    rfl
  | counted first address count =>
    obtain ⟨hcount, hread⟩ := count.exists_readCount?
    rw [parse_of_comma first, hread, Address.parse_eq_ok_iff.2 address]
    rfl

theorem parse_of_hasFault {e : FormatError} (h : HasFault k s e) :
    parse (k := k) s = .error e := by
  cases h with
  | address plain malformed =>
    have hbase : Address.parse (k := k) s = .error (.address k s) :=
      Address.parse_eq_error_iff.2 ⟨malformed, rfl⟩
    rw [parse_of_notMem plain, hbase]
    rfl
  | count first malformed =>
    rw [parse_of_comma first, readCount?_eq_none malformed]
    rfl
  | @base left right n first count malformed =>
    have hbase : Address.parse (k := k) left = .error (.address k left) :=
      Address.parse_eq_error_iff.2 ⟨malformed, rfl⟩
    obtain ⟨hcount, hread⟩ := count.exists_readCount?
    rw [parse_of_comma first, hread, hbase]
    rfl

/-- A text is split at its first comma, unless it has none. -/
theorem split_cases (s : String) :
    ',' ∉ s.toList ∨ ∃ left right : String, s = left ++ "," ++ right ∧ ',' ∉ left.toList := by
  by_cases hcomma : ',' ∈ s.toList
  · obtain ⟨front, back, hparts, hfront⟩ := List.eq_append_cons_of_mem hcomma
    refine .inr ⟨String.ofList front, String.ofList back, ?_, ?_⟩
    · apply String.toList_inj.1
      simp [hparts]
    · rwa [String.toList_ofList]
  · exact .inl hcomma

/-- Each text has a range or a fault. -/
theorem isSpec_or_hasFault (k : AddressKind) (s : String) :
    (∃ r : AddressRange k, IsSpec s r) ∨ ∃ e, HasFault k s e := by
  rcases split_cases s with plain | ⟨left, right, rfl, first⟩
  · by_cases haddress : ∃ n, IsTextOf k s n
    · obtain ⟨n, hn⟩ := haddress
      obtain ⟨a, rfl⟩ := hn.exists_toNat
      exact .inl ⟨_, .single plain hn⟩
    · exact .inr ⟨_, .address plain (not_exists.1 haddress)⟩
  · by_cases hcount : ∃ n, IsCount right.toList n
    · obtain ⟨n, hn⟩ := hcount
      by_cases haddress : ∃ m, IsTextOf k left m
      · obtain ⟨m, hm⟩ := haddress
        obtain ⟨a, rfl⟩ := hm.exists_toNat
        let r : AddressRange k := ⟨a, n, hn.2, hn.1.lt⟩
        have hspec : IsSpec (left ++ "," ++ right) r := .counted first hm hn
        exact .inl ⟨r, hspec⟩
      · exact .inr ⟨_, .base first hn (not_exists.1 haddress)⟩
    · exact .inr ⟨_, .count first (not_exists.1 hcount)⟩

theorem parse_eq_ok_iff {r : AddressRange k} : parse s = .ok r ↔ IsSpec s r := by
  constructor
  · intro h
    rcases isSpec_or_hasFault k s with ⟨r', hspec⟩ | ⟨e, hfault⟩
    · have hparse := parse_of_isSpec hspec
      rw [h] at hparse
      rwa [Except.ok.inj hparse]
    · have hparse := parse_of_hasFault hfault
      rw [h] at hparse
      cases hparse
  · exact parse_of_isSpec

theorem parse_eq_error_iff {e : FormatError} : parse (k := k) s = .error e ↔ HasFault k s e := by
  constructor
  · intro h
    rcases isSpec_or_hasFault k s with ⟨r, hspec⟩ | ⟨e', hfault⟩
    · have hparse := parse_of_isSpec hspec
      rw [h] at hparse
      cases hparse
    · have hparse := parse_of_hasFault hfault
      rw [h] at hparse
      rwa [Except.error.inj hparse]
  · exact parse_of_hasFault

theorem isCount_toString (h : 1 ≤ n ∧ n < Nat.pow 2 32) : IsCount (toString n).toList n := by
  refine ⟨⟨_, .plain (Text.denotes_toString n) h.2, [], [], ?_, ?_, ?_⟩, h.1⟩
  · simp
  · simp
  · simp

/-- A range is read back from its base and its count in decimal. -/
theorem isSpec_text (r : AddressRange k) : IsSpec (r.base.text ++ "," ++ toString r.count) r := by
  have hcomma : ',' ∉ r.base.text.toList := by
    rw [Address.text, String.toList_ofList]
    exact r.base.comma_notMem_chars
  have haddress : IsTextOf k r.base.text r.base.toNat :=
    Address.parse_eq_ok_iff.1 r.base.parse_text
  exact .counted hcomma haddress (isCount_toString ⟨r.count_pos, r.count_lt⟩)

/-- Each text is a specification of one range or has one fault. What stands behind its first comma is
the count, which is reported when it is bad, also where the address is malformed. A range is read
back from the text of its base and its count, and what is listed are the numbers from the base on,
modulo the number of addresses of the kind. -/
theorem parse_exact (k : AddressKind) :
    (∀ (s : String) (r : AddressRange k), parse s = .ok r ↔ IsSpec s r) ∧
      (∀ (s : String) (e : FormatError), parse (k := k) s = .error e ↔ HasFault k s e) ∧
      (∀ left right : String, ',' ∉ left.toList → BadCount right.toList →
        parse (k := k) (left ++ "," ++ right) = .error (.count right)) ∧
      ∀ r : AddressRange k, parse (r.base.text ++ "," ++ toString r.count) = .ok r ∧
        ∃ as, parseList (k := k) (r.base.text ++ "," ++ toString r.count) = .ok as ∧
          as.map Address.toNat =
            (List.range r.count).map fun i => (r.base.toNat + i) % Nat.pow 2 k.width := by
  refine ⟨fun _ _ => parse_eq_ok_iff, fun _ _ => parse_eq_error_iff, ?_, ?_⟩
  · intro left right first hbad
    exact parse_of_hasFault (.count first hbad.not_isCount)
  · intro r
    have hparse := parse_of_isSpec r.isSpec_text
    refine ⟨hparse, r.toList, ?_, toNat_sequence r.base r.count⟩
    rw [parseList, hparse]
    rfl

/-- A comma in the count, before an address that is none, is a fault of the count. -/
theorem parse_exact_two_faults :
    ',' ∉ "300.1.1.1".toList ∧ BadCount "1,2".toList ∧
      parse (k := .ipv4) ("300.1.1.1" ++ "," ++ "1,2") = .error (.count "1,2") := by
  have hfirst : ',' ∉ "300.1.1.1".toList := by decide
  have hbad : BadCount "1,2".toList := .comma (by decide)
  exact ⟨hfirst, hbad, (parse_exact .ipv4).2.2.1 "300.1.1.1" "1,2" hfirst hbad⟩

end LoadBench.AddressRange
