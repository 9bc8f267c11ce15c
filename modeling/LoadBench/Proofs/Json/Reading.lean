import LoadBench.Json.Reader
import LoadBench.Proofs.Json.Grammar
import Mathlib.Tactic.Tauto

/-! Reading takes back every spelling of a tree: strings, then numerals, then whole trees. -/
namespace LoadBench.Json
namespace Reader

/-- Read octets one after another. -/
def run (r : Reader) (bs : List UInt8) : Option Reader := bs.foldlM step r

@[simp] theorem run_nil (r : Reader) : run r [] = some r := rfl

@[simp] theorem run_cons (r : Reader) (b : UInt8) (bs : List UInt8) :
    run r (b :: bs) = (r.step b).bind (run · bs) := rfl

theorem run_append (r : Reader) (as bs : List UInt8) :
    run r (as ++ bs) = (run r as).bind (run · bs) := by
  induction as generalizing r with
  | nil => rfl
  | cons a as ih =>
    rw [List.cons_append, run_cons, run_cons]
    cases r.step a with
    | none => rfl
    | some r' => exact ih r'

variable {fs : List Frame} {isKey : Bool} {read : Literal}

/-! ### Strings -/

/-- The escapes the reader knows are those of the grammar. -/
theorem escaped?_eq_some_iff {b c : UInt8} :
    escaped? b = some c ↔ (b, c) ∈ shortEscapes := by
  constructor
  · intro h
    unfold escaped? at h
    split at h
    iterate 8
      rename_i hc
      obtain rfl := Utf8.eq_toUInt8 hc
      obtain rfl := Option.some.inj h
      decide
    cases h
  · intro h
    simp only [shortEscapes, List.mem_cons, List.not_mem_nil, or_false, Prod.mk.injEq] at h
    rcases h with ⟨rfl, rfl⟩ | ⟨rfl, rfl⟩ | ⟨rfl, rfl⟩ | ⟨rfl, rfl⟩ | ⟨rfl, rfl⟩ | ⟨rfl, rfl⟩ |
      ⟨rfl, rfl⟩ | ⟨rfl, rfl⟩ <;> rfl

theorem step_escape (b : UInt8) :
    step ⟨fs, .escape isKey read⟩ b =
      if b = 'u'.toUInt8 then some ⟨fs, .hex isKey read []⟩
      else (escaped? b).map fun c => ⟨fs, .string isKey (.byte c :: read)⟩ := by
  have hu : (Char.ofUInt8 b = 'u') = (b = 'u'.toUInt8) := by
    refine propext ⟨Utf8.eq_toUInt8, ?_⟩
    rintro rfl
    rfl
  simp only [step, hu]

theorem step_hex {ds : List Nat} (h : ds.length < 3) (b : UInt8) :
    step ⟨fs, .hex isKey read ds⟩ b =
      (Text.hexDigit? (Char.ofUInt8 b)).map fun d => ⟨fs, .hex isKey read (d :: ds)⟩ := by
  have hlt : ds.length + 1 < 4 := by omega
  simp only [step, List.length_cons, if_pos hlt]
  cases Text.hexDigit? (Char.ofUInt8 b) <;> rfl

theorem step_hex_last {ds : List Nat} (h : ds.length = 3) (b : UInt8) :
    step ⟨fs, .hex isKey read ds⟩ b =
      (Text.hexDigit? (Char.ofUInt8 b)).map fun d =>
        ⟨fs, .string isKey (pieceOfHex (d :: ds) :: read)⟩ := by
  have hlt : ¬ds.length + 1 < 4 := by omega
  simp only [step, List.length_cons, if_neg hlt]
  cases Text.hexDigit? (Char.ofUInt8 b) <;> rfl

/-- Four octets behind the `u` are the digits of a code unit, or no digits. -/
theorem run_hex {bs : List UInt8} (four : bs.length = 4) :
    run ⟨fs, .hex isKey read []⟩ bs =
      (Text.readHex? (bs.map Char.ofUInt8)).map fun n =>
        ⟨fs, .string isKey (.ofCodeUnit n :: read)⟩ := by
  obtain ⟨b₁, b₂, b₃, b₄, rfl⟩ := List.length_eq_four.1 four
  simp only [run_cons, run_nil, Text.readHex?, List.map_cons, List.map_nil, List.foldlM_cons,
    List.foldlM_nil, step_hex (show ([] : List Nat).length < 3 by decide)]
  cases Text.hexDigit? (Char.ofUInt8 b₁) with
  | none => rfl
  | some d₁ =>
    rw [Option.map_some, Option.bind_some, step_hex (by simp)]
    cases Text.hexDigit? (Char.ofUInt8 b₂) with
    | none => rfl
    | some d₂ =>
      rw [Option.map_some, Option.bind_some, step_hex (by simp)]
      cases Text.hexDigit? (Char.ofUInt8 b₃) with
      | none => rfl
      | some d₃ =>
        rw [Option.map_some, Option.bind_some, step_hex_last (by simp)]
        cases Text.hexDigit? (Char.ofUInt8 b₄) <;> rfl

/-- A piece of a string is read from each of its spellings. -/
theorem run_piece {p : Piece} {bs : List UInt8} (h : p.Spelled bs) :
    run ⟨fs, .string isKey read⟩ bs = some ⟨fs, .string isKey (p :: read)⟩ := by
  have hslash : step ⟨fs, .string isKey read⟩ '\\'.toUInt8 = some ⟨fs, .escape isKey read⟩ := rfl
  cases h with
  | @plain b printable not_quote not_backslash =>
    rw [run_cons, step]
    dsimp only
    split
    · exact absurd (Utf8.eq_toUInt8 ‹_›) not_quote
    · exact absurd (Utf8.eq_toUInt8 ‹_›) not_backslash
    · rw [if_neg (UInt8.not_lt.2 printable)]
      rfl
  | @short b c escape =>
    have hescape := escaped?_eq_some_iff.2 escape
    have hb : b ≠ 'u'.toUInt8 := by
      rintro rfl
      cases hescape
    rw [run_cons, hslash, Option.bind_some, run_cons, step_escape, if_neg hb, hescape]
    rfl
  | hex four value =>
    rw [run_cons, hslash, Option.bind_some, run_cons, step_escape, if_pos rfl, Option.bind_some,
      run_hex four, value]
    rfl

theorem run_literal {s : Literal} {bs : List UInt8} (h : s.Spelled bs) :
    run ⟨fs, .string isKey read⟩ bs = some ⟨fs, .string isKey (s.reverse ++ read)⟩ := by
  induction h generalizing read with
  | nil => rfl
  | cons piece _ ih =>
    rw [run_append, run_piece piece, Option.bind_some, ih, List.reverse_cons, List.append_assoc]
    rfl

/-- A whole string after its first quote. -/
theorem run_string {s : Literal} {bs : List UInt8} (h : s.Spelled bs) :
    run ⟨fs, .string isKey []⟩ (bs ++ ['"'.toUInt8]) =
      if isKey then some ⟨fs, .colon s⟩ else deliver (.string s) fs := by
  rw [run_append, run_literal h, Option.bind_some, List.append_nil, run_cons]
  show (endString fs isKey s.reverse).bind some = _
  rw [Option.bind_fun_some, endString, List.reverse_reverse]

/-! ### Numerals -/

theorem step_numeral {last last' : NumeralEnd} {n n' : Numeral} {b : UInt8}
    (h : extendNumeral last n b = some (last', n')) :
    step ⟨fs, .numeral last n⟩ b = some ⟨fs, .numeral last' n'⟩ := by
  simp only [step, h]

theorem ascii_chars_cons (d : Digit) (ds : List Digit) :
    ascii (Digits.chars (d :: ds)) = d.char.toUInt8 :: ascii (Digits.chars ds) := rfl

/-- A run of digits after which the numeral may go on with more of them. -/
theorem run_digits {last : NumeralEnd} {n : List Digit → Numeral}
    (h : ∀ d ds, extendNumeral last (n ds) d.char.toUInt8 = some (last, n (d :: ds)))
    (ds before : List Digit) :
    run ⟨fs, .numeral last (n before)⟩ (ascii (Digits.chars ds)) =
      some ⟨fs, .numeral last (n (ds.reverse ++ before))⟩ := by
  induction ds generalizing before with
  | nil => rfl
  | cons d ds ih =>
    rw [ascii_chars_cons, run_cons, step_numeral (h d before), Option.bind_some, ih]
    simp

theorem step_value {b : UInt8} {orClose : Bool} (hs : isSpace b = false)
    (hb : Char.ofUInt8 b ≠ ']') : step ⟨fs, .value orClose⟩ b = startValue fs b := by
  show between ⟨fs, .value orClose⟩ b = startValue fs b
  unfold between
  rw [hs, if_neg Bool.false_ne_true]
  cases orClose with
  | false => rfl
  | true =>
    dsimp only
    split
    · contradiction
    · rfl
    iterate 7
      contradiction
    exact (‹∀ orClose, Mode.value true = .value orClose → False› true rfl).elim

theorem startValue_digit (d : Digit) :
    startValue fs d.char.toUInt8 =
      some ⟨fs, .numeral (if d = .zero then .zero else .whole) ⟨false, [d], [], none⟩⟩ := by
  obtain ⟨k, hk⟩ := d
  interval_cases k <;> rfl

theorem step_value_digit (d : Digit) (orClose : Bool) :
    step ⟨fs, .value orClose⟩ d.char.toUInt8 = startValue fs d.char.toUInt8 := by
  obtain ⟨k, hk⟩ := d
  interval_cases k <;> cases orClose <;> rfl

theorem extend_minus (n : Numeral) (d : Digit) :
    extendNumeral .minus n d.char.toUInt8 =
      some (if d = .zero then .zero else .whole, { n with whole := [d] }) := by
  obtain ⟨k, hk⟩ := d
  interval_cases k <;> rfl

theorem extend_whole (n : Numeral) (d : Digit) :
    extendNumeral .whole n d.char.toUInt8 = some (.whole, { n with whole := d :: n.whole }) := by
  obtain ⟨k, hk⟩ := d
  interval_cases k <;> rfl

theorem extend_fraction {last : NumeralEnd} (h : last = .point ∨ last = .fraction) (n : Numeral)
    (d : Digit) :
    extendNumeral last n d.char.toUInt8 =
      some (.fraction, { n with fraction := d :: n.fraction }) := by
  obtain ⟨k, hk⟩ := d
  rcases h with rfl | rfl <;> interval_cases k <;> rfl

theorem extend_exponent {last : NumeralEnd} (h : last = .mark ∨ last = .sign ∨ last = .exponent)
    (n : Numeral) (upper : Bool) (sign : ExponentSign) (ds : List Digit) (d : Digit) :
    extendNumeral last { n with exponent := some (upper, sign, ds) } d.char.toUInt8 =
      some (.exponent, { n with exponent := some (upper, sign, d :: ds) }) := by
  obtain ⟨k, hk⟩ := d
  rcases h with rfl | rfl | rfl <;> interval_cases k <;> rfl

/-- The sign and the digits before the point. -/
theorem run_whole (fs : List Frame) (negative orClose : Bool) {whole : List Digit}
    (h : whole = [.zero] ∨ ∃ d ds, whole = d :: ds ∧ d ≠ .zero) :
    ∃ last, (last = .zero ∨ last = .whole) ∧
      run ⟨fs, .value orClose⟩ (ascii ((if negative then ['-'] else []) ++ Digits.chars whole)) =
        some ⟨fs, .numeral last ⟨negative, whole.reverse, [], none⟩⟩ := by
  -- the first digit decides whether more of them may follow
  have first : ∀ (d : Digit) (ds : List Digit),
      run ⟨fs, .value orClose⟩
          (ascii ((if negative then ['-'] else []) ++ Digits.chars (d :: ds))) =
        run ⟨fs, .numeral (if d = .zero then .zero else .whole) ⟨negative, [d], [], none⟩⟩
          (ascii (Digits.chars ds)) := by
    intro d ds
    rw [ascii_append, ascii_chars_cons, run_append]
    cases negative with
    | false =>
      show run _ _ = _
      rw [run_cons, step_value_digit, startValue_digit, Option.bind_some]
    | true =>
      have hminus : step ⟨fs, .value orClose⟩ '-'.toUInt8 =
          some ⟨fs, .numeral .minus ⟨true, [], [], none⟩⟩ := by
        cases orClose <;> rfl
      show ((step _ '-'.toUInt8).bind _).bind _ = _
      rw [hminus]
      show run _ _ = _
      rw [run_cons, step_numeral (extend_minus _ d), Option.bind_some]
  rcases h with rfl | ⟨d, ds, rfl, hd⟩
  · exact ⟨.zero, .inl rfl, first .zero []⟩
  · refine ⟨.whole, .inr rfl, ?_⟩
    rw [first, if_neg hd, List.reverse_cons]
    exact run_digits (n := fun es => ⟨negative, es, [], none⟩) (fun e es => extend_whole _ e) ds [d]

/-- The point and the digits behind it. -/
theorem run_fraction (fs : List Frame) {last : NumeralEnd} (h : last = .zero ∨ last = .whole)
    (n : Numeral) (fraction : List Digit) :
    ∃ last', (last' = .zero ∨ last' = .whole ∨ last' = .fraction) ∧
      run ⟨fs, .numeral last { n with fraction := [] }⟩
          (ascii (if fraction.isEmpty then [] else '.' :: Digits.chars fraction)) =
        some ⟨fs, .numeral last' { n with fraction := fraction.reverse }⟩ := by
  cases fraction with
  | nil => exact ⟨last, by tauto, rfl⟩
  | cons d ds =>
    refine ⟨.fraction, by simp, ?_⟩
    have hpoint : extendNumeral last { n with fraction := [] } '.'.toUInt8 =
        some (.point, { n with fraction := [] }) := by
      rcases h with rfl | rfl <;> rfl
    show run _ ('.'.toUInt8 :: ascii (Digits.chars (d :: ds))) = _
    rw [run_cons, step_numeral hpoint, Option.bind_some, ascii_chars_cons, run_cons,
      step_numeral (extend_fraction (.inl rfl) _ d), Option.bind_some, List.reverse_cons]
    exact run_digits (n := fun es => { n with fraction := es })
      (fun e es => extend_fraction (.inr rfl) _ e) ds [d]

/-- The exponent with its mark and its sign. -/
theorem run_exponent (fs : List Frame) {last : NumeralEnd}
    (h : last = .zero ∨ last = .whole ∨ last = .fraction) (n : Numeral)
    (exponent : Option (Bool × ExponentSign × List Digit))
    (he : ∀ upper sign ds, exponent = some (upper, sign, ds) → ds ≠ []) :
    ∃ last', last'.isComplete = true ∧
      run ⟨fs, .numeral last { n with exponent := none }⟩
          (ascii (Numeral.exponentChars exponent)) =
        some ⟨fs, .numeral last' { n with
          exponent := exponent.map fun (upper, sign, ds) => (upper, sign, ds.reverse) }⟩ := by
  match exponent with
  | none => exact ⟨last, by rcases h with rfl | rfl | rfl <;> rfl, rfl⟩
  | some (upper, sign, ds) =>
    refine ⟨.exponent, rfl, ?_⟩
    obtain ⟨d, ds, rfl⟩ := List.exists_cons_of_ne_nil (he _ _ _ rfl)
    have hmark : extendNumeral last { n with exponent := none }
        (if upper then 'E' else 'e').toUInt8 =
        some (.mark, { n with exponent := some (upper, .none, []) }) := by
      rcases h with rfl | rfl | rfl <;> cases upper <;> rfl
    have hsign : ∀ s : ExponentSign, ∀ c, (s = .plus ∧ c = '+') ∨ (s = .minus ∧ c = '-') →
        extendNumeral .mark { n with exponent := some (upper, .none, []) } c.toUInt8 =
          some (.sign, { n with exponent := some (upper, s, []) }) := by
      rintro s c (⟨rfl, rfl⟩ | ⟨rfl, rfl⟩) <;> rfl
    have digits : ∀ last, last = .mark ∨ last = .sign ∨ last = .exponent →
        run ⟨fs, .numeral last { n with exponent := some (upper, sign, []) }⟩
            (ascii (Digits.chars (d :: ds))) =
          some ⟨fs, .numeral .exponent
            { n with exponent := some (upper, sign, (d :: ds).reverse) }⟩ := by
      intro last hlast
      rw [ascii_chars_cons, run_cons, step_numeral (extend_exponent hlast n upper sign [] d),
        Option.bind_some, List.reverse_cons]
      exact run_digits (n := fun es => { n with exponent := some (upper, sign, es) })
        (fun e es => extend_exponent (.inr (.inr rfl)) n upper sign es e) ds [d]
    show run _ ((if upper then 'E' else 'e').toUInt8 :: ascii (_ ++ Digits.chars (d :: ds))) = _
    rw [run_cons, step_numeral hmark, Option.bind_some, ascii_append, run_append]
    cases sign with
    | none => exact digits .mark (.inl rfl)
    | plus =>
      show (run _ ['+'.toUInt8]).bind _ = _
      rw [run_cons, step_numeral (hsign .plus '+' (by simp))]
      exact digits .sign (.inr (.inl rfl))
    | minus =>
      show (run _ ['-'.toUInt8]).bind _ = _
      rw [run_cons, step_numeral (hsign .minus '-' (by simp))]
      exact digits .sign (.inr (.inl rfl))

/-- A numeral is read as it was written, and may go on. -/
theorem run_numeral (fs : List Frame) {n : Numeral} (h : n.WellFormed) (orClose : Bool) :
    ∃ last m, last.isComplete = true ∧ finishNumeral m = n ∧
      run ⟨fs, .value orClose⟩ (ascii n.chars) = some ⟨fs, .numeral last m⟩ := by
  obtain ⟨_, h₁, hwhole⟩ := run_whole fs n.negative orClose h.whole
  obtain ⟨_, h₂, hfraction⟩ := run_fraction fs h₁
    ⟨n.negative, n.whole.reverse, [], none⟩ n.fraction
  obtain ⟨last, h₃, hexponent⟩ := run_exponent fs h₂
    ⟨n.negative, n.whole.reverse, n.fraction.reverse, none⟩ n.exponent h.exponent
  refine ⟨last, _, h₃, ?_, by
    rw [Numeral.chars, ascii_append, ascii_append, run_append, run_append, hwhole,
      Option.bind_some, hfraction, Option.bind_some, hexponent]⟩
  obtain ⟨negative, whole, fraction, exponent⟩ := n
  cases exponent <;> simp [finishNumeral]

/-! ### Trees -/

/-- What may follow a value: a comma, a closing bracket or brace, or white space. -/
def IsEnd (b : UInt8) : Prop :=
  b = ','.toUInt8 ∨ b = ']'.toUInt8 ∨ b = '}'.toUInt8 ∨ isSpace b = true

/-- A value may come next, as an item, as the value of a member or on its own. -/
def Accepts : List Frame → Prop
  | .object _ :: _ => False
  | _ => True

/-- The reader has taken in a value. It may learn only from the next octet that the value is
complete. -/
structure Holds (r : Reader) (t : Tree) (fs : List Frame) : Prop where
  step : ∀ b, IsEnd b → r.step b = (deliver t fs).bind (·.step b)
  result : fs = [] → r.result? = some t

theorem exists_deliver (t : Tree) (h : Accepts fs) : ∃ r, deliver t fs = some r := by
  match fs, h with
  | [], _ => exact ⟨_, rfl⟩
  | .array _ :: _, _ => exact ⟨_, rfl⟩
  | .member _ _ :: _, _ => exact ⟨_, rfl⟩

theorem step_of_deliver {r : Reader} {t : Tree} (h : deliver t fs = some r) (b : UInt8) :
    r.step b = r.between b := by
  match fs, h with
  | [], rfl => rfl
  | .array _ :: _, rfl => rfl
  | .member _ _ :: _, rfl => rfl

theorem holds_of_deliver {r : Reader} {t : Tree} (h : deliver t fs = some r) : Holds r t fs := by
  refine ⟨fun b _ => by rw [h, Option.bind_some], ?_⟩
  rintro rfl
  obtain rfl := Option.some.inj h
  rfl

theorem isSpace_iff {b : UInt8} :
    isSpace b = true ↔ b = 0x20 ∨ b = 0x09 ∨ b = 0x0A ∨ b = 0x0D := by
  simp [isSpace, or_assoc]

/-- What may follow a value does not belong to a numeral. -/
theorem extendNumeral_end {last : NumeralEnd} (h : last.isComplete = true) (n : Numeral)
    {b : UInt8} (hb : IsEnd b) : extendNumeral last n b = none := by
  obtain ⟨negative, whole, fraction, exponent⟩ := n
  unfold IsEnd at hb
  rw [isSpace_iff] at hb
  rcases hb with rfl | rfl | rfl | rfl | rfl | rfl | rfl <;> cases last <;> rfl

theorem holds_numeral {last : NumeralEnd} (h : last.isComplete = true) (n : Numeral)
    (hfs : Accepts fs) :
    Holds ⟨fs, .numeral last n⟩ (.number (finishNumeral n)) fs := by
  refine ⟨fun b hb => ?_, ?_⟩
  · obtain ⟨r, hr⟩ := exists_deliver (.number (finishNumeral n)) hfs
    simp only [Reader.step, extendNumeral_end h n hb, h, if_true, hr, Option.bind_some]
    exact (step_of_deliver hr b).symm
  · rintro rfl
    simp only [result?, h, if_true]

theorem between_of_isSpace (r : Reader) {b : UInt8} (h : isSpace b = true) :
    r.between b = some r := by
  rw [between, if_pos h]

/-- White space between the other parts of a text leaves the reader where it was. -/
theorem run_isBlank {r : Reader} (hr : r.step = r.between) {bs : List UInt8} (h : IsBlank bs) :
    run r bs = some r := by
  induction bs with
  | nil => rfl
  | cons b bs ih =>
    obtain ⟨hb, hbs⟩ := List.forall_mem_cons.1 h
    rw [run_cons, hr, between_of_isSpace r hb, Option.bind_some, ih hbs]

/-- A value is read from a text in any place for one. -/
def Reads (t : Tree) (bs : List UInt8) : Prop :=
  ∀ fs orClose, Accepts fs → ∃ r, run ⟨fs, .value orClose⟩ bs = some r ∧ Holds r t fs

/-- Behind a value white space may follow. -/
theorem Holds.blank {r : Reader} {t : Tree} (hold : Holds r t fs) (hfs : Accepts fs)
    {bs : List UInt8} (h : IsBlank bs) : ∃ r', run r bs = some r' ∧ Holds r' t fs := by
  cases bs with
  | nil => exact ⟨r, rfl, hold⟩
  | cons b bs =>
    obtain ⟨hb, hbs⟩ := List.forall_mem_cons.1 h
    obtain ⟨d, hd⟩ := exists_deliver t hfs
    have hstep : d.step = d.between := funext (step_of_deliver hd)
    refine ⟨d, ?_, holds_of_deliver hd⟩
    rw [run_cons, hold.step b (.inr (.inr (.inr hb))), hd, Option.bind_some, hstep,
      between_of_isSpace d hb, Option.bind_some, run_isBlank hstep hbs]

/-- White space around a value changes nothing. -/
theorem Reads.padded {t : Tree} {front bs back : List UInt8} (h : Reads t bs)
    (hfront : IsBlank front) (hback : IsBlank back) : Reads t (front ++ bs ++ back) := by
  intro fs orClose hfs
  obtain ⟨r, hr, hold⟩ := h fs orClose hfs
  obtain ⟨r', hr', hold'⟩ := hold.blank hfs hback
  refine ⟨r', ?_, hold'⟩
  rw [run_append, run_append, run_isBlank rfl hfront, Option.bind_some, hr, Option.bind_some, hr']

/-- The items of an array from the first one on, and the closing bracket. -/
theorem run_items {items : List (Tree × List UInt8)} (hne : items ≠ [])
    (h : ∀ x ∈ items, Reads x.1 x.2) (before : List Tree) (orClose : Bool) :
    run ⟨.array before :: fs, .value orClose⟩
        (List.intercalate [','.toUInt8] (items.map Prod.snd) ++ [']'.toUInt8]) =
      deliver (.array (before.reverse ++ items.map Prod.fst)) fs := by
  induction items generalizing before orClose with
  | nil => exact absurd rfl hne
  | cons x xs ih =>
    obtain ⟨t, bs⟩ := x
    obtain ⟨r, hr, hold⟩ := h (t, bs) (by simp) (.array before :: fs) orClose trivial
    dsimp only at hr
    cases xs with
    | nil =>
      rw [List.map_singleton, List.intercalate_singleton, run_append, hr, Option.bind_some,
        run_cons, hold.step _ (by simp [IsEnd])]
      show (deliver (.array (t :: before).reverse) fs).bind some = _
      rw [Option.bind_fun_some, List.reverse_cons, List.map_singleton]
    | cons y ys =>
      rw [List.map_cons, List.map_cons, List.intercalate_cons_cons, List.append_assoc,
        List.append_assoc, run_append, hr, Option.bind_some, List.singleton_append, run_cons,
        hold.step _ (by simp [IsEnd])]
      show run ⟨.array (t :: before) :: fs, .value false⟩ _ = _
      rw [← List.map_cons, ih (by simp) (fun v hv => h v (by simp [hv])), List.reverse_cons,
        List.append_assoc, List.singleton_append, ← List.map_cons (f := Prod.fst) (a := (t, bs))]

/-- The name of a member. -/
theorem run_name (fs : List Frame) {key : Literal} {name : List UInt8} (h : key.Names name)
    (before : List (Literal × Tree)) (orClose : Bool) :
    run ⟨.object before :: fs, .key orClose⟩ name =
      some ⟨.object before :: fs, .colon key⟩ := by
  obtain ⟨hfront, literal, hback⟩ := h
  have hquote : step ⟨.object before :: fs, .key orClose⟩ '"'.toUInt8 =
      some ⟨.object before :: fs, .string true []⟩ := by
    cases orClose <;> rfl
  rw [run_append, run_append, run_isBlank rfl hfront, Option.bind_some, quoted, run_cons, hquote,
    Option.bind_some, run_string literal, if_pos rfl, Option.bind_some, run_isBlank rfl hback]

/-- A member of an object up to the end of its value. -/
theorem run_member (fs : List Frame) {m : MemberText} (hname : m.key.Names m.name)
    (h : Reads m.value m.text) (before : List (Literal × Tree)) (orClose : Bool) :
    ∃ r, run ⟨.object before :: fs, .key orClose⟩ m.octets = some r ∧
      Holds r m.value (.member before m.key :: fs) := by
  obtain ⟨r, hr, hold⟩ := h (.member before m.key :: fs) false trivial
  refine ⟨r, ?_, hold⟩
  rw [MemberText.octets, memberText, run_append, run_name fs hname, Option.bind_some, run_cons]
  exact hr

/-- The members of an object from the first one on, and the closing brace. -/
theorem run_members {members : List MemberText} (hne : members ≠ [])
    (names : ∀ m ∈ members, m.key.Names m.name) (values : ∀ m ∈ members, Reads m.value m.text)
    (before : List (Literal × Tree)) (orClose : Bool) :
    run ⟨.object before :: fs, .key orClose⟩
        (List.intercalate [','.toUInt8] (members.map MemberText.octets) ++ ['}'.toUInt8]) =
      deliver (.object (before.reverse ++ members.map MemberText.member)) fs := by
  induction members generalizing before orClose with
  | nil => exact absurd rfl hne
  | cons m ms ih =>
    obtain ⟨r, hr, hold⟩ := run_member fs (names m (by simp)) (values m (by simp)) before orClose
    cases ms with
    | nil =>
      rw [List.map_singleton, List.intercalate_singleton, run_append, hr, Option.bind_some,
        run_cons, hold.step _ (by simp [IsEnd])]
      show (deliver (.object (m.member :: before).reverse) fs).bind some = _
      rw [Option.bind_fun_some, List.reverse_cons, List.map_singleton]
    | cons n ms =>
      rw [List.map_cons, List.map_cons, List.intercalate_cons_cons, List.append_assoc,
        List.append_assoc, run_append, hr, Option.bind_some, List.singleton_append, run_cons,
        hold.step _ (by simp [IsEnd])]
      show run ⟨.object (m.member :: before) :: fs, .key false⟩ _ = _
      have hrest := ih (by simp) (fun v hv => names v (by simp [hv]))
        (fun v hv => values v (by simp [hv])) (m.member :: before) false
      rw [List.map_cons] at hrest
      rw [hrest, List.reverse_cons, List.append_assoc]
      rfl

/-- Every value but a number is handed over with its last octet. -/
theorem reads_of_deliver {t : Tree} {bs : List UInt8}
    (h : ∀ fs orClose, run ⟨fs, .value orClose⟩ bs = deliver t fs) : Reads t bs := by
  intro fs orClose hfs
  obtain ⟨r, hr⟩ := exists_deliver t hfs
  exact ⟨r, (h fs orClose).trans hr, holds_of_deliver hr⟩

/-- Every spelling of a tree is read as the tree, in any place for it. -/
theorem reads_of_spelled {t : Tree} {bs : List UInt8} (h : t.Spelled bs) : Reads t bs := by
  induction h with
  | null =>
    apply reads_of_deliver
    intro fs orClose
    cases orClose <;> exact Option.bind_fun_some _
  | true =>
    apply reads_of_deliver
    intro fs orClose
    cases orClose <;> exact Option.bind_fun_some _
  | false =>
    apply reads_of_deliver
    intro fs orClose
    cases orClose <;> exact Option.bind_fun_some _
  | number h =>
    intro fs orClose hfs
    obtain ⟨last, m, hl, rfl, hrun⟩ := run_numeral fs h orClose
    exact ⟨_, hrun, holds_numeral hl m hfs⟩
  | @string s bs literal =>
    apply reads_of_deliver
    intro fs orClose
    have hquote : step ⟨fs, .value orClose⟩ '"'.toUInt8 = some ⟨fs, .string false []⟩ := by
      cases orClose <;> rfl
    rw [quoted, run_cons, hquote, Option.bind_some, run_string literal, if_neg Bool.false_ne_true]
  | @array blank items isBlank _ ih =>
    apply reads_of_deliver
    intro fs orClose
    have hopen : step ⟨fs, .value orClose⟩ '['.toUInt8 =
        some ⟨.array [] :: fs, .value true⟩ := by
      cases orClose <;> rfl
    rw [arrayText, bracketed, run_cons, hopen, Option.bind_some]
    cases items with
    | nil =>
      show run _ (blank ++ _) = _
      rw [run_append, run_isBlank rfl isBlank]
      exact Option.bind_fun_some _
    | cons x xs => exact run_items (by simp) ih [] true
  | @object blank members isBlank names _ ih =>
    apply reads_of_deliver
    intro fs orClose
    have hopen : step ⟨fs, .value orClose⟩ '{'.toUInt8 =
        some ⟨.object [] :: fs, .key true⟩ := by
      cases orClose <;> rfl
    rw [objectText, bracketed, run_cons, hopen, Option.bind_some]
    cases members with
    | nil =>
      show run _ (blank ++ _) = _
      rw [run_append, run_isBlank rfl isBlank]
      exact Option.bind_fun_some _
    | cons m ms => exact run_members (by simp) names ih [] true
  | padded front_blank _ back_blank ih => exact ih.padded front_blank back_blank

end Reader

namespace Tree

/-- Every spelling of a tree is read back. -/
theorem parse?_of_spelled {t : Tree} {bs : List UInt8} (h : t.Spelled bs) : parse? bs = some t := by
  obtain ⟨r, hr, hold⟩ := Reader.reads_of_spelled h [] false trivial
  have hr' : bs.foldlM Reader.step Reader.start = some r := hr
  rw [parse?, hr', Option.bind_some, hold.result rfl]

/-- A written tree is read back from its text. -/
theorem parse?_print {t : Tree} (h : t.Written) : parse? t.print = some t :=
  parse?_of_spelled h.spelled

/-- It is read back from a line of its own. -/
theorem parse?_print_newline {t : Tree} (h : t.Written) :
    parse? (t.print ++ ['\n'.toUInt8]) = some t := by
  have hline : t.Spelled ([] ++ t.print ++ ['\n'.toUInt8]) :=
    .padded isBlank_nil h.spelled fun b hb => by rw [List.mem_singleton.1 hb]; rfl
  exact parse?_of_spelled hline

end Tree
end LoadBench.Json
