import LoadBench.Proofs.Json.Prefix
import LoadBench.Proofs.Text.Numbers

/-!
What the reader accepts is JSON.

The reader keeps the arrays and objects that are open on a stack, so what it has read of a text is
no value yet. Each part of the grammar is therefore recognized together with the rest of the text:
if the whole is accepted, a spelling of the part stands in front, and reading goes on behind it.
-/
namespace LoadBench.Json
namespace Reader

/-- What comes of a text that is read from `r` on. -/
def finish? (r : Reader) (bs : List UInt8) : Option Tree := (run r bs).bind result?

/-- What comes of the rest of a text behind a complete value. -/
def resume? (t : Tree) (fs : List Frame) (bs : List UInt8) : Option Tree :=
  (deliver t fs).bind fun r => r.finish? bs

variable {fs : List Frame} {isKey : Bool} {read : Literal} {bs : List UInt8} {T : Tree}

theorem finish?_nil (r : Reader) : r.finish? [] = r.result? := rfl

theorem finish?_cons (r : Reader) (b : UInt8) (bs : List UInt8) :
    r.finish? (b :: bs) = (r.step b).bind fun r => r.finish? bs := by
  unfold finish?
  rw [run_cons, Option.bind_assoc]

theorem finish?_append (r : Reader) (front back : List UInt8) :
    r.finish? (front ++ back) = (run r front).bind fun r => r.finish? back := by
  unfold finish?
  rw [run_append, Option.bind_assoc]

/-- An accepted text that goes on has a next step. -/
theorem exists_step {r : Reader} {b : UInt8} (h : r.finish? (b :: bs) = some T) :
    ∃ r', r.step b = some r' ∧ r'.finish? bs = some T := by
  rw [finish?_cons] at h
  exact Option.bind_eq_some_iff.1 h

/-! ### Words -/

theorem exists_word {t : Tree} {w : List UInt8} (hw : w ≠ [])
    (h : finish? ⟨fs, .word w t⟩ bs = some T) :
    ∃ rest, bs = w ++ rest ∧ resume? t fs rest = some T := by
  induction w generalizing bs with
  | nil => exact absurd rfl hw
  | cons c cs ih =>
    cases bs with
    | nil => cases h
    | cons b bs =>
      obtain ⟨r, hstep, hr⟩ := exists_step h
      simp only [step] at hstep
      split_ifs at hstep with hb hcs
      · obtain rfl := not_not.1 hb
        obtain rfl := List.isEmpty_iff.1 hcs
        exact ⟨bs, rfl, by rw [resume?, hstep, Option.bind_some, hr]⟩
      · obtain rfl := not_not.1 hb
        cases hstep
        obtain ⟨rest, rfl, hrest⟩ := ih (fun hnil => hcs (List.isEmpty_iff.2 hnil)) hr
        exact ⟨rest, rfl, hrest⟩

/-! ### Strings -/

/-- An escape does not end before its fourth digit. -/
theorem finish?_hex_of_short {digits : List Nat} (h : digits.length + bs.length < 4) :
    finish? ⟨fs, .hex isKey read digits⟩ bs = none := by
  induction bs generalizing digits with
  | nil => rfl
  | cons b bs ih =>
    rw [List.length_cons] at h
    rw [finish?_cons, step_hex (by omega)]
    cases Text.hexDigit? (Char.ofUInt8 b) with
    | none => rfl
    | some d => exact ih (by rw [List.length_cons]; omega)

theorem exists_hex (h : finish? ⟨fs, .hex isKey read []⟩ bs = some T) :
    ∃ digits rest n, bs = digits ++ rest ∧ digits.length = 4 ∧
      Text.readHex? (digits.map Char.ofUInt8) = some n ∧
      finish? ⟨fs, .string isKey (.ofCodeUnit n :: read)⟩ rest = some T := by
  by_cases hlen : bs.length < 4
  · rw [finish?_hex_of_short (by rw [List.length_nil]; omega)] at h
    cases h
  · have hfour : (bs.take 4).length = 4 := List.length_take_of_le (by omega)
    rw [← List.take_append_drop 4 bs, finish?_append, run_hex hfour] at h
    obtain ⟨r, hr, h⟩ := Option.bind_eq_some_iff.1 h
    obtain ⟨n, hn, rfl⟩ := Option.map_eq_some_iff.1 hr
    exact ⟨_, _, n, (List.take_append_drop 4 bs).symm, hfour, hn, h⟩

/-- A string goes on with a piece, or ends. -/
theorem exists_piece (h : finish? ⟨fs, .string isKey read⟩ bs = some T) :
    (∃ rest, bs = '"'.toUInt8 :: rest ∧
      (endString fs isKey read).bind (fun r => r.finish? rest) = some T) ∨
    ∃ p text rest, bs = text ++ rest ∧ text ≠ [] ∧ Piece.Spelled p text ∧
      finish? ⟨fs, .string isKey (p :: read)⟩ rest = some T := by
  cases bs with
  | nil => cases h
  | cons b bs =>
    obtain ⟨r, hstep, hr⟩ := exists_step h
    unfold step at hstep
    dsimp only at hstep
    split at hstep
    · obtain rfl := Utf8.eq_toUInt8 ‹_›
      exact .inl ⟨bs, rfl, by rw [hstep, Option.bind_some, hr]⟩
    · obtain rfl := Utf8.eq_toUInt8 ‹_›
      cases hstep
      right
      cases bs with
      | nil => cases hr
      | cons c bs =>
        obtain ⟨r, hstep, hr⟩ := exists_step hr
        rw [step_escape] at hstep
        split_ifs at hstep with hu
        · cases hstep
          obtain ⟨digits, rest, n, rfl, four, value, hrest⟩ := exists_hex hr
          exact ⟨_, '\\'.toUInt8 :: c :: digits, rest, rfl, by simp, hu ▸ .hex four value, hrest⟩
        · obtain ⟨d, hd, rfl⟩ := Option.map_eq_some_iff.1 hstep
          exact ⟨_, ['\\'.toUInt8, c], bs, rfl, by simp, .short (escaped?_eq_some_iff.1 hd), hr⟩
    · rename_i hquote hslash
      split_ifs at hstep with hb
      cases hstep
      refine .inr ⟨_, [b], bs, rfl, by simp, .plain (UInt8.not_lt.1 hb) ?_ ?_, hr⟩
      · rintro rfl
        exact hquote rfl
      · rintro rfl
        exact hslash rfl

/-- A string ends with a quote, and a literal of the grammar stands in front of it. -/
theorem exists_literal (h : finish? ⟨fs, .string isKey read⟩ bs = some T) :
    ∃ s text rest, bs = text ++ '"'.toUInt8 :: rest ∧ Literal.Spelled s text ∧
      (endString fs isKey (s.reverse ++ read)).bind (fun r => r.finish? rest) = some T := by
  induction hn : bs.length using Nat.strong_induction_on generalizing bs read with
  | _ n ih =>
    rcases exists_piece h with ⟨rest, rfl, hrest⟩ | ⟨p, text, rest, rfl, hne, piece, hrest⟩
    · exact ⟨[], [], rest, rfl, .nil, hrest⟩
    · have hpos := List.length_pos_iff.2 hne
      rw [List.length_append] at hn
      obtain ⟨s, text', rest', rfl, spelled, hend⟩ := ih rest.length (by omega) hrest rfl
      refine ⟨p :: s, text ++ text', rest', (List.append_assoc ..).symm, .cons piece spelled, ?_⟩
      rw [List.reverse_cons, List.append_assoc]
      exact hend

/-! ### Numerals -/

/-- The digits before the point, latest first. -/
def IsWholePart (ds : List Digit) : Prop :=
  ds.reverse = [.zero] ∨ ∃ d es, ds.reverse = d :: es ∧ d ≠ .zero

/-- What has been read of a numeral when its last octet was of a kind. -/
inductive Begun : NumeralEnd → Numeral → Prop
  | minus : Begun .minus ⟨true, [], [], none⟩
  | zero (negative : Bool) : Begun .zero ⟨negative, [.zero], [], none⟩
  | whole (negative : Bool) {ds : List Digit} (digits : ∃ d es, ds.reverse = d :: es ∧ d ≠ .zero) :
      Begun .whole ⟨negative, ds, [], none⟩
  | point (negative : Bool) {ds : List Digit} (digits : IsWholePart ds) :
      Begun .point ⟨negative, ds, [], none⟩
  | fraction (negative : Bool) {ds : List Digit} (digits : IsWholePart ds) (e : Digit)
      (es : List Digit) : Begun .fraction ⟨negative, ds, e :: es, none⟩
  | mark (negative upper : Bool) {ds : List Digit} (digits : IsWholePart ds) (es : List Digit) :
      Begun .mark ⟨negative, ds, es, some (upper, .none, [])⟩
  | sign (negative upper : Bool) {ds : List Digit} (digits : IsWholePart ds) (es : List Digit)
      (s : ExponentSign) : Begun .sign ⟨negative, ds, es, some (upper, s, [])⟩
  | exponent (negative upper : Bool) {ds : List Digit} (digits : IsWholePart ds) (es : List Digit)
      (s : ExponentSign) (x : Digit) (xs : List Digit) :
      Begun .exponent ⟨negative, ds, es, some (upper, s, x :: xs)⟩

/-- The octets read of a numeral. Of the point the numeral itself does not know. -/
def numeralText (last : NumeralEnd) (n : Numeral) : List UInt8 :=
  ascii (finishNumeral n).chars ++ if last = .point then ['.'.toUInt8] else []

theorem whole_cons {ds : List Digit} (h : ∃ d es, ds.reverse = d :: es ∧ d ≠ .zero) (e : Digit) :
    ∃ d es, (e :: ds).reverse = d :: es ∧ d ≠ .zero := by
  obtain ⟨d, es, hds, hd⟩ := h
  exact ⟨d, es ++ [e], by rw [List.reverse_cons, hds, List.cons_append], hd⟩

theorem numeralText_eq (last : NumeralEnd) (negative : Bool) (ds es : List Digit)
    (exponent : Option (Bool × ExponentSign × List Digit)) :
    numeralText last ⟨negative, ds, es, exponent⟩ =
      ascii (if negative then ['-'] else []) ++ ascii (Digits.chars ds.reverse) ++
        ascii (if es.reverse.isEmpty then [] else '.' :: Digits.chars es.reverse) ++
        ascii (Numeral.exponentChars (exponent.map fun (upper, sign, xs) =>
          (upper, sign, xs.reverse))) ++
        if last = .point then ['.'.toUInt8] else [] := by
  simp only [numeralText, finishNumeral, Numeral.chars, ascii_append]
  rfl

theorem ascii_chars_reverse_cons (d : Digit) (ds : List Digit) :
    ascii (Digits.chars (d :: ds).reverse) = ascii (Digits.chars ds.reverse) ++ [d.char.toUInt8] := by
  simp [ascii, Digits.chars]

theorem begun_point {last : NumeralEnd} (hlast : last ≠ .point) (negative : Bool) {ds : List Digit}
    (digits : IsWholePart ds) :
    Begun .point ⟨negative, ds, [], none⟩ ∧
      numeralText .point ⟨negative, ds, [], none⟩ =
        numeralText last ⟨negative, ds, [], none⟩ ++ ['.'.toUInt8] := by
  refine ⟨.point negative digits, ?_⟩
  rw [numeralText_eq, numeralText_eq, if_neg hlast]
  simp [ascii, Numeral.exponentChars]

theorem begun_mark {last : NumeralEnd} (hlast : last ≠ .point) (negative upper : Bool)
    {ds : List Digit} (digits : IsWholePart ds) (es : List Digit) :
    Begun .mark ⟨negative, ds, es, some (upper, .none, [])⟩ ∧
      numeralText .mark ⟨negative, ds, es, some (upper, .none, [])⟩ =
        numeralText last ⟨negative, ds, es, none⟩ ++ [(if upper then 'E' else 'e').toUInt8] := by
  refine ⟨.mark negative upper digits es, ?_⟩
  rw [numeralText_eq, numeralText_eq, if_neg hlast]
  simp [ascii, Numeral.exponentChars, Digits.chars]

theorem begun_exponent {last : NumeralEnd} (hlast : last ≠ .point) (negative upper : Bool)
    {ds : List Digit} (digits : IsWholePart ds) (es : List Digit) (s : ExponentSign) (x : Digit)
    (xs : List Digit) :
    Begun .exponent ⟨negative, ds, es, some (upper, s, x :: xs)⟩ ∧
      numeralText .exponent ⟨negative, ds, es, some (upper, s, x :: xs)⟩ =
        numeralText last ⟨negative, ds, es, some (upper, s, xs)⟩ ++ [x.char.toUInt8] := by
  refine ⟨.exponent negative upper digits es s x xs, ?_⟩
  rw [numeralText_eq, numeralText_eq, if_neg hlast]
  simp [ascii, Numeral.exponentChars, Digits.chars]

/-- One more octet of a numeral. -/
theorem step_begun {last last' : NumeralEnd} {n n' : Numeral} {b : UInt8} (hb : Begun last n)
    (h : extendNumeral last n b = some (last', n')) :
    Begun last' n' ∧ numeralText last' n' = numeralText last n ++ [b] := by
  have digit : ∀ {d : Digit}, Digit.ofChar? (Char.ofUInt8 b) = some d → b = d.char.toUInt8 :=
    fun hd => Utf8.eq_toUInt8 (Digit.eq_char_of_ofChar? hd)
  unfold extendNumeral at h
  dsimp only at h
  cases hb with
  | minus =>
    split at h
    all_goals try contradiction
    rename_i d _ hd
    obtain rfl := digit hd
    cases h
    rw [numeralText_eq, numeralText_eq, ascii_chars_reverse_cons]
    by_cases hzero : d = .zero
    · subst hzero
      exact ⟨.zero true, rfl⟩
    · rw [if_neg hzero]
      refine ⟨.whole true ⟨d, [], rfl, hzero⟩, by simp [ascii, Digits.chars, Numeral.exponentChars]⟩
  | zero negative =>
    split at h
    all_goals try contradiction
    all_goals
      obtain rfl := Utf8.eq_toUInt8 ‹Char.ofUInt8 b = _›
      cases h
    · exact begun_point (by decide) negative (.inl rfl)
    · exact begun_mark (by decide) negative false (.inl rfl) []
    · exact begun_mark (by decide) negative true (.inl rfl) []
  | whole negative digits =>
    split at h
    all_goals try contradiction
    · obtain rfl := digit ‹_›
      cases h
      refine ⟨.whole negative (whole_cons digits _), ?_⟩
      rw [numeralText_eq, numeralText_eq, ascii_chars_reverse_cons]
      simp [Numeral.exponentChars, ascii]
    all_goals
      obtain rfl := Utf8.eq_toUInt8 ‹Char.ofUInt8 b = _›
      cases h
    · exact begun_point (by decide) negative (.inr digits)
    · exact begun_mark (by decide) negative false (.inr digits) []
    · exact begun_mark (by decide) negative true (.inr digits) []
  | point negative digits =>
    split at h
    all_goals try contradiction
    obtain rfl := digit ‹_›
    cases h
    refine ⟨.fraction negative digits _ _, ?_⟩
    rw [numeralText_eq, numeralText_eq]
    simp [Numeral.exponentChars, ascii, Digits.chars]
  | fraction negative digits e es =>
    split at h
    all_goals try contradiction
    · obtain rfl := digit ‹_›
      cases h
      refine ⟨.fraction negative digits _ _, ?_⟩
      rw [numeralText_eq, numeralText_eq]
      simp [Numeral.exponentChars, ascii, Digits.chars]
    all_goals
      obtain rfl := Utf8.eq_toUInt8 ‹Char.ofUInt8 b = _›
      cases h
    · exact begun_mark (by decide) negative false digits (e :: es)
    · exact begun_mark (by decide) negative true digits (e :: es)
  | mark negative upper digits es =>
    split at h
    all_goals try contradiction
    · obtain rfl := Utf8.eq_toUInt8 ‹Char.ofUInt8 b = _›
      cases ‹_ = some (_, _, _)›
      cases h
      refine ⟨.sign negative upper digits es .plus, ?_⟩
      rw [numeralText_eq, numeralText_eq]
      simp [Numeral.exponentChars, ascii, Digits.chars]
    · obtain rfl := Utf8.eq_toUInt8 ‹Char.ofUInt8 b = _›
      cases ‹_ = some (_, _, _)›
      cases h
      refine ⟨.sign negative upper digits es .minus, ?_⟩
      rw [numeralText_eq, numeralText_eq]
      simp [Numeral.exponentChars, ascii, Digits.chars]
    · obtain rfl := digit ‹_›
      cases ‹_ = some (_, _, _)›
      cases h
      exact begun_exponent (by decide) negative upper digits es .none _ []
  | sign negative upper digits es s =>
    split at h
    all_goals try contradiction
    obtain rfl := digit ‹_›
    cases ‹_ = some (_, _, _)›
    cases h
    exact begun_exponent (by decide) negative upper digits es s _ []
  | exponent negative upper digits es s x xs =>
    split at h
    all_goals try contradiction
    obtain rfl := digit ‹_›
    cases ‹_ = some (_, _, _)›
    cases h
    exact begun_exponent (by decide) negative upper digits es s _ (x :: xs)

theorem Begun.wellFormed {last : NumeralEnd} {n : Numeral} (h : Begun last n)
    (hlast : last.isComplete = true) :
    (finishNumeral n).WellFormed ∧ numeralText last n = ascii (finishNumeral n).chars := by
  have text : last ≠ .point → numeralText last n = ascii (finishNumeral n).chars := by
    intro hne
    rw [numeralText, if_neg hne, List.append_nil]
  cases h with
  | zero negative => exact ⟨⟨.inl rfl, fun _ _ _ he => nomatch he⟩, text (by decide)⟩
  | whole negative digits => exact ⟨⟨.inr digits, fun _ _ _ he => nomatch he⟩, text (by decide)⟩
  | fraction negative digits e es => exact ⟨⟨digits, fun _ _ _ he => nomatch he⟩, text (by decide)⟩
  | exponent negative upper digits es s x xs =>
    refine ⟨⟨digits, ?_⟩, text (by decide)⟩
    rintro _ _ _ ⟨⟩
    simp
  | _ => cases hlast

/-- A numeral ends where its octets end, and is one of the grammar. -/
theorem exists_numeral {last : NumeralEnd} {n : Numeral} (begun : Begun last n)
    (h : finish? ⟨fs, .numeral last n⟩ bs = some T) :
    ∃ m text rest, bs = text ++ rest ∧ Numeral.WellFormed m ∧
      numeralText last n ++ text = ascii m.chars ∧ resume? (.number m) fs rest = some T := by
  induction bs generalizing last n with
  | nil =>
    rw [finish?_nil] at h
    unfold result? at h
    cases fs with
    | cons f fs => cases h
    | nil =>
      dsimp only at h
      split_ifs at h with hlast
      obtain ⟨wellFormed, text⟩ := begun.wellFormed hlast
      exact ⟨finishNumeral n, [], [], rfl, wellFormed, by rw [List.append_nil, text], h⟩
  | cons b bs ih =>
    obtain ⟨r, hstep, hr⟩ := exists_step h
    unfold step at hstep
    dsimp only at hstep
    split at hstep
    · rename_i hextend
      cases hstep
      obtain ⟨begun', text'⟩ := step_begun begun hextend
      obtain ⟨m, text, rest, rfl, wellFormed, htext, hrest⟩ := ih begun' hr
      refine ⟨m, b :: text, rest, rfl, wellFormed, ?_, hrest⟩
      rw [← htext, text', List.append_assoc, List.singleton_append]
    · split_ifs at hstep with hlast
      obtain ⟨wellFormed, text⟩ := begun.wellFormed hlast
      obtain ⟨d, hd, hbetween⟩ := Option.bind_eq_some_iff.1 hstep
      refine ⟨finishNumeral n, [], b :: bs, rfl, wellFormed, by rw [List.append_nil, text], ?_⟩
      rw [resume?, hd, Option.bind_some, finish?_cons, step_of_deliver hd, hbetween,
        Option.bind_some, hr]

/-! ### Arrays and objects -/

theorem startValue_cases {b : UInt8} {r : Reader} (h : startValue fs b = some r) :
    (b = '"'.toUInt8 ∧ r = ⟨fs, .string false []⟩) ∨
    (b = '['.toUInt8 ∧ r = ⟨.array [] :: fs, .value true⟩) ∨
    (b = '{'.toUInt8 ∧ r = ⟨.object [] :: fs, .key true⟩) ∨
    (∃ w t, r = ⟨fs, .word w t⟩ ∧ w ≠ [] ∧ Tree.Spelled t (b :: w)) ∨
    ∃ last n, r = ⟨fs, .numeral last n⟩ ∧ Begun last n ∧ numeralText last n = [b] := by
  unfold startValue at h
  dsimp only at h
  split at h
  · cases h
    exact .inl ⟨Utf8.eq_toUInt8 ‹_›, rfl⟩
  · cases h
    exact .inr (.inl ⟨Utf8.eq_toUInt8 ‹_›, rfl⟩)
  · cases h
    exact .inr (.inr (.inl ⟨Utf8.eq_toUInt8 ‹_›, rfl⟩))
  · obtain rfl := Utf8.eq_toUInt8 ‹_›
    cases h
    exact .inr (.inr (.inr (.inl ⟨_, _, rfl, by decide, .null⟩)))
  · obtain rfl := Utf8.eq_toUInt8 ‹_›
    cases h
    exact .inr (.inr (.inr (.inl ⟨_, _, rfl, by decide, .true⟩)))
  · obtain rfl := Utf8.eq_toUInt8 ‹_›
    cases h
    exact .inr (.inr (.inr (.inl ⟨_, _, rfl, by decide, .false⟩)))
  · obtain rfl := Utf8.eq_toUInt8 ‹_›
    cases h
    exact .inr (.inr (.inr (.inr ⟨_, _, rfl, .minus, rfl⟩)))
  · obtain rfl := Utf8.eq_toUInt8 ‹_›
    cases h
    exact .inr (.inr (.inr (.inr ⟨_, _, rfl, .zero false, rfl⟩)))
  · rename_i hzero
    obtain ⟨d, hd, hr⟩ := Option.bind_eq_some_iff.1 h
    cases hr
    have hc := Digit.eq_char_of_ofChar? hd
    have hne : d ≠ .zero := by
      rintro rfl
      exact hzero hc
    refine .inr (.inr (.inr (.inr ⟨_, _, rfl, .whole false ⟨d, [], rfl, hne⟩, ?_⟩)))
    rw [Utf8.eq_toUInt8 hc]
    rfl

/-- Between the parts of a text white space is skipped, and something else follows. -/
theorem exists_token {r : Reader} (hr : r.step = r.between) (hresult : r.result? = none)
    (h : r.finish? bs = some T) :
    ∃ blank b rest r', IsBlank blank ∧ bs = blank ++ b :: rest ∧ isSpace b = false ∧
      r.between b = some r' ∧ r'.finish? rest = some T := by
  induction bs with
  | nil =>
    rw [finish?_nil, hresult] at h
    cases h
  | cons b bs ih =>
    obtain ⟨r', hstep, hrest⟩ := exists_step h
    rw [hr] at hstep
    cases hb : isSpace b with
    | false => exact ⟨[], b, bs, r', isBlank_nil, rfl, hb, hstep, hrest⟩
    | true =>
      rw [between_of_isSpace r hb] at hstep
      cases hstep
      obtain ⟨blank, c, rest, r', hblank, rfl, hc, hbetween, hrest⟩ := ih hrest
      exact ⟨b :: blank, c, rest, r', List.forall_mem_cons.2 ⟨hb, hblank⟩, rfl, hc, hbetween,
        hrest⟩

theorem between_value {orClose : Bool} {b : UInt8} {r : Reader} (hb : isSpace b = false)
    (h : between ⟨fs, .value orClose⟩ b = some r) :
    (orClose = true ∧ b = ']'.toUInt8 ∧ closeArray fs = some r) ∨ startValue fs b = some r := by
  unfold between at h
  rw [hb, if_neg Bool.false_ne_true] at h
  dsimp only at h
  split at h
  all_goals try contradiction
  · exact .inl ⟨by cases ‹Mode.value orClose = _›; rfl, Utf8.eq_toUInt8 ‹_›, h⟩
  · exact .inr h

theorem between_key {orClose : Bool} {b : UInt8} {r : Reader} (hb : isSpace b = false)
    (h : between ⟨fs, .key orClose⟩ b = some r) :
    (orClose = true ∧ b = '}'.toUInt8 ∧ closeObject fs = some r) ∨
      (b = '"'.toUInt8 ∧ r = ⟨fs, .string true []⟩) := by
  unfold between at h
  rw [hb, if_neg Bool.false_ne_true] at h
  dsimp only at h
  split at h
  all_goals try contradiction
  · exact .inr ⟨Utf8.eq_toUInt8 ‹_›, (Option.some.inj h).symm⟩
  · exact .inl ⟨by cases ‹Mode.key orClose = _›; rfl, Utf8.eq_toUInt8 ‹_›, h⟩

theorem between_colon {before : List (Literal × Tree)} {key : Literal} {b : UInt8} {r : Reader}
    (hb : isSpace b = false) (h : between ⟨.object before :: fs, .colon key⟩ b = some r) :
    b = ':'.toUInt8 ∧ r = ⟨.member before key :: fs, .value false⟩ := by
  unfold between at h
  rw [hb, if_neg Bool.false_ne_true] at h
  dsimp only at h
  split at h
  all_goals try contradiction
  cases ‹Mode.colon key = _›
  cases ‹Frame.object before :: fs = _›
  exact ⟨Utf8.eq_toUInt8 ‹_›, (Option.some.inj h).symm⟩

theorem between_item {before : List Tree} {b : UInt8} {r : Reader} (hb : isSpace b = false)
    (h : between ⟨.array before :: fs, .afterValue⟩ b = some r) :
    (b = ','.toUInt8 ∧ r = ⟨.array before :: fs, .value false⟩) ∨
      (b = ']'.toUInt8 ∧ deliver (.array before.reverse) fs = some r) := by
  unfold between at h
  rw [hb, if_neg Bool.false_ne_true] at h
  dsimp only at h
  split at h
  all_goals try contradiction
  · cases ‹Frame.array before :: fs = _›
    exact .inl ⟨Utf8.eq_toUInt8 ‹_›, (Option.some.inj h).symm⟩
  · cases ‹Frame.array before :: fs = _›
  · exact .inr ⟨Utf8.eq_toUInt8 ‹_›, h⟩

theorem between_member {before : List (Literal × Tree)} {b : UInt8} {r : Reader}
    (hb : isSpace b = false) (h : between ⟨.object before :: fs, .afterValue⟩ b = some r) :
    (b = ','.toUInt8 ∧ r = ⟨.object before :: fs, .key false⟩) ∨
      (b = '}'.toUInt8 ∧ deliver (.object before.reverse) fs = some r) := by
  unfold between at h
  rw [hb, if_neg Bool.false_ne_true] at h
  dsimp only at h
  split at h
  all_goals try contradiction
  · cases ‹Frame.object before :: fs = _›
  · cases ‹Frame.object before :: fs = _›
    exact .inl ⟨Utf8.eq_toUInt8 ‹_›, (Option.some.inj h).symm⟩
  · exact .inr ⟨Utf8.eq_toUInt8 ‹_›, h⟩

/-- The name of the next member and its colon, or the end of the object. -/
theorem exists_name {before : List (Literal × Tree)} {orClose : Bool}
    (h : finish? ⟨.object before :: fs, .key orClose⟩ bs = some T) :
    (orClose = true ∧ ∃ blank rest, IsBlank blank ∧ bs = blank ++ '}'.toUInt8 :: rest ∧
      resume? (.object before.reverse) fs rest = some T) ∨
    ∃ key name rest, Literal.Names key name ∧ bs = name ++ ':'.toUInt8 :: rest ∧
      finish? ⟨.member before key :: fs, .value false⟩ rest = some T := by
  obtain ⟨blank, b, rest, r, hblank, rfl, hb, hbetween, hr⟩ := exists_token rfl rfl h
  rcases between_key hb hbetween with ⟨hclose, rfl, hdeliver⟩ | ⟨rfl, rfl⟩
  · refine .inl ⟨hclose, blank, rest, hblank, rfl, ?_⟩
    have hdeliver : deliver (.object before.reverse) fs = some r := hdeliver
    rw [resume?, hdeliver, Option.bind_some, hr]
  · obtain ⟨key, text, rest, rfl, literal, hcolon⟩ := exists_literal hr
    rw [endString, if_pos rfl, List.append_nil, List.reverse_reverse, Option.bind_some] at hcolon
    obtain ⟨blank', b, rest, r, hblank', rfl, hb, hbetween, hr⟩ := exists_token rfl rfl hcolon
    obtain ⟨rfl, rfl⟩ := between_colon hb hbetween
    exact .inr ⟨key, _, rest, .intro hblank literal hblank', by simp [quoted], hr⟩

/-- The three ways in which the reader may stand inside a text: in front of a value, behind an item
and behind a member. The rest of the text begins as the grammar says. -/
structure Recognizes (bs : List UInt8) : Prop where
  value : ∀ {fs : List Frame} {orClose : Bool} {T : Tree},
    finish? ⟨fs, .value orClose⟩ bs = some T →
      (∃ t text rest, bs = text ++ rest ∧ Tree.Spelled t text ∧ resume? t fs rest = some T) ∨
      (orClose = true ∧ ∃ blank rest, IsBlank blank ∧ bs = blank ++ ']'.toUInt8 :: rest ∧
        (closeArray fs).bind (fun r => r.finish? rest) = some T)
  items : ∀ {before : List Tree} {fs : List Frame} {T : Tree},
    finish? ⟨.array before :: fs, .afterValue⟩ bs = some T →
      ∃ (blank : List UInt8) (more : List (Tree × List UInt8)) (rest : List UInt8),
        IsBlank blank ∧ (∀ x ∈ more, Tree.Spelled x.1 x.2) ∧
        bs = blank ++ (more.flatMap fun x => ','.toUInt8 :: x.2) ++ ']'.toUInt8 :: rest ∧
        resume? (.array (before.reverse ++ more.map Prod.fst)) fs rest = some T
  members : ∀ {before : List (Literal × Tree)} {fs : List Frame} {T : Tree},
    finish? ⟨.object before :: fs, .afterValue⟩ bs = some T →
      ∃ (blank : List UInt8) (more : List MemberText) (rest : List UInt8),
        IsBlank blank ∧ (∀ m ∈ more, m.Spelled) ∧
        bs = blank ++ (more.flatMap fun m => ','.toUInt8 :: m.octets) ++ '}'.toUInt8 :: rest ∧
        resume? (.object (before.reverse ++ more.map MemberText.member)) fs rest = some T

theorem intercalate_cons_eq (c : UInt8) (part : List UInt8) (parts : List (List UInt8)) :
    List.intercalate [c] (part :: parts) = part ++ parts.flatMap fun p => c :: p := by
  induction parts generalizing part with
  | nil => rw [List.intercalate_singleton, List.flatMap_nil, List.append_nil]
  | cons p parts ih =>
    rw [List.intercalate_cons_cons, ih, List.flatMap_cons, List.append_assoc]
    rfl

section
variable {n : Nat} (ih : ∀ cs : List UInt8, cs.length < n → Recognizes cs)
include ih

/-- The items of an array up to its bracket, or no items. -/
theorem exists_items {before : List Tree} {orClose : Bool} (hlen : bs.length < n)
    (h : finish? ⟨.array before :: fs, .value orClose⟩ bs = some T) :
    (orClose = true ∧ ∃ blank rest, IsBlank blank ∧ bs = blank ++ ']'.toUInt8 :: rest ∧
      resume? (.array before.reverse) fs rest = some T) ∨
    ∃ (items : List (Tree × List UInt8)) (rest : List UInt8), items ≠ [] ∧
      (∀ x ∈ items, Tree.Spelled x.1 x.2) ∧
      bs = List.intercalate [','.toUInt8] (items.map Prod.snd) ++ ']'.toUInt8 :: rest ∧
      resume? (.array (before.reverse ++ items.map Prod.fst)) fs rest = some T := by
  rcases (ih bs hlen).value h with ⟨t, text, rest, rfl, spelled, hrest⟩ | hclose
  · rw [List.length_append] at hlen
    obtain ⟨blank, more, rest, hblank, hmore, rfl, hend⟩ := (ih rest (by omega)).items hrest
    have hfirst : Tree.Spelled t (text ++ blank) := .padded isBlank_nil spelled hblank
    refine .inr ⟨(t, text ++ blank) :: more, rest, by simp, List.forall_mem_cons.2 ⟨hfirst, hmore⟩,
      ?_, ?_⟩
    · rw [List.map_cons, intercalate_cons_eq, List.flatMap_map]
      simp only [List.append_assoc]
    · rw [List.reverse_cons, List.append_assoc] at hend
      exact hend
  · exact .inl hclose

/-- The members of an object up to its brace, or no members. -/
theorem exists_members {before : List (Literal × Tree)} {orClose : Bool} (hlen : bs.length < n)
    (h : finish? ⟨.object before :: fs, .key orClose⟩ bs = some T) :
    (orClose = true ∧ ∃ blank rest, IsBlank blank ∧ bs = blank ++ '}'.toUInt8 :: rest ∧
      resume? (.object before.reverse) fs rest = some T) ∨
    ∃ (members : List MemberText) (rest : List UInt8), members ≠ [] ∧ (∀ m ∈ members, m.Spelled) ∧
      bs = List.intercalate [','.toUInt8] (members.map MemberText.octets) ++ '}'.toUInt8 :: rest ∧
      resume? (.object (before.reverse ++ members.map MemberText.member)) fs rest = some T := by
  rcases exists_name h with hclose | ⟨key, name, rest, names, rfl, hvalue⟩
  · exact .inl hclose
  · rw [List.length_append, List.length_cons] at hlen
    rcases (ih rest (by omega)).value hvalue with ⟨t, text, rest, rfl, spelled, hrest⟩ | ⟨⟨⟩, -⟩
    rw [List.length_append] at hlen
    obtain ⟨blank, more, rest, hblank, hmore, rfl, hend⟩ := (ih rest (by omega)).members hrest
    have hfirst : MemberText.Spelled ⟨key, t, name, text ++ blank⟩ :=
      ⟨names, .padded isBlank_nil spelled hblank⟩
    refine .inr ⟨⟨key, t, name, text ++ blank⟩ :: more, rest, by simp,
      List.forall_mem_cons.2 ⟨hfirst, hmore⟩, ?_, ?_⟩
    · rw [List.map_cons, intercalate_cons_eq, List.flatMap_map, MemberText.octets, memberText]
      simp only [List.append_assoc, List.cons_append]
    · rw [List.reverse_cons, List.append_assoc] at hend
      exact hend

theorem recognizes_value {orClose : Bool} (hlen : bs.length = n)
    (h : finish? ⟨fs, .value orClose⟩ bs = some T) :
    (∃ t text rest, bs = text ++ rest ∧ Tree.Spelled t text ∧ resume? t fs rest = some T) ∨
    (orClose = true ∧ ∃ blank rest, IsBlank blank ∧ bs = blank ++ ']'.toUInt8 :: rest ∧
      (closeArray fs).bind (fun r => r.finish? rest) = some T) := by
  obtain ⟨blank, b, rest, r, hblank, rfl, hb, hbetween, hr⟩ := exists_token rfl rfl h
  rw [List.length_append, List.length_cons] at hlen
  rcases between_value hb hbetween with ⟨hclose, rfl, hdeliver⟩ | hstart
  · exact .inr ⟨hclose, blank, rest, hblank, rfl, by rw [hdeliver, Option.bind_some, hr]⟩
  left
  -- the white space in front belongs to the value
  have padded : ∀ {t : Tree} {text : List UInt8}, t.Spelled text → t.Spelled (blank ++ text) := by
    intro t text ht
    have hpadded := Tree.Spelled.padded hblank ht isBlank_nil
    rwa [List.append_nil] at hpadded
  rcases startValue_cases hstart with ⟨rfl, rfl⟩ | ⟨rfl, rfl⟩ | ⟨rfl, rfl⟩ |
    ⟨w, t, rfl, hw, spelled⟩ | ⟨last, m, rfl, begun, htext⟩
  · obtain ⟨s, text, rest, rfl, literal, hend⟩ := exists_literal hr
    rw [endString, if_neg Bool.false_ne_true, List.append_nil, List.reverse_reverse] at hend
    exact ⟨_, _, rest, by simp [quoted], padded (.string literal), hend⟩
  · rcases exists_items ih (by omega) hr with ⟨-, inner, rest, hinner, rfl, hrest⟩ |
      ⟨items, rest, hne, hitems, rfl, hrest⟩
    · exact ⟨_, blank ++ arrayText inner [], rest, by simp [arrayText, bracketed],
        padded (@Tree.Spelled.array inner [] hinner (by simp)), hrest⟩
    · refine ⟨_, blank ++ arrayText [] (items.map Prod.snd), rest, ?_,
        padded (.array isBlank_nil hitems), hrest⟩
      rw [arrayText, bracketed_nil]
      simp
  · rcases exists_members ih (by omega) hr with ⟨-, inner, rest, hinner, rfl, hrest⟩ |
      ⟨members, rest, hne, hmembers, rfl, hrest⟩
    · exact ⟨_, blank ++ objectText inner [], rest, by simp [objectText, bracketed],
        padded (@Tree.Spelled.object inner [] hinner (by simp) (by simp)), hrest⟩
    · refine ⟨_, blank ++ objectText [] members, rest, ?_,
        padded (Tree.spelled_object isBlank_nil hmembers), hrest⟩
      rw [objectText, bracketed_nil]
      simp
  · obtain ⟨rest, rfl, hrest⟩ := exists_word hw hr
    exact ⟨t, _, rest, by simp, padded spelled, hrest⟩
  · obtain ⟨numeral, text, rest, rfl, wellFormed, hnumeral, hrest⟩ := exists_numeral begun hr
    rw [htext, List.singleton_append] at hnumeral
    exact ⟨_, blank ++ ascii numeral.chars, rest, by simp [← hnumeral],
      padded (.number wellFormed), hrest⟩

theorem recognizes_items {before : List Tree} (hlen : bs.length = n)
    (h : finish? ⟨.array before :: fs, .afterValue⟩ bs = some T) :
    ∃ (blank : List UInt8) (more : List (Tree × List UInt8)) (rest : List UInt8),
      IsBlank blank ∧ (∀ x ∈ more, Tree.Spelled x.1 x.2) ∧
      bs = blank ++ (more.flatMap fun x => ','.toUInt8 :: x.2) ++ ']'.toUInt8 :: rest ∧
      resume? (.array (before.reverse ++ more.map Prod.fst)) fs rest = some T := by
  obtain ⟨blank, b, rest, r, hblank, rfl, hb, hbetween, hr⟩ := exists_token rfl rfl h
  rw [List.length_append, List.length_cons] at hlen
  rcases between_item hb hbetween with ⟨rfl, rfl⟩ | ⟨rfl, hdeliver⟩
  · rcases exists_items ih (by omega) hr with ⟨⟨⟩, -⟩ | ⟨items, rest, hne, hitems, rfl, hrest⟩
    obtain ⟨x, items, rfl⟩ := List.exists_cons_of_ne_nil hne
    refine ⟨blank, x :: items, rest, hblank, hitems, ?_, hrest⟩
    rw [List.map_cons, intercalate_cons_eq, List.flatMap_map, List.flatMap_cons]
    simp
  · refine ⟨blank, [], rest, hblank, by simp, by simp, ?_⟩
    rw [List.map_nil, List.append_nil, resume?, hdeliver, Option.bind_some, hr]

theorem recognizes_members {before : List (Literal × Tree)} (hlen : bs.length = n)
    (h : finish? ⟨.object before :: fs, .afterValue⟩ bs = some T) :
    ∃ (blank : List UInt8) (more : List MemberText) (rest : List UInt8),
      IsBlank blank ∧ (∀ m ∈ more, m.Spelled) ∧
      bs = blank ++ (more.flatMap fun m => ','.toUInt8 :: m.octets) ++ '}'.toUInt8 :: rest ∧
      resume? (.object (before.reverse ++ more.map MemberText.member)) fs rest = some T := by
  obtain ⟨blank, b, rest, r, hblank, rfl, hb, hbetween, hr⟩ := exists_token rfl rfl h
  rw [List.length_append, List.length_cons] at hlen
  rcases between_member hb hbetween with ⟨rfl, rfl⟩ | ⟨rfl, hdeliver⟩
  · rcases exists_members ih (by omega) hr with ⟨⟨⟩, -⟩ | ⟨members, rest, hne, hmembers, rfl, hrest⟩
    obtain ⟨m, members, rfl⟩ := List.exists_cons_of_ne_nil hne
    refine ⟨blank, m :: members, rest, hblank, hmembers, ?_, hrest⟩
    rw [List.map_cons, intercalate_cons_eq, List.flatMap_map, List.flatMap_cons]
    simp
  · refine ⟨blank, [], rest, hblank, by simp, by simp, ?_⟩
    rw [List.map_nil, List.append_nil, resume?, hdeliver, Option.bind_some, hr]

end

/-- All three call each other, each on a shorter text. -/
theorem recognizes (bs : List UInt8) : Recognizes bs := by
  induction hn : bs.length using Nat.strong_induction_on generalizing bs with
  | _ n ih =>
    have hshorter : ∀ cs : List UInt8, cs.length < n → Recognizes cs :=
      fun cs hcs => ih cs.length hcs cs rfl
    exact ⟨recognizes_value hshorter hn, recognizes_items hshorter hn,
      recognizes_members hshorter hn⟩

end Reader

namespace Tree

/-- What is read is JSON. -/
theorem spelled_of_parse? {bs : List UInt8} {t : Tree} (h : parse? bs = some t) :
    t.Spelled bs := by
  rw [parse?_eq] at h
  rcases (Reader.recognizes bs).value h with ⟨u, text, rest, rfl, spelled, hrest⟩ | ⟨⟨⟩, -⟩
  obtain ⟨r, hr, hresult⟩ := Option.bind_eq_some_iff.1 (show (Reader.run ⟨[], .done u⟩ rest).bind
    Reader.result? = some t from hrest)
  have hblank : IsBlank rest := Reader.isSpace_of_run_done hr
  rw [Reader.run_isBlank rfl hblank] at hr
  cases hr
  cases hresult
  exact .padded isBlank_nil spelled hblank

/-- The reader accepts exactly the texts of the grammar, and reads each as the tree it spells. -/
theorem parse?_eq_some_iff {bs : List UInt8} {t : Tree} : parse? bs = some t ↔ t.Spelled bs :=
  ⟨spelled_of_parse?, parse?_of_spelled⟩

end Tree
end LoadBench.Json
