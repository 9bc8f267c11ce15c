import LoadBench.Binary64.Notation
import LoadBench.Proofs.Binary64.Nearest
import LoadBench.Proofs.Json.Written

/-! The numeral of a finite number denotes a decimal that reads back as the number. -/
namespace LoadBench
namespace Digits

theorem value_cons (d : Digit) (ds : List Digit) :
    value (d :: ds) = d.val * 10 ^ ds.length + value ds := by
  simpa [value] using value_append [d] ds

@[simp] theorem value_replicate_zero (n : Nat) : value (List.replicate n .zero) = 0 := by
  induction n with
  | zero => rfl
  | succ n ih =>
    rw [List.replicate_succ, value_cons, ih]
    exact Nat.zero_mul _

theorem value_append_zeros (ds : List Digit) (n : Nat) :
    value (ds ++ List.replicate n .zero) = value ds * 10 ^ n := by
  rw [value_append, value_replicate_zero, List.length_replicate]
  rfl

theorem value_zeros_append (ds : List Digit) (n : Nat) :
    value (List.replicate n .zero ++ ds) = value ds := by
  rw [value_append, value_replicate_zero, Nat.zero_mul, Nat.zero_add]

theorem head_ofNat {n : Nat} (h : n ≠ 0) : ∃ d ds, ofNat n = d :: ds ∧ d ≠ .zero := by
  fun_induction ofNat n with
  | case1 n hn => exact ⟨⟨n, hn⟩, [], rfl, fun e => h (congrArg Fin.val e)⟩
  | case2 n hn ih =>
    obtain ⟨d, ds, hds, hd⟩ := ih (by omega)
    exact ⟨d, _, by rw [hds, List.cons_append], hd⟩

end Digits

namespace Scientific

/-- The number in scientific form. -/
def value (s : Scientific) : ℚ := Digits.value s.digits * 10 ^ (s.order + 1 - s.digits.length)

/-- The first digit is not zero, or the number is. -/
def Normal (s : Scientific) : Prop :=
  (s.digits = [.zero] ∧ s.order = 0) ∨ ∃ d ds, s.digits = d :: ds ∧ d ≠ .zero

theorem Normal.ne_nil {s : Scientific} (h : s.Normal) : s.digits ≠ [] := by
  rcases h with ⟨h, -⟩ | ⟨d, ds, h, -⟩ <;> rw [h] <;> simp

/-- Digits without the zeros at their end, which are counted. -/
theorem exists_trailing (ds : List Digit) :
    ∃ n, ds = (ds.reverse.dropWhile (· == .zero)).reverse ++ List.replicate n .zero := by
  have hsplit := congrArg List.reverse
    (List.takeWhile_append_dropWhile (p := (· == Digit.zero)) (l := ds.reverse))
  rw [List.reverse_append, List.reverse_reverse] at hsplit
  have hzeros : (ds.reverse.takeWhile (· == Digit.zero)).reverse =
      List.replicate (ds.reverse.takeWhile (· == Digit.zero)).length .zero := by
    refine List.eq_replicate_iff.2 ⟨List.length_reverse, fun d hd => ?_⟩
    have := List.all_eq_true.1 (List.all_takeWhile (p := (· == Digit.zero)) (l := ds.reverse)) d
      (List.mem_reverse.1 hd)
    simpa using this
  exact ⟨_, by rw [← hzeros, hsplit]⟩

theorem value_ofDecimal (c : Nat) (e : Int) : (ofDecimal c e).value = c * 10 ^ e := by
  obtain ⟨n, hn⟩ := exists_trailing (Digits.ofNat c)
  have hlen := congrArg List.length hn
  have hvalue := congrArg Digits.value hn
  rw [Digits.value_ofNat, Digits.value_append_zeros] at hvalue
  unfold ofDecimal value
  dsimp only
  generalize ((Digits.ofNat c).reverse.dropWhile (· == .zero)).reverse = kept at *
  rw [List.length_append, List.length_replicate] at hlen
  cases kept with
  | nil =>
    have hc : c = 0 := by simpa [Digits.value] using hvalue
    subst hc
    norm_num [Digits.value, Digit.zero]
  | cons d ds =>
    rw [List.isEmpty_cons, if_neg Bool.false_ne_true, hlen, hvalue, Nat.cast_mul, Nat.cast_pow,
      Nat.cast_ofNat, mul_assoc, ← zpow_natCast, ← zpow_add₀ (by norm_num)]
    congr 2
    push_cast
    ring

theorem normal_ofDecimal {c : Nat} (e : Int) (h : c ≠ 0) : (ofDecimal c e).Normal := by
  obtain ⟨n, hn⟩ := exists_trailing (Digits.ofNat c)
  obtain ⟨d, ds, hds, hd⟩ := Digits.head_ofNat h
  right
  unfold ofDecimal
  dsimp only
  generalize ((Digits.ofNat c).reverse.dropWhile (· == .zero)).reverse = kept at *
  cases kept with
  | nil =>
    cases n with
    | zero => exact absurd hn (Digits.ofNat_ne_nil c)
    | succ n =>
      rw [hds, List.nil_append, List.replicate_succ] at hn
      exact absurd (List.cons.inj hn).1 hd
  | cons d' ds' =>
    rw [hds, List.cons_append] at hn
    exact ⟨d', ds', rfl, (List.cons.inj hn).1 ▸ hd⟩

end Scientific

/-- The number that a numeral denotes, without its sign. -/
def Numeral.value (n : Numeral) : ℚ := n.coefficient * 10 ^ n.scale

theorem Numeral.value_of_plain (negative : Bool) (whole fraction : List Digit) :
    (⟨negative, whole, fraction, none⟩ : Numeral).value =
      Digits.value (whole ++ fraction) * 10 ^ (-(fraction.length : ℤ)) := by
  unfold value coefficient scale
  rw [zero_sub]

namespace Scientific

variable {s : Scientific}

theorem plain_of_neg (h : s.order < 0) :
    s.plain = ([.zero], List.replicate (-s.order - 1).toNat .zero ++ s.digits) := if_pos h

theorem plain_of_le (h : ¬s.order < 0) (hlong : s.digits.length ≤ s.order.toNat + 1) :
    s.plain = (s.digits ++ List.replicate (s.order.toNat + 1 - s.digits.length) .zero, []) := by
  unfold plain
  rw [if_neg h]
  dsimp only
  rw [List.take_of_length_le hlong, List.drop_of_length_le hlong]

theorem plain_of_lt (h : ¬s.order < 0) (hlong : s.order.toNat + 1 < s.digits.length) :
    s.plain = (s.digits.take (s.order.toNat + 1), s.digits.drop (s.order.toNat + 1)) := by
  have hnone : s.order.toNat + 1 - s.digits.length = 0 := by omega
  unfold plain
  rw [if_neg h]
  dsimp only
  rw [hnone, List.replicate_zero, List.append_nil]

theorem value_plain (s : Scientific) :
    (Digits.value (s.plain.1 ++ s.plain.2) : ℚ) * 10 ^ (-(s.plain.2.length : ℤ)) = s.value := by
  unfold value
  by_cases horder : s.order < 0
  · have hdigits : Digits.value ([Digit.zero] ++
        (List.replicate (-s.order - 1).toNat .zero ++ s.digits)) = Digits.value s.digits := by
      rw [← List.replicate_one, Digits.value_zeros_append, Digits.value_zeros_append]
    rw [plain_of_neg horder, hdigits, List.length_append, List.length_replicate]
    congr 2
    omega
  · by_cases hlong : s.digits.length ≤ s.order.toNat + 1
    · rw [plain_of_le horder hlong, List.append_nil, Digits.value_append_zeros, Nat.cast_mul,
        Nat.cast_pow, Nat.cast_ofNat, ← zpow_natCast, List.length_nil, Nat.cast_zero, neg_zero,
        zpow_zero, mul_one]
      congr 2
      omega
    · rw [plain_of_lt horder (by omega), List.take_append_drop, List.length_drop]
      congr 2
      omega

/-- The layout does not change the number. -/
theorem value_numeral (style : NumeralStyle) (negative : Bool) (h : s.digits ≠ []) :
    (s.numeral style negative).value = s.value := by
  have hlen : 1 ≤ s.digits.length := List.length_pos_iff.2 h
  unfold numeral
  by_cases hstyle : style.isPlain s.order = true
  · rw [if_pos hstyle]
    dsimp only
    rw [Numeral.value_of_plain, ← value_plain s]
    by_cases hzero : (s.plain.2.isEmpty && style.pointZero) = true
    · rw [if_pos hzero]
      have hnil : s.plain.2 = [] := List.isEmpty_iff.1 (Bool.and_eq_true_iff.1 hzero).1
      have hpad : [Digit.zero] = List.replicate 1 .zero := rfl
      rw [hnil, List.append_nil, hpad, Digits.value_append_zeros, Nat.cast_mul]
      norm_num [mul_assoc]
    · rw [if_neg hzero]
  · have hscale : (s.numeral style negative).scale = s.order + 1 - s.digits.length := by
      unfold numeral Numeral.scale
      rw [if_neg hstyle]
      have habs := Digits.value_ofNat s.order.natAbs
      by_cases horder : s.order < 0
      · rw [if_pos horder]
        dsimp only
        rw [habs, List.length_drop]
        omega
      · rw [if_neg horder]
        cases style.plusSign <;>
          (show ((Digits.value (Digits.ofNat s.order.natAbs) : Nat) : Int) - _ = _
           rw [habs, List.length_drop]
           omega)
    unfold numeral at hscale
    rw [if_neg hstyle] at hscale ⊢
    unfold Numeral.value value
    rw [hscale, Numeral.coefficient, List.take_append_drop]

theorem wellFormed_numeral (style : NumeralStyle) (negative : Bool) (h : s.Normal) :
    (s.numeral style negative).WellFormed := by
  unfold numeral
  by_cases hstyle : style.isPlain s.order = true
  · rw [if_pos hstyle]
    refine ⟨?_, fun _ _ _ he => nomatch he⟩
    show s.plain.1 = _ ∨ ∃ d ds, s.plain.1 = _ ∧ _
    by_cases horder : s.order < 0
    · exact .inl (congrArg Prod.fst (plain_of_neg horder))
    rcases h with ⟨hzero, ho⟩ | ⟨d, ds, hds, hd⟩
    · left
      rw [plain_of_le horder (by rw [hzero]; simp), hzero, ho]
      rfl
    · right
      unfold plain
      rw [if_neg horder, hds]
      exact ⟨d, _, rfl, hd⟩
  · rw [if_neg hstyle]
    constructor
    · show s.digits.take 1 = _ ∨ ∃ d ds, s.digits.take 1 = _ ∧ _
      rcases h with ⟨hzero, -⟩ | ⟨d, ds, hds, hd⟩
      · exact .inl (by rw [hzero]; rfl)
      · exact .inr ⟨d, [], by rw [hds]; rfl, hd⟩
    · intro upper sign ds he
      obtain rfl : _ = ds := congrArg (fun p => p.2.2) (Option.some.inj he)
      exact Digits.ofNat_ne_nil _

end Scientific

namespace Binary64

variable {x : Binary64}

theorem decimalMagnitude_exactDecimal (h : x.isFinite = true) :
    decimalMagnitude x.exactDecimal.1 x.exactDecimal.2 = x.magnitude := by
  have hden : x.ratio.2 = 2 ^ x.ratio.2.log2 := by
    rw [ratio, Nat.one_shiftLeft, Nat.log2_two_pow]
  rw [← nearestMagnitude_ratio h, decimalMagnitude_eq]
  apply nearestMagnitude_congr (Nat.pow_pos (by decide)) (ratio_pos x)
  unfold exactDecimal
  dsimp only
  generalize x.ratio.1 = num
  generalize x.ratio.2 = den at hden
  generalize den.log2 = k at hden
  have hpos : (-(k : ℤ)).toNat = 0 := by omega
  rw [hden, hpos, neg_neg, Int.toNat_natCast, Nat.pow_zero, Nat.mul_one, Nat.mul_assoc,
    Nat.pow_eq, ← Nat.mul_pow]

/-- The shortest decimal reads back. -/
theorem decimalMagnitude_shortest (tie : TieRule) (h : x.isFinite = true) :
    decimalMagnitude (x.shortest tie).1 (x.shortest tie).2 = x.magnitude := by
  unfold shortest
  by_cases hz : x.isZero = true
  · rw [if_pos hz]
    exact (beq_iff_eq.1 hz).symm
  · rw [if_neg hz]
    dsimp only
    generalize decimalOrder x.ratio.1 x.ratio.2 = order
    cases hfound : (List.range 17).findSome? fun (n : Nat) =>
        (x.readsBackOn tie (order - n)).map fun c => (c, order - (n : Int)) with
    | none => exact decimalMagnitude_exactDecimal h
    | some p =>
      obtain ⟨n, -, hn⟩ := List.exists_of_findSome?_eq_some hfound
      obtain ⟨c, hc, rfl⟩ := Option.map_eq_some_iff.1 hn
      exact readsBackOn_eq_some hc

theorem normal_shortest (tie : TieRule) (h : x.isFinite = true) :
    (Scientific.ofDecimal (x.shortest tie).1 (x.shortest tie).2).Normal := by
  by_cases hz : x.isZero = true
  · have hs : x.shortest tie = (0, 0) := if_pos hz
    have hdigits : Digits.ofNat 0 = [.zero] := by
      rw [Digits.ofNat]
      rfl
    rw [hs]
    unfold Scientific.ofDecimal
    rw [hdigits]
    exact .inl ⟨rfl, rfl⟩
  · refine Scientific.normal_ofDecimal _ fun hc => hz (beq_iff_eq.2 ?_)
    rw [← decimalMagnitude_shortest tie h, hc, decimalMagnitude, if_pos rfl]

theorem numeral_eq (style : NumeralStyle) (x : Binary64) :
    x.numeral style = (Scientific.ofDecimal (x.shortest style.tie).1
      (x.shortest style.tie).2).numeral style x.signBit := rfl

/-- Writing a finite number and reading the numeral gives the number. -/
theorem toBinary64_numeral (style : NumeralStyle) (h : x.isFinite = true) :
    (x.numeral style).toBinary64 = x := by
  have hnormal := normal_shortest style.tie h
  have hvalue := Scientific.value_numeral style x.signBit hnormal.ne_nil
  rw [Scientific.value_ofDecimal, ← numeral_eq] at hvalue
  have hsign : (x.numeral style).negative = x.signBit := by
    unfold numeral Scientific.numeral
    dsimp only
    split <;> rfl
  unfold Numeral.toBinary64 ofDecimal
  rw [hsign, decimalMagnitude_congr hvalue, decimalMagnitude_shortest style.tie h,
    ofMagnitude_magnitude h]

theorem wellFormed_numeral (style : NumeralStyle) (h : x.isFinite = true) :
    (x.numeral style).WellFormed :=
  Scientific.wellFormed_numeral style x.signBit (normal_shortest style.tie h)

end Binary64
end LoadBench
