import LoadBench.Binary64.Rounding
import Mathlib.Data.Int.Log
import Mathlib.Data.Rat.Floor
import Mathlib.Tactic.Linarith
import Mathlib.Tactic.Positivity
import Mathlib.Tactic.Ring

/-! The nearest magnitude depends on a quotient alone, and so on the value of a decimal alone. A
finite number is nearest to its own value. -/
namespace LoadBench

theorem le_roundEven (num den : Nat) : num / den ≤ roundEven num den := by
  unfold roundEven
  dsimp only
  split
  · exact le_rfl
  · split <;> omega

theorem roundEven_le (num den : Nat) : roundEven num den ≤ num / den + 1 := by
  unfold roundEven
  dsimp only
  split
  · omega
  · split <;> omega

theorem roundEven_eq_zero {num den : Nat} (h : 2 * num < den) : roundEven num den = 0 := by
  have hdiv : num / den = 0 := Nat.div_eq_of_lt (by omega)
  have hmod : num % den = num := Nat.mod_eq_of_lt (by omega)
  unfold roundEven
  rw [hdiv, hmod]
  exact if_pos h

theorem roundEven_mul_left {k : Nat} (num den : Nat) (hk : 0 < k) :
    roundEven (k * num) (k * den) = roundEven num den := by
  have hlt : 2 * (k * (num % den)) < k * den ↔ 2 * (num % den) < den := by
    rw [Nat.mul_left_comm]
    exact Nat.mul_lt_mul_left hk
  have hgt : k * den < 2 * (k * (num % den)) ↔ den < 2 * (num % den) := by
    rw [Nat.mul_left_comm]
    exact Nat.mul_lt_mul_left hk
  unfold roundEven
  rw [Nat.mul_div_mul_left _ _ hk, Nat.mul_mod_mul_left]
  simp only [hlt, hgt]

namespace Binary64

theorem two_zpow_mul_toNat (k : ℤ) : (2 : ℚ) ^ k * 2 ^ (-k).toNat = 2 ^ k.toNat := by
  rw [← zpow_natCast, ← zpow_natCast, ← zpow_add₀ (by norm_num)]
  congr 1
  omega

/-- The comparison with a power of two, without fractions. -/
theorem shiftLeft_le_iff {num den : Nat} (hd : 0 < den) (k : ℤ) :
    den <<< k.toNat ≤ num <<< (-k).toNat ↔ (2 : ℚ) ^ k ≤ (num : ℚ) / den := by
  have hdq : (0 : ℚ) < den := by exact_mod_cast hd
  have hp : (0 : ℚ) < 2 ^ (-k).toNat := by positivity
  rw [le_div_iff₀ hdq, ← mul_le_mul_iff_of_pos_right hp, mul_right_comm, two_zpow_mul_toNat,
    Nat.shiftLeft_eq, Nat.shiftLeft_eq, Nat.mul_comm den]
  exact_mod_cast Iff.rfl

theorem log_eq_of_bounds {r : ℚ} {z : ℤ} (hlo : (2 : ℚ) ^ z ≤ r) (hhi : r < (2 : ℚ) ^ (z + 1)) :
    Int.log 2 r = z := by
  have hr : 0 < r := lt_of_lt_of_le (zpow_pos (by norm_num) z) hlo
  have h1 := (Int.zpow_le_iff_le_log (by norm_num : 1 < 2) hr).1 (by exact_mod_cast hlo)
  have h2 := (Int.lt_zpow_iff_log_lt (by norm_num : 1 < 2) hr).1 (by exact_mod_cast hhi)
  omega

theorem binaryOrder_eq_log {num den : Nat} (hn : 0 < num) (hd : 0 < den) :
    binaryOrder num den = Int.log 2 ((num : ℚ) / den) := by
  have hdq : (0 : ℚ) < den := by exact_mod_cast hd
  have ha : (2 : ℚ) ^ num.log2 ≤ num := by exact_mod_cast Nat.log2_self_le hn.ne'
  have ha' : (num : ℚ) < 2 ^ (num.log2 + 1) := by exact_mod_cast Nat.lt_log2_self
  have hb : (2 : ℚ) ^ den.log2 ≤ den := by exact_mod_cast Nat.log2_self_le hd.ne'
  have hb' : (den : ℚ) < 2 ^ (den.log2 + 1) := by exact_mod_cast Nat.lt_log2_self
  -- the quotient lies between the powers of two around the difference of the logarithms
  have hlo : (2 : ℚ) ^ ((num.log2 : ℤ) - den.log2 - 1) ≤ num / den := by
    rw [le_div_iff₀ hdq, show (num.log2 : ℤ) - den.log2 - 1 = num.log2 - (den.log2 + 1 : ℕ) by
      push_cast; ring, zpow_sub₀ (by norm_num), zpow_natCast, zpow_natCast, div_mul_eq_mul_div,
      div_le_iff₀ (by positivity)]
    exact mul_le_mul ha hb'.le (by positivity) (by positivity)
  have hhi : (num : ℚ) / den < 2 ^ ((num.log2 : ℤ) - den.log2 + 1) := by
    rw [div_lt_iff₀ hdq, show (num.log2 : ℤ) - den.log2 + 1 = (num.log2 + 1 : ℕ) - den.log2 by
      push_cast; ring, zpow_sub₀ (by norm_num), zpow_natCast, zpow_natCast, div_mul_eq_mul_div,
      lt_div_iff₀ (by positivity)]
    exact mul_lt_mul ha' hb (by positivity) (by positivity)
  unfold binaryOrder
  dsimp only
  split
  · rename_i h
    exact (log_eq_of_bounds ((shiftLeft_le_iff hd _).1 h) hhi).symm
  · rename_i h
    rw [shiftLeft_le_iff hd, not_le] at h
    exact (log_eq_of_bounds hlo (by rwa [sub_add_cancel])).symm

theorem binaryOrder_mul_left {k num den : Nat} (hk : 0 < k) (hn : 0 < num) (hd : 0 < den) :
    binaryOrder (k * num) (k * den) = binaryOrder num den := by
  have hkq : (k : ℚ) ≠ 0 := by exact_mod_cast hk.ne'
  rw [binaryOrder_eq_log (Nat.mul_pos hk hn) (Nat.mul_pos hk hd), binaryOrder_eq_log hn hd,
    Nat.cast_mul, Nat.cast_mul, mul_div_mul_left _ _ hkq]

theorem nearestMagnitude_mul_left {k : Nat} (num : Nat) {den : Nat} (hk : 0 < k) (hd : 0 < den) :
    nearestMagnitude (k * num) (k * den) = nearestMagnitude num den := by
  by_cases hn : num = 0
  · rw [hn, Nat.mul_zero, nearestMagnitude, nearestMagnitude, if_pos rfl, if_pos rfl]
  · have hkn : k * num ≠ 0 := Nat.mul_ne_zero hk.ne' hn
    unfold nearestMagnitude
    rw [if_neg hn, if_neg hkn, binaryOrder_mul_left hk (Nat.pos_of_ne_zero hn) hd]
    dsimp only
    rw [Nat.shiftLeft_eq, Nat.shiftLeft_eq, Nat.mul_assoc, Nat.mul_assoc,
      roundEven_mul_left _ _ hk, ← Nat.shiftLeft_eq, ← Nat.shiftLeft_eq]

/-- Equal quotients have the same nearest magnitude. -/
theorem nearestMagnitude_congr {num den num' den' : Nat} (hd : 0 < den) (hd' : 0 < den')
    (h : num * den' = num' * den) : nearestMagnitude num den = nearestMagnitude num' den' := by
  rw [← nearestMagnitude_mul_left num hd' hd, ← nearestMagnitude_mul_left num' hd hd',
    Nat.mul_comm den' num, h, Nat.mul_comm num' den, Nat.mul_comm den' den]

theorem zpow_le_iff {num den : Nat} (hn : 0 < num) (hd : 0 < den) {z : ℤ} :
    (2 : ℚ) ^ z ≤ (num : ℚ) / den ↔ z ≤ binaryOrder num den := by
  have hr : (0 : ℚ) < (num : ℚ) / den := by positivity
  rw [binaryOrder_eq_log hn hd, ← Int.zpow_le_iff_le_log (by norm_num) hr]
  rfl

theorem lt_zpow_iff {num den : Nat} (hn : 0 < num) (hd : 0 < den) {z : ℤ} :
    (num : ℚ) / den < 2 ^ z ↔ binaryOrder num den < z := by
  rw [← not_le, zpow_le_iff hn hd, not_le]

/-- Quotients from `2 ^ 1024` on are too large. -/
theorem nearestMagnitude_overflow {num den k : Nat} (hd : 0 < den) (hk : 1024 ≤ k)
    (h : 2 ^ k * den ≤ num) : nearestMagnitude num den = infinityMagnitude := by
  have hn : 0 < num := lt_of_lt_of_le (Nat.mul_pos (Nat.two_pow_pos k) hd) h
  have hdq : (0 : ℚ) < den := by exact_mod_cast hd
  have hr : (2 : ℚ) ^ (k : ℤ) ≤ (num : ℚ) / den := by
    rw [zpow_natCast, le_div_iff₀ hdq]
    exact_mod_cast h
  have horder : 1024 ≤ binaryOrder num den := by
    have := (zpow_le_iff hn hd).1 hr
    omega
  have hself := (shiftLeft_le_iff hd _).2 ((zpow_le_iff hn hd).2 le_rfl)
  unfold nearestMagnitude
  rw [if_neg hn.ne']
  generalize binaryOrder num den = order at horder hself
  have hq : max (order - 52) (-1074) = order - 52 := by omega
  have hneg : (-(order - 52)).toNat = 0 := by omega
  have hneg' : (-order).toNat = 0 := by omega
  have hsplit : order.toNat = (order - 52).toNat + 52 := by omega
  rw [hneg', Nat.shiftLeft_zero, Nat.shiftLeft_eq, hsplit, Nat.pow_add, ← Nat.mul_assoc] at hself
  have hm : hiddenBit ≤ roundEven (num <<< (-(order - 52)).toNat) (den <<< (order - 52).toNat) := by
    refine le_trans ?_ (le_roundEven _ _)
    rw [hneg, Nat.shiftLeft_zero, Nat.shiftLeft_eq, Nat.le_div_iff_mul_le (by positivity),
      Nat.mul_comm]
    exact hself
  dsimp only
  rw [hq]
  have hquot : 2046 ≤ (order - 52 + 1074).toNat := by omega
  have hscale := Nat.mul_le_mul_right hiddenBit hquot
  refine Nat.min_eq_right (le_trans ?_ (Nat.add_le_add hscale hm))
  decide

/-- Quotients below `2 ^ -1075` are too small. -/
theorem nearestMagnitude_underflow {num den k : Nat} (hk : 1075 ≤ k) (h : num * 2 ^ k < den) :
    nearestMagnitude num den = 0 := by
  by_cases hn : num = 0
  · rw [nearestMagnitude, if_pos hn]
  have hn := Nat.pos_of_ne_zero hn
  have hd : 0 < den := by omega
  have hr : (num : ℚ) / den < 2 ^ (-(k : ℤ)) := by
    rw [← not_le, ← shiftLeft_le_iff hd, not_le, neg_neg, Int.toNat_natCast, Nat.shiftLeft_eq,
      show (-(k : ℤ)).toNat = 0 by omega, Nat.shiftLeft_zero]
    exact h
  have horder : binaryOrder num den < -1075 := by
    have := (lt_zpow_iff hn hd).1 hr
    omega
  have hq : max (binaryOrder num den - 52) (-1074) = -1074 := by omega
  have hm : roundEven (num <<< (-(-1074) : ℤ).toNat) (den <<< (-1074 : ℤ).toNat) = 0 := by
    have ha : (-(-1074) : ℤ).toNat + 1 ≤ k := by omega
    have hb : (-1074 : ℤ).toNat = 0 := by omega
    generalize (-(-1074) : ℤ).toNat = a at ha
    rw [hb, Nat.shiftLeft_zero, Nat.shiftLeft_eq]
    apply roundEven_eq_zero
    calc 2 * (num * 2 ^ a) = num * 2 ^ (a + 1) := by rw [Nat.pow_succ', Nat.mul_left_comm]
      _ ≤ num * 2 ^ k := Nat.mul_le_mul_left num (Nat.pow_le_pow_right (by decide) ha)
      _ < den := h
  unfold nearestMagnitude
  rw [if_neg hn.ne', hq]
  dsimp only
  rw [hm]
  rfl

/-- Quotients below `2 ^ 1023` are not too large. -/
theorem nearestMagnitude_lt {num den k : Nat} (hd : 0 < den) (hk : k ≤ 1023)
    (h : num < 2 ^ k * den) : nearestMagnitude num den < infinityMagnitude := by
  unfold nearestMagnitude
  by_cases hn : num = 0
  · rw [if_pos hn]
    decide
  have hn' := Nat.pos_of_ne_zero hn
  have hdq : (0 : ℚ) < den := by exact_mod_cast hd
  have hr : (num : ℚ) / den < 2 ^ (k : ℤ) := by
    rw [zpow_natCast, div_lt_iff₀ hdq]
    exact_mod_cast h
  have horder := (lt_zpow_iff hn' hd).1 hr
  rw [if_neg hn]
  dsimp only
  generalize hq : max (binaryOrder num den - 52) (-1074) = q
  have hself : (num : ℚ) / den < 2 ^ (q + 53) := (lt_zpow_iff hn' hd).2 (by omega)
  have hquot : num <<< (-q).toNat / (den <<< q.toNat) < 2 ^ 53 := by
    rw [Nat.shiftLeft_eq, Nat.shiftLeft_eq, Nat.div_lt_iff_lt_mul (by positivity)]
    rw [div_lt_iff₀ hdq, zpow_add₀ (by norm_num)] at hself
    have hcast : (num : ℚ) * 2 ^ (-q).toNat < 2 ^ 53 * (den * 2 ^ q.toNat) := by
      rw [← two_zpow_mul_toNat q]
      calc (num : ℚ) * 2 ^ (-q).toNat < 2 ^ q * 2 ^ (53 : ℤ) * den * 2 ^ (-q).toNat :=
            mul_lt_mul_of_pos_right hself (by positivity)
        _ = 2 ^ 53 * (den * (2 ^ q * 2 ^ (-q).toNat)) := by
            rw [show (2 : ℚ) ^ (53 : ℤ) = 2 ^ 53 from rfl]
            ring
    exact_mod_cast hcast
  have hm : roundEven (num <<< (-q).toNat) (den <<< q.toNat) ≤ 2 ^ 53 :=
    (roundEven_le _ _).trans (Nat.succ_le_of_lt hquot)
  have hscale : (q + 1074).toNat * hiddenBit ≤ 2044 * hiddenBit :=
    Nat.mul_le_mul_right _ (by omega)
  have hlimit : 2044 * hiddenBit + 2 ^ 53 < infinityMagnitude := by decide
  exact lt_of_le_of_lt (Nat.min_le_left _ _)
    (lt_of_le_of_lt (Nat.add_le_add hscale hm) hlimit)

theorem two_pow_le_ten_pow (n : Nat) : 2 ^ (3 * n) ≤ 10 ^ n := by
  rw [Nat.pow_mul]
  exact Nat.pow_le_pow_left (by decide) n

/-- The powers that are not computed do not matter. -/
theorem decimalMagnitude_eq (c : Nat) (e : Int) :
    decimalMagnitude c e = nearestMagnitude (c * 10 ^ e.toNat) (10 ^ (-e).toNat) := by
  have hden : 0 < 10 ^ (-e).toNat := Nat.pow_pos (by decide)
  unfold decimalMagnitude
  split_ifs with hc hlarge hsmall
  · rw [hc, Nat.zero_mul, nearestMagnitude, if_pos rfl]
  · have hneg : (-e).toNat = 0 := by omega
    have hk : 1024 ≤ 3 * e.toNat := by omega
    refine (nearestMagnitude_overflow hden hk ?_).symm
    rw [hneg, Nat.pow_zero, Nat.mul_one]
    exact (two_pow_le_ten_pow _).trans (Nat.le_mul_of_pos_left _ (Nat.pos_of_ne_zero hc))
  · have hpos : e.toNat = 0 := by omega
    have hk : 1075 ≤ 3 * (-e).toNat - (c.log2 + 1) := by omega
    refine (nearestMagnitude_underflow hk ?_).symm
    rw [hpos, Nat.pow_zero, Nat.mul_one]
    calc c * 2 ^ (3 * (-e).toNat - (c.log2 + 1))
        < 2 ^ (c.log2 + 1) * 2 ^ (3 * (-e).toNat - (c.log2 + 1)) :=
          Nat.mul_lt_mul_of_pos_right Nat.lt_log2_self (Nat.two_pow_pos _)
      _ = 2 ^ (3 * (-e).toNat) := by rw [← Nat.pow_add, Nat.add_sub_cancel' (by omega)]
      _ ≤ 10 ^ (-e).toNat := two_pow_le_ten_pow _
  · rfl

theorem ten_zpow_mul_toNat (e : ℤ) : (10 : ℚ) ^ e * 10 ^ (-e).toNat = 10 ^ e.toNat := by
  rw [← zpow_natCast, ← zpow_natCast, ← zpow_add₀ (by norm_num)]
  congr 1
  omega

/-- Decimals of the same value have the same nearest magnitude. -/
theorem decimalMagnitude_congr {c c' : Nat} {e e' : Int}
    (h : (c : ℚ) * 10 ^ e = c' * 10 ^ e') : decimalMagnitude c e = decimalMagnitude c' e' := by
  rw [decimalMagnitude_eq, decimalMagnitude_eq]
  apply nearestMagnitude_congr (Nat.pow_pos (by decide)) (Nat.pow_pos (by decide))
  have hcast : (c : ℚ) * 10 ^ e.toNat * 10 ^ (-e').toNat =
      c' * 10 ^ e'.toNat * 10 ^ (-e).toNat := by
    rw [← ten_zpow_mul_toNat e, ← ten_zpow_mul_toNat e', ← mul_assoc, ← mul_assoc, h]
    ring
  exact_mod_cast hcast

/-! ### Finite numbers -/

variable {x : Binary64}

theorem ratio_pos (x : Binary64) : 0 < x.ratio.2 := by
  rw [ratio, Nat.one_shiftLeft]
  exact Nat.two_pow_pos _

theorem ratio_num_pos (h : x.magnitude ≠ 0) : 0 < x.ratio.1 := by
  have hs : 0 < x.significand := by
    unfold significand hiddenBit
    split <;> omega
  rw [ratio, Nat.shiftLeft_eq]
  exact Nat.mul_pos hs (Nat.two_pow_pos _)

theorem ratio_eq (x : Binary64) :
    (x.ratio.1 : ℚ) / x.ratio.2 = x.significand * 2 ^ x.exponent := by
  have hd : (0 : ℚ) < 2 ^ (-x.exponent).toNat := by positivity
  rw [ratio, Nat.one_shiftLeft, Nat.shiftLeft_eq, Nat.cast_mul, Nat.cast_pow, Nat.cast_pow,
    Nat.cast_ofNat, div_eq_iff hd.ne', mul_assoc, two_zpow_mul_toNat]

/-- The binary order of a finite number is that of its significand, up to the scale of the
smallest numbers. -/
theorem quantum_exponent (h : x.magnitude ≠ 0) :
    max (binaryOrder x.ratio.1 x.ratio.2 - 52) (-1074) = x.exponent := by
  have hn := ratio_num_pos h
  have hp : (0 : ℚ) < 2 ^ x.exponent := zpow_pos (by norm_num) _
  have hlt : binaryOrder x.ratio.1 x.ratio.2 < x.exponent + 53 := by
    have hs : x.significand < 2 ^ 53 := by
      unfold significand hiddenBit
      split <;> omega
    have hsq : (x.significand : ℚ) < 2 ^ (53 : ℤ) := by exact_mod_cast hs
    rw [← lt_zpow_iff hn (ratio_pos x), ratio_eq, add_comm, zpow_add₀ (by norm_num)]
    exact mul_lt_mul_of_pos_right hsq hp
  by_cases hm : x.magnitude < hiddenBit
  · have he : x.exponent = -1074 := by
      unfold exponent
      rw [Nat.div_eq_of_lt hm]
      rfl
    have hs : x.significand < 2 ^ 52 := by
      unfold significand
      rw [if_pos hm]
      exact hm
    have hsq : (x.significand : ℚ) < 2 ^ (52 : ℤ) := by exact_mod_cast hs
    have hlt : binaryOrder x.ratio.1 x.ratio.2 < x.exponent + 52 := by
      rw [← lt_zpow_iff hn (ratio_pos x), ratio_eq, add_comm, zpow_add₀ (by norm_num)]
      exact mul_lt_mul_of_pos_right hsq hp
    omega
  · have hs : 2 ^ 52 ≤ x.significand := by
      unfold significand
      rw [if_neg hm]
      exact Nat.le_add_right _ _
    have hsq : 2 ^ (52 : ℤ) ≤ (x.significand : ℚ) := by exact_mod_cast hs
    have hle : x.exponent + 52 ≤ binaryOrder x.ratio.1 x.ratio.2 := by
      rw [← zpow_le_iff hn (ratio_pos x), ratio_eq, add_comm, zpow_add₀ (by norm_num)]
      exact mul_le_mul_of_nonneg_right hsq hp.le
    have he : -1074 ≤ x.exponent := by
      unfold exponent
      omega
    omega

theorem exponent_mul_add (x : Binary64) :
    (x.exponent + 1074).toNat * hiddenBit + x.significand = x.magnitude := by
  unfold exponent significand
  have hdiv := Nat.div_add_mod x.magnitude hiddenBit
  by_cases hm : x.magnitude < hiddenBit
  · rw [if_pos hm, Nat.div_eq_of_lt hm]
    simp
  · rw [if_neg hm]
    have hone : 1 ≤ x.magnitude / hiddenBit := by
      rw [Nat.le_div_iff_mul_le (by decide)]
      omega
    have he : (((max (x.magnitude / hiddenBit) 1 : Nat) : Int) - 1075 + 1074).toNat =
        x.magnitude / hiddenBit - 1 := by omega
    rw [he, Nat.sub_mul, Nat.one_mul]
    have hle := Nat.mul_le_mul_right hiddenBit hone
    rw [Nat.mul_comm] at hdiv
    omega

/-- A finite number is the nearest one to its exact value. -/
theorem nearestMagnitude_ratio (h : x.isFinite = true) :
    nearestMagnitude x.ratio.1 x.ratio.2 = x.magnitude := by
  have hfinite : x.magnitude < infinityMagnitude := of_decide_eq_true h
  unfold nearestMagnitude
  by_cases hm : x.magnitude = 0
  · have hs : x.significand = 0 := by
      have := exponent_mul_add x
      omega
    rw [if_pos (by rw [ratio, hs, Nat.zero_shiftLeft]), hm]
  · rw [if_neg (ratio_num_pos hm).ne', quantum_exponent hm]
    have hround : roundEven (x.ratio.1 <<< (-x.exponent).toNat) (x.ratio.2 <<< x.exponent.toNat) =
        x.significand := by
      rw [ratio, Nat.shiftLeft_eq, Nat.shiftLeft_eq, Nat.shiftLeft_eq, Nat.shiftLeft_eq,
        Nat.one_mul, Nat.mul_assoc, Nat.mul_comm (2 ^ (-x.exponent).toNat)]
      exact roundEven_mul _ _ (by positivity)
    dsimp only
    rw [hround, exponent_mul_add]
    omega

/-- A number is given by its sign and its magnitude. -/
theorem ofMagnitude_magnitude (h : x.isFinite = true) : ofMagnitude x.signBit x.magnitude = x := by
  have hfinite : x.magnitude < infinityMagnitude := of_decide_eq_true h
  have hbits := x.bits.toNat_lt
  obtain ⟨bits⟩ := x
  unfold ofMagnitude
  rw [Nat.min_eq_left hfinite.le]
  congr 1
  apply UInt64.toNat_inj.1
  rw [UInt64.toNat_ofNat']
  by_cases hs : signMask ≤ bits.toNat
  · rw [signBit, decide_eq_true hs, if_pos rfl, magnitude, signMask]
    dsimp only [signMask] at hs hbits ⊢
    omega
  · rw [signBit, decide_eq_false hs, if_neg Bool.false_ne_true, magnitude, signMask]
    dsimp only [signMask] at hs hbits ⊢
    omega

theorem isFinite_ofMagnitude {negative : Bool} {m : Nat} (h : m < infinityMagnitude) :
    (ofMagnitude negative m).isFinite = true := by
  apply decide_eq_true
  unfold ofMagnitude magnitude
  rw [Nat.min_eq_left h.le, UInt64.toNat_ofNat']
  unfold infinityMagnitude at *
  cases negative <;> simp only [signMask, Bool.false_eq_true, if_true, if_false] <;> omega

/-- Integers of sixty-four bits are finite numbers. -/
theorem isFinite_ofInt {i : Int} (h : i.natAbs < 2 ^ 64) : (ofInt i).isFinite = true := by
  apply isFinite_ofMagnitude
  rw [decimalMagnitude_eq]
  apply nearestMagnitude_lt (Nat.pow_pos (by decide)) (show 64 ≤ 1023 by decide)
  simpa using h

end Binary64
end LoadBench
