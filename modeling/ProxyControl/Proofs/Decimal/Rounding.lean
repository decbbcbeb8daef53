import Mathlib.Algebra.Order.Field.Power
import Mathlib.Data.Rat.Cast.Order
import Mathlib.Tactic.FieldSimp
import Mathlib.Tactic.Positivity
import ProxyControl.Decimal.WordDecimal

/-!
# Bounds and exactness of rounding

A positive quotient is rounded on multiples of a power of two of which it has less than
2 ^ 53, so the number that it is rounded to is at most twice as large.  An integer has at
least 2 ^ 52 of them, and below 2 ^ 53 it is one of them, so that small integers are kept
apart from all others.

Main results:

- Theorem `exponentField_ofRatio_le`: a number is not much larger than the quotient that it
  is rounded from.
- Theorem `exponentField_div_le`: the same for a quotient of two numbers.
- Theorem `exists_ofInt_eq`: the number nearest to an integer.
- Theorem `eq_of_numEq_ofInt`: no other integer is rounded to the number of an integer below
  2 ^ 53.
-/

namespace ProxyControl
namespace Binary64

/-! ## Scaled quotients -/

/-- Scaling divides a quotient by the power of two. -/
theorem scaleDown_ratio (num den : Nat) (e : Int) :
    ((scaleDown num den e).1 : ℚ) / (scaleDown num den e).2 = num / den / 2 ^ e := by
  obtain ⟨k, rfl | rfl⟩ := e.eq_nat_or_neg
  · simp [scaleDown, div_div]
  · have hzero : (-(k : Int)).toNat = 0 := by omega
    simp [scaleDown, hzero, mul_div_right_comm]

/-- Scaling keeps the denominator positive. -/
theorem scaleDown_den_pos {den : Nat} (h : 0 < den) (num : Nat) (e : Int) :
    0 < (scaleDown num den e).2 :=
  Nat.mul_pos h (Nat.pow_pos (by decide))

/-- To compare a quotient with a number, the denominator can be multiplied out. -/
theorem lt_mul_iff_ratio_lt {n d : Nat} (hd : 0 < d) (bound : Nat) :
    n < bound * d ↔ (n : ℚ) / d < bound := by
  have hpos : (0 : ℚ) < d := by exact_mod_cast hd
  rw [div_lt_iff₀ hpos]
  exact_mod_cast Iff.rfl

/-- The same where the quotient may be equal to the bound. -/
theorem le_mul_iff_ratio_le {n d : Nat} (hd : 0 < d) (bound : Nat) :
    n ≤ bound * d ↔ (n : ℚ) / d ≤ bound := by
  have hpos : (0 : ℚ) < d := by exact_mod_cast hd
  rw [div_le_iff₀ hpos]
  exact_mod_cast Iff.rfl

/-- The same for a bound from below. -/
theorem mul_le_iff_le_ratio {n d : Nat} (hd : 0 < d) (bound : Nat) :
    bound * d ≤ n ↔ (bound : ℚ) ≤ n / d := by
  have hpos : (0 : ℚ) < d := by exact_mod_cast hd
  rw [le_div_iff₀ hpos]
  exact_mod_cast Iff.rfl

/-- The bits of a positive number bound it from both sides. -/
theorem zpow_log2_le {n : Nat} (h : 0 < n) : (2 : ℚ) ^ (n.log2 : Int) ≤ n := by
  have hlow := Nat.log2_self_le (Nat.pos_iff_ne_zero.1 h)
  rw [zpow_natCast]
  exact_mod_cast hlow

/-- The bits of a number bound it from above, also if it is zero. -/
theorem lt_zpow_log2 (n : Nat) : (n : ℚ) < 2 ^ ((n.log2 : Int) + 1) := by
  have hhigh : n < 2 ^ (n.log2 + 1) := Nat.lt_log2_self
  have hcast : (2 : ℚ) ^ ((n.log2 : Int) + 1) = 2 ^ (n.log2 + 1) := by
    rw [← zpow_natCast, Nat.cast_add, Nat.cast_one]
  rw [hcast]
  exact_mod_cast hhigh

/-- A quotient is less than the power of two that the bits of its parts give. -/
theorem ratio_lt {num den : Nat} (hden : 0 < den) :
    (num : ℚ) / den < 2 ^ ((num.log2 : Int) - den.log2 + 1) := by
  have hpos : (0 : ℚ) < den := by exact_mod_cast hden
  have hlow := zpow_log2_le hden
  have htwo : (0 : ℚ) < 2 ^ ((num.log2 : Int) - den.log2 + 1) := by positivity
  rw [div_lt_iff₀ hpos]
  calc (num : ℚ) < 2 ^ ((num.log2 : Int) + 1) := lt_zpow_log2 num
    _ = 2 ^ ((num.log2 : Int) - den.log2 + 1) * 2 ^ (den.log2 : Int) := by
        rw [← zpow_add₀ (by norm_num)]
        congr 1
        omega
    _ ≤ 2 ^ ((num.log2 : Int) - den.log2 + 1) * den := by
        exact mul_le_mul_of_nonneg_left hlow htwo.le

/-! ## Rounding to an integer -/

/-- Rounding never goes below the whole part of a quotient. -/
theorem le_roundHalfEven (n d : Nat) : n / d ≤ roundHalfEven n d := by
  unfold roundHalfEven
  simp only
  split
  · exact Nat.le_refl _
  · split <;> omega

/-- A quotient below a number is rounded to that number at most. -/
theorem roundHalfEven_le {n d bound : Nat} (h : n < bound * d) : roundHalfEven n d ≤ bound := by
  have hquotient : n / d < bound := Nat.div_lt_of_lt_mul (by rwa [Nat.mul_comm] at h)
  unfold roundHalfEven
  simp only
  split
  · omega
  · split <;> omega

/-- A whole number is rounded to itself. -/
@[simp]
theorem roundHalfEven_one (n : Nat) : roundHalfEven n 1 = n := by
  simp [roundHalfEven, Nat.mod_one]

/-! ## The rounding exponent -/

/-- The rounding exponent lies not far below the leading bit of the quotient. -/
theorem roundingExponent_le (num den : Nat) :
    roundingExponent num den ≤ max ((num.log2 : Int) - den.log2 - 52) (-1074) := by
  unfold roundingExponent
  simp only
  split <;> omega

/-- The quotient has less than 2 ^ 53 of the multiples on which it is rounded. -/
theorem scaleDown_roundingExponent_lt {den : Nat} (hden : 0 < den) (num : Nat) :
    (scaleDown num den (roundingExponent num den)).1 <
      2 ^ 53 * (scaleDown num den (roundingExponent num den)).2 := by
  have hnonneg : (0 : ℚ) ≤ (num : ℚ) / den := by positivity
  suffices h : ∃ e ≤ roundingExponent num den, (num : ℚ) / den / 2 ^ e < (2 ^ 53 : Nat) by
    obtain ⟨e, hle, hlt⟩ := h
    rw [lt_mul_iff_ratio_lt (scaleDown_den_pos hden num _), scaleDown_ratio]
    have hpos : (0 : ℚ) < 2 ^ e := by positivity
    have hpow : (2 : ℚ) ^ e ≤ 2 ^ roundingExponent num den := zpow_le_zpow_right₀ (by norm_num) hle
    exact lt_of_le_of_lt (div_le_div_of_nonneg_left hnonneg hpos hpow) hlt
  unfold roundingExponent
  simp only
  split
  case isTrue h =>
    refine ⟨_, le_max_left _ _, ?_⟩
    rw [← scaleDown_ratio, ← lt_mul_iff_ratio_lt (scaleDown_den_pos hden num _)]
    exact (Nat.div_lt_iff_lt_mul (scaleDown_den_pos hden num _)).1 h
  case isFalse =>
    refine ⟨_, le_max_left _ _, ?_⟩
    have hpos : (0 : ℚ) < 2 ^ ((num.log2 : Int) - den.log2 - 53 + 1) := by positivity
    rw [div_lt_iff₀ hpos]
    calc (num : ℚ) / den < 2 ^ ((num.log2 : Int) - den.log2 + 1) := ratio_lt hden
      _ = (2 ^ 53 : Nat) * 2 ^ ((num.log2 : Int) - den.log2 - 53 + 1) := by
          have hcast : ((2 ^ 53 : Nat) : ℚ) = 2 ^ (53 : Int) := by norm_num
          rw [hcast, ← zpow_add₀ (by norm_num)]
          congr 1
          omega

/-! ## Fields of a magnitude -/

/-- The bits of a number are its sign and its magnitude, which is that of infinity at most. -/
theorem toNat_bits_ofMagnitude (negative : Bool) (magnitude : Nat) :
    (ofMagnitude negative magnitude).bits.toNat =
      (if negative then IntegerRange.signedBound else 0) + min magnitude infinityBits := by
  have hinfinity : infinityBits < 2 ^ 63 := by decide
  have hsigned : IntegerRange.signedBound = 2 ^ 63 := by decide
  rw [ofMagnitude]
  apply Nat.mod_eq_of_lt
  split <;> omega

/-- The sign is no part of the exponent. -/
theorem exponentField_ofMagnitude (negative : Bool) (magnitude : Nat) :
    (ofMagnitude negative magnitude).exponentField = min magnitude infinityBits / 2 ^ 52 := by
  have hinfinity : infinityBits = 2047 * 2 ^ 52 := rfl
  have hsigned : IntegerRange.signedBound = 2 ^ 63 := by decide
  have hpow : Nat.pow 2 52 = 2 ^ 52 := rfl
  rw [exponentField, toNat_bits_ofMagnitude, hpow]
  split <;> omega

/-- The bits of a magnitude below the infinite one tell the sign and the magnitude. -/
theorem ofMagnitude_inj {negative negative' : Bool} {magnitude magnitude' : Nat}
    (hfinite : magnitude < infinityBits)
    (h : ofMagnitude negative magnitude = ofMagnitude negative' magnitude') :
    negative = negative' ∧ magnitude = magnitude' := by
  have hinfinity : infinityBits < 2 ^ 63 := by decide
  have hsigned : IntegerRange.signedBound = 2 ^ 63 := by decide
  have hbits := congrArg (fun x => x.bits.toNat) h
  simp only [toNat_bits_ofMagnitude] at hbits
  cases negative <;> cases negative' <;> simp at hbits ⊢ <;> omega

/-! ## Bounds -/

/-- A quotient of at most a power of two is rounded to a number that is at most twice as
large. -/
theorem exponentField_ofRatio_le {num den k : Nat} (hden : 0 < den) (h : num ≤ 2 ^ k * den)
    (negative : Bool) : (ofRatio negative num den).exponentField ≤ k + 1024 := by
  unfold ofRatio
  split
  · simp [exponentField_ofMagnitude]
  · rename_i hnum
    have hlog : num.log2 ≤ k + den.log2 := by
      have hlt : num < 2 ^ (k + den.log2 + 1) := by
        calc num ≤ 2 ^ k * den := h
          _ < 2 ^ k * 2 ^ (den.log2 + 1) :=
              Nat.mul_lt_mul_of_pos_left Nat.lt_log2_self (Nat.pow_pos (by decide))
          _ = 2 ^ (k + den.log2 + 1) := by rw [← Nat.pow_add, Nat.add_assoc]
      exact Nat.le_of_lt_succ ((Nat.log2_lt hnum).2 hlt)
    have hexponent : (roundingExponent num den + 1074).toNat ≤ k + 1022 := by
      have hle := roundingExponent_le num den
      omega
    have hround := roundHalfEven_le (scaleDown_roundingExponent_lt hden num)
    rw [exponentField_ofMagnitude]
    refine Nat.le_trans (Nat.div_le_div_right (Nat.min_le_left _ _)) ?_
    refine Nat.le_of_lt_succ (Nat.div_lt_of_lt_mul ?_)
    calc _ ≤ (k + 1022) * 2 ^ 52 + 2 ^ 53 :=
          Nat.add_le_add (Nat.mul_le_mul_right _ hexponent) hround
      _ < 2 ^ 52 * (k + 1024).succ := by omega

/-- Numbers whose exponent is not the largest one are finite. -/
theorem isFinite_of_exponentField_le {x : Binary64} {k : Nat} (h : x.exponentField ≤ k + 1024)
    (hk : k < 1023) : x.isFinite = true := by
  rw [isFinite, bne_iff_ne]
  omega

/-- A significand has 53 bits. -/
theorem significand_lt (x : Binary64) : x.significand < 2 ^ 53 := by
  have hfraction : x.fraction < 2 ^ 52 := Nat.mod_lt _ (Nat.pow_pos (by decide))
  have hpow : Nat.pow 2 52 = 2 ^ 52 := rfl
  rw [significand, hpow]
  split <;> omega

/-- The exponent bounds the value of a number. -/
theorem value_le {x : Binary64} {k : Nat} (h : x.exponentField ≤ k + 1024) :
    (x.significand : ℚ) * 2 ^ x.exponent ≤ (2 ^ (k + 2) : Nat) := by
  have hsignificand : (x.significand : ℚ) ≤ 2 ^ (53 : Int) := by
    have hlt := significand_lt x
    exact_mod_cast hlt.le
  have hexponent : x.exponent ≤ (k : Int) - 51 := by
    rw [exponent]
    omega
  calc (x.significand : ℚ) * 2 ^ x.exponent ≤ 2 ^ (53 : Int) * 2 ^ ((k : Int) - 51) :=
        mul_le_mul hsignificand (zpow_le_zpow_right₀ (by norm_num) hexponent) (by positivity)
          (by positivity)
    _ = (2 ^ (k + 2) : Nat) := by
        rw [← zpow_add₀ (by norm_num), Nat.cast_pow, Nat.cast_ofNat, ← zpow_natCast]
        congr 1
        omega

/-- Dividing by a number that is not less than one does not make a number much larger. -/
theorem exponentField_div_le {x y : Binary64} {k : Nat} (hx : x.exponentField ≤ k + 1024)
    (hy : (1 : ℚ) ≤ y.significand * 2 ^ y.exponent) :
    (x.div y).exponentField ≤ k + 2 + 1024 := by
  have hpos : (0 : ℚ) < y.significand * 2 ^ y.exponent := lt_of_lt_of_le one_pos hy
  have hden : 0 < y.significand := by
    refine Nat.pos_of_ne_zero fun hzero => ?_
    simp [hzero] at hpos
  have hscaled := scaleDown_den_pos hden x.significand (-(x.exponent - y.exponent))
  have hvalue : (x.significand : ℚ) / y.significand / 2 ^ (-(x.exponent - y.exponent)) =
      x.significand * 2 ^ x.exponent / (y.significand * 2 ^ y.exponent) := by
    rw [neg_sub, zpow_sub₀ (by norm_num)]
    field_simp
  have hbound : (scaleDown x.significand y.significand (-(x.exponent - y.exponent))).1 ≤
      2 ^ (k + 2) * (scaleDown x.significand y.significand (-(x.exponent - y.exponent))).2 := by
    rw [le_mul_iff_ratio_le hscaled, scaleDown_ratio, hvalue]
    exact le_trans (div_le_self (by positivity) hy) (value_le hx)
  exact exponentField_ofRatio_le hscaled hbound _

/-- No power of ten is rounded to less than one. -/
theorem one_le_powerOfTen {n : Nat} (h : n ≤ 308) :
    (1 : ℚ) ≤ (powerOfTen n).significand * 2 ^ (powerOfTen n).exponent := by
  have hfields : ∀ m < 309,
      2 ^ 52 ≤ (powerOfTen m).significand ∧ -52 ≤ (powerOfTen m).exponent := by decide +kernel
  obtain ⟨hsignificand, hexponent⟩ := hfields n (Nat.lt_succ_of_le h)
  have hcast : (2 : ℚ) ^ (52 : Int) ≤ (powerOfTen n).significand := by exact_mod_cast hsignificand
  calc (1 : ℚ) = 2 ^ (52 : Int) * 2 ^ (-52 : Int) := by rw [← zpow_add₀ (by norm_num)]; norm_num
    _ ≤ (powerOfTen n).significand * 2 ^ (powerOfTen n).exponent :=
        mul_le_mul hcast (zpow_le_zpow_right₀ (by norm_num) hexponent) (by positivity)
          (Nat.cast_nonneg _)

/-- Changing the sign leaves the exponent as it is. -/
@[simp]
theorem exponentField_negate (x : Binary64) : x.negate.exponentField = x.exponentField := by
  have hsign : (UInt64.ofNat IntegerRange.signedBound).toNat / 2 ^ 52 % 2048 = 0 := by decide
  have hpow : Nat.pow 2 52 = 2 ^ 52 := rfl
  rw [exponentField, exponentField, negate, hpow, UInt64.toNat_xor, Nat.xor_div_two_pow,
    show 2048 = 2 ^ 11 from rfl, Nat.xor_mod_two_pow]
  rw [show 2048 = 2 ^ 11 from rfl] at hsign
  rw [hsign, Nat.xor_zero]

/-! ## Integers -/

/-- Rounding an integer keeps its leading bit where it is. -/
theorem roundingExponent_one {n : Nat} (h : 0 < n) :
    roundingExponent n 1 = (n.log2 : Int) - 52 := by
  have hlog : Nat.log2 1 = 0 := by decide
  have hscaled := scaleDown_den_pos Nat.one_pos n ((n.log2 : Int) - 0 - 53)
  have hlarge : ¬ (scaleDown n 1 ((n.log2 : Int) - 0 - 53)).1 /
      (scaleDown n 1 ((n.log2 : Int) - 0 - 53)).2 < 2 ^ 53 := by
    rw [Nat.not_lt, Nat.le_div_iff_mul_le hscaled, mul_le_iff_le_ratio hscaled, scaleDown_ratio,
      Nat.cast_one, div_one, le_div_iff₀ (by positivity)]
    calc ((2 ^ 53 : Nat) : ℚ) * 2 ^ ((n.log2 : Int) - 0 - 53) = 2 ^ (n.log2 : Int) := by
          have hcast : ((2 ^ 53 : Nat) : ℚ) = 2 ^ (53 : Int) := by norm_num
          rw [hcast, ← zpow_add₀ (by norm_num)]
          congr 1
          omega
      _ ≤ n := zpow_log2_le h
  unfold roundingExponent
  rw [hlog]
  simp only [Nat.pow_eq, Nat.cast_zero]
  rw [if_neg hlarge]
  omega

/-- The number nearest to an integer that is not zero. -/
theorem exists_ofInt_eq {n : Int} (h : n ≠ 0) :
    ∃ r, ofInt n = ofMagnitude (decide (n < 0)) ((n.natAbs.log2 + 1022) * 2 ^ 52 + r) ∧
      2 ^ 52 ≤ r ∧ r ≤ 2 ^ 53 ∧
      (n.natAbs < 2 ^ 53 → r = n.natAbs * 2 ^ (52 - n.natAbs.log2)) := by
  have hpos : 0 < n.natAbs := Int.natAbs_pos.2 h
  have hexponent := roundingExponent_one hpos
  have hscaled := scaleDown_den_pos Nat.one_pos n.natAbs ((n.natAbs.log2 : Int) - 52)
  have hlt := scaleDown_roundingExponent_lt Nat.one_pos n.natAbs
  rw [hexponent] at hlt
  refine ⟨_, ?_, ?_, roundHalfEven_le hlt, ?_⟩
  · have hfield : ((n.natAbs.log2 : Int) - 52 + 1074).toNat = n.natAbs.log2 + 1022 := by omega
    rw [ofInt, ofRatio, if_neg (Nat.pos_iff_ne_zero.1 hpos), hexponent]
    simp only [hfield]
    rfl
  · refine Nat.le_trans ?_ (le_roundHalfEven _ _)
    rw [Nat.le_div_iff_mul_le hscaled, mul_le_iff_le_ratio hscaled, scaleDown_ratio,
      Nat.cast_one, div_one, le_div_iff₀ (by positivity)]
    calc ((2 ^ 52 : Nat) : ℚ) * 2 ^ ((n.natAbs.log2 : Int) - 52) = 2 ^ (n.natAbs.log2 : Int) := by
          have hcast : ((2 ^ 52 : Nat) : ℚ) = 2 ^ (52 : Int) := by norm_num
          rw [hcast, ← zpow_add₀ (by norm_num)]
          congr 1
          omega
      _ ≤ n.natAbs := zpow_log2_le hpos
  · intro hsmall
    have hlog : n.natAbs.log2 < 53 := (Nat.log2_lt (Nat.pos_iff_ne_zero.1 hpos)).2 hsmall
    have hup : (-((n.natAbs.log2 : Int) - 52)).toNat = 52 - n.natAbs.log2 := by omega
    have hdown : ((n.natAbs.log2 : Int) - 52).toNat = 0 := by omega
    rw [scaleDown, hup, hdown]
    simp

/-- An integer below 2 ^ 53 does not carry when it is rounded. -/
theorem mul_two_pow_lt {a : Nat} (h : a < 2 ^ 53) : a * 2 ^ (52 - a.log2) < 2 ^ 53 := by
  rcases Nat.eq_zero_or_pos a with rfl | hpos
  · simp
  have hlog : a.log2 < 53 := (Nat.log2_lt (Nat.pos_iff_ne_zero.1 hpos)).2 h
  calc a * 2 ^ (52 - a.log2) < 2 ^ (a.log2 + 1) * 2 ^ (52 - a.log2) :=
        Nat.mul_lt_mul_of_pos_right Nat.lt_log2_self (Nat.pow_pos (by decide))
    _ = 2 ^ 53 := by
        rw [← Nat.pow_add]
        congr 1
        omega

/-- Only zero is rounded to zero. -/
theorem eq_zero_of_isZero_ofInt {n : Int} (h : (ofInt n).isZero = true) : n = 0 := by
  by_contra hne
  obtain ⟨r, heq, hlow, -, -⟩ := exists_ofInt_eq hne
  have hinfinity : infinityBits = 2047 * 2 ^ 52 := rfl
  simp only [isZero, Bool.and_eq_true, beq_iff_eq] at h
  obtain ⟨hfield, -⟩ := h
  rw [heq, exponentField_ofMagnitude] at hfield
  omega

/-- No other integer is rounded to the number of an integer below 2 ^ 53. -/
theorem eq_of_ofInt_eq {m n : Int} (hm : m.natAbs < 2 ^ 53) (h : ofInt m = ofInt n) : m = n := by
  by_cases hm0 : m = 0
  · subst hm0
    have hzero : (ofInt 0).isZero = true := by decide
    exact (eq_zero_of_isZero_ofInt (h ▸ hzero)).symm
  by_cases hn0 : n = 0
  · subst hn0
    have hzero : (ofInt 0).isZero = true := by decide
    exact eq_zero_of_isZero_ofInt (h ▸ hzero)
  obtain ⟨r, heq, hlow, -, hexact⟩ := exists_ofInt_eq hm0
  obtain ⟨s, heq', hlow', hhigh', hexact'⟩ := exists_ofInt_eq hn0
  have hlog : m.natAbs.log2 < 53 := (Nat.log2_lt (Int.natAbs_ne_zero.2 hm0)).2 hm
  have hr : r < 2 ^ 53 := hexact hm ▸ mul_two_pow_lt hm
  have hfinite : (m.natAbs.log2 + 1022) * 2 ^ 52 + r < infinityBits := by
    have hinfinity : infinityBits = 2047 * 2 ^ 52 := rfl
    omega
  rw [heq, heq'] at h
  obtain ⟨hsign, hmagnitude⟩ := ofMagnitude_inj hfinite h
  -- The two magnitudes are in the same binade, because the smaller one does not carry.
  have hn : n.natAbs < 2 ^ 53 := by
    refine (Nat.log2_lt (Int.natAbs_ne_zero.2 hn0)).1 ?_
    omega
  have hs : s < 2 ^ 53 := hexact' hn ▸ mul_two_pow_lt hn
  have hlogs : n.natAbs.log2 = m.natAbs.log2 := by omega
  have hrs : r = s := by omega
  rw [hexact hm, hexact' hn, hlogs] at hrs
  have habs : m.natAbs = n.natAbs := Nat.eq_of_mul_eq_mul_right (Nat.pow_pos (by decide)) hrs
  have hiff : m < 0 ↔ n < 0 := decide_eq_decide.1 hsign
  omega

/-- Integers that are rounded to the same value are equal or not below 2 ^ 53. -/
theorem eq_of_numEq_ofInt {m n : Int} (hm : m.natAbs < 2 ^ 53)
    (h : (ofInt m).numEq (ofInt n) = true) : m = n := by
  simp only [numEq, Bool.and_eq_true, Bool.or_eq_true, beq_iff_eq] at h
  rcases h.2 with heq | ⟨hm0, hn0⟩
  · exact eq_of_ofInt_eq hm heq
  · rw [eq_zero_of_isZero_ofInt hm0, eq_zero_of_isZero_ofInt hn0]

end Binary64

/-! ## Decimals -/

namespace WordDecimal

/-- The significand of a decimal is rounded to a finite number. -/
theorem exponentField_rounded_le {d : WordDecimal}
    (h : d.significand < IntegerRange.unsignedBound) : d.rounded.exponentField ≤ 64 + 1024 := by
  have hbound : IntegerRange.unsignedBound = 2 ^ 64 := by decide
  exact Binary64.exponentField_ofRatio_le (by decide) (by omega) _

/-- The real that a decimal stands for is finite. -/
theorem isFinite_of_magnitude? {d : WordDecimal} (h : d.significand < IntegerRange.unsignedBound)
    {x : Binary64} (hx : d.magnitude? = some x) : x.isFinite = true := by
  have hrounded := exponentField_rounded_le h
  have hpower : (maxPower : Int) = 308 := rfl
  simp only [magnitude?, hpower] at hx
  by_cases hzero : d.significand = 0
  · rw [if_pos hzero] at hx
    cases hx
    exact Binary64.isFinite_of_exponentField_le hrounded (by decide)
  rw [if_neg hzero] at hx
  by_cases hlarge : 308 < d.exponent
  · rw [if_pos hlarge] at hx
    cases hx
  rw [if_neg hlarge] at hx
  by_cases hwhole : 0 ≤ d.exponent
  · rw [if_pos hwhole, Option.ite_none_right_eq_some] at hx
    obtain ⟨hfinite, hx⟩ := hx
    cases hx
    exact hfinite
  rw [if_neg hwhole] at hx
  by_cases honce : -308 ≤ d.exponent
  · rw [if_pos honce] at hx
    cases hx
    have hdiv := Binary64.exponentField_div_le hrounded
      (Binary64.one_le_powerOfTen (n := (-d.exponent).toNat) (by omega))
    exact Binary64.isFinite_of_exponentField_le hdiv (by decide)
  rw [if_neg honce] at hx
  by_cases htwice : -(2 * 308) ≤ d.exponent
  · rw [if_pos htwice] at hx
    cases hx
    have hfirst := Binary64.exponentField_div_le hrounded
      (Binary64.one_le_powerOfTen (n := maxPower) (by decide))
    have hsecond := Binary64.exponentField_div_le hfirst
      (Binary64.one_le_powerOfTen (n := (-(d.exponent + 308)).toNat) (by omega))
    exact Binary64.isFinite_of_exponentField_le hsecond (by decide)
  · rw [if_neg htwice] at hx
    cases hx
    decide

/-- So it is with a sign. -/
theorem isFinite_of_toReal? {d : WordDecimal} (h : d.significand < IntegerRange.unsignedBound)
    {negative : Bool} {x : Binary64} (hx : d.toReal? negative = some x) : x.isFinite = true := by
  obtain ⟨y, hy, rfl⟩ := Option.map_eq_some_iff.1 hx
  have hfinite := isFinite_of_magnitude? h hy
  split
  · rw [Binary64.isFinite, Binary64.exponentField_negate]
    exact hfinite
  · exact hfinite

/-- The digits of a decimal are gathered into a significand that fits 64 bits. -/
theorem significand_ofDigits_lt (whole fraction : List Char) (power : Int) :
    (ofDigits whole fraction power).significand < IntegerRange.unsignedBound :=
  takeFraction_lt (takeWhole_lt (by decide) whole) fraction

end WordDecimal
end ProxyControl
