import Mathlib.Tactic.Linarith
import Mathlib.Tactic.Ring
import ProxyControl.Proofs.Decimal.Rounding

/-!
# The values of binary64 numbers

A finite number stands for a rational number: its significand times a power of two, with its sign.
Different numbers stand for different values, but for the two zeros, so numbers are equal just when
their values are.  An integer below 2 ^ 53 is a value, and rounding leaves it as it is.

Main results:

- Definition `Binary64.toRat`: the value of a finite number.
- Theorem `Binary64.magnitude_lt_of_exponent_lt`: a larger exponent makes a larger magnitude.
- Theorem `Binary64.numEq_iff_toRat_eq`: numbers are equal just when their values are.
- Theorem `Binary64.isFinite_and_toRat_ofInt`: a small integer is finite and keeps its value.
- Theorem `Binary64.numEq_ofInt_iff`: the numbers that are equal to a small integer.
-/

namespace ProxyControl
namespace Binary64

variable {x y : Binary64}

/-! ## Values -/

/-- The magnitude of a finite number. -/
def magnitude (x : Binary64) : ℚ :=
  x.significand * 2 ^ x.exponent

/-- The value of a finite number. -/
def toRat (x : Binary64) : ℚ :=
  if x.isNegative then -x.magnitude else x.magnitude

/-- A magnitude is not negative. -/
theorem magnitude_nonneg (x : Binary64) : 0 ≤ x.magnitude := by
  unfold magnitude
  positivity

/-- Only zeros have the magnitude zero. -/
theorem magnitude_eq_zero_iff : x.magnitude = 0 ↔ x.isZero = true := by
  have hpow : Nat.pow 2 52 = 2 ^ 52 := rfl
  have hpos : (2 : ℚ) ^ x.exponent ≠ 0 := zpow_ne_zero _ two_ne_zero
  unfold magnitude isZero significand
  rw [mul_eq_zero_iff_right hpos, Nat.cast_eq_zero, hpow]
  by_cases h : x.exponentField = 0
  · simp [h]
  · simp [h]

/-- Only zeros have the value zero, whatever their sign. -/
theorem toRat_eq_zero_iff : x.toRat = 0 ↔ x.isZero = true := by
  unfold toRat
  split
  · rw [neg_eq_zero, magnitude_eq_zero_iff]
  · exact magnitude_eq_zero_iff

/-! ## Numbers of one value -/

/-- The sign, the exponent and the fraction make up a number. -/
theorem ext_fields (hsign : x.isNegative = y.isNegative)
    (hexponent : x.exponentField = y.exponentField) (hfraction : x.fraction = y.fraction) :
    x = y := by
  have hpow : Nat.pow 2 52 = 2 ^ 52 := rfl
  have hsigned : IntegerRange.signedBound = 2 ^ 63 := by decide
  have hx := x.bits.toNat_lt
  have hy := y.bits.toNat_lt
  unfold isNegative at hsign
  unfold exponentField at hexponent
  unfold fraction at hfraction
  rw [hsigned, decide_eq_decide] at hsign
  rw [hpow] at hexponent hfraction
  have hbits : x.bits.toNat = y.bits.toNat := by omega
  cases x
  cases y
  rw [mk.injEq]
  exact UInt64.toNat_inj.1 hbits

/-- A larger exponent makes a larger magnitude, because only the numbers of the smallest exponent
have fewer than 53 bits. -/
theorem magnitude_lt_of_exponent_lt (h : x.exponent < y.exponent) : x.magnitude < y.magnitude := by
  have hfield : y.exponentField ≠ 0 := by
    unfold exponent at h
    omega
  have hlarge : (2 ^ 52 : ℚ) ≤ y.significand := by
    have hnat : 2 ^ 52 ≤ y.significand := by
      rw [significand, if_neg hfield]
      exact Nat.le_add_left _ _
    exact_mod_cast hnat
  have hsmall : (x.significand : ℚ) < 2 ^ 53 := by
    have hnat := significand_lt x
    exact_mod_cast hnat
  have hpos : (0 : ℚ) < 2 ^ x.exponent := by positivity
  calc x.magnitude = x.significand * 2 ^ x.exponent := rfl
    _ < 2 ^ 53 * 2 ^ x.exponent := mul_lt_mul_of_pos_right hsmall hpos
    _ = 2 ^ 52 * 2 ^ (x.exponent + 1) := by
        rw [zpow_add_one₀ two_ne_zero]
        ring
    _ ≤ y.significand * 2 ^ y.exponent :=
        mul_le_mul hlarge (zpow_le_zpow_right₀ one_le_two (by omega)) (by positivity)
          (Nat.cast_nonneg _)

/-- Numbers of one magnitude differ at most in their sign. -/
theorem fields_eq_of_magnitude_eq (h : x.magnitude = y.magnitude) :
    x.exponentField = y.exponentField ∧ x.fraction = y.fraction := by
  have hexponent : x.exponent = y.exponent := by
    rcases lt_trichotomy x.exponent y.exponent with hlt | heq | hlt
    · exact absurd h (ne_of_lt (magnitude_lt_of_exponent_lt hlt))
    · exact heq
    · exact absurd h.symm (ne_of_lt (magnitude_lt_of_exponent_lt hlt))
  have hsignificand : x.significand = y.significand := by
    unfold magnitude at h
    rw [hexponent, mul_left_inj' (zpow_ne_zero _ two_ne_zero)] at h
    exact_mod_cast h
  have hpow : Nat.pow 2 52 = 2 ^ 52 := rfl
  have hx : x.fraction < 2 ^ 52 := Nat.mod_lt _ (Nat.pow_pos (by decide))
  have hy : y.fraction < 2 ^ 52 := Nat.mod_lt _ (Nat.pow_pos (by decide))
  unfold exponent at hexponent
  unfold significand at hsignificand
  rw [hpow] at hsignificand
  split at hsignificand <;> split at hsignificand <;> omega

/-- Values of different signs are equal only if both are zero. -/
theorem isZero_of_isNegative_ne (hsign : x.isNegative ≠ y.isNegative) (h : x.toRat = y.toRat) :
    x.isZero = true ∧ y.isZero = true := by
  have hx := magnitude_nonneg x
  have hy := magnitude_nonneg y
  rw [← magnitude_eq_zero_iff, ← magnitude_eq_zero_iff]
  unfold toRat at h
  cases hxs : x.isNegative with
  | false =>
      have hys : y.isNegative = true := by simpa [hxs] using hsign.symm
      rw [hxs, hys, if_neg Bool.false_ne_true, if_pos rfl] at h
      constructor <;> linarith
  | true =>
      have hys : y.isNegative = false := by simpa [hxs] using hsign.symm
      rw [hxs, hys, if_pos rfl, if_neg Bool.false_ne_true] at h
      constructor <;> linarith

theorem isNaN_of_isFinite (h : x.isFinite = true) : x.isNaN = false := by
  have hfield : x.exponentField ≠ 2047 := bne_iff_ne.1 h
  rw [isNaN, beq_eq_false_iff_ne.2 hfield, Bool.false_and]

/-- Finite numbers are equal just when their values are. -/
theorem numEq_iff_toRat_eq (hx : x.isFinite = true) (hy : y.isFinite = true) :
    x.numEq y = true ↔ x.toRat = y.toRat := by
  rw [numEq, isNaN_of_isFinite hx, isNaN_of_isFinite hy]
  simp only [Bool.not_false, Bool.true_and, Bool.or_eq_true, beq_iff_eq, Bool.and_eq_true]
  constructor
  · rintro (rfl | ⟨hx0, hy0⟩)
    · rfl
    · rw [toRat_eq_zero_iff.2 hx0, toRat_eq_zero_iff.2 hy0]
  · intro h
    by_cases hsign : x.isNegative = y.isNegative
    · left
      have hmagnitude : x.magnitude = y.magnitude := by
        unfold toRat at h
        rw [hsign] at h
        split at h
        · exact neg_injective h
        · exact h
      obtain ⟨hexponent, hfraction⟩ := fields_eq_of_magnitude_eq hmagnitude
      exact ext_fields hsign hexponent hfraction
    · right
      exact isZero_of_isNegative_ne hsign h

/-- What is equal to a finite number is finite. -/
theorem isFinite_of_numEq (h : x.numEq y = true) (hy : y.isFinite = true) : x.isFinite = true := by
  simp only [numEq, Bool.and_eq_true, Bool.or_eq_true, beq_iff_eq] at h
  rcases h.2 with rfl | ⟨hzero, -⟩
  · exact hy
  · simp only [isZero, Bool.and_eq_true, beq_iff_eq] at hzero
    simp [isFinite, hzero.1]

/-! ## Small integers -/

section Magnitude

variable {negative : Bool} {bits : Nat}

/-- The sign is kept beside the magnitude. -/
theorem isNegative_ofMagnitude : (ofMagnitude negative bits).isNegative = negative := by
  have hinfinity : infinityBits < 2 ^ 63 := by decide
  have hsigned : IntegerRange.signedBound = 2 ^ 63 := by decide
  rw [isNegative, toNat_bits_ofMagnitude, hsigned]
  cases negative with
  | false =>
      have hmin : min bits infinityBits ≤ infinityBits := Nat.min_le_right _ _
      rw [decide_eq_false_iff_not, if_neg Bool.false_ne_true]
      omega
  | true => simp

theorem fraction_ofMagnitude :
    (ofMagnitude negative bits).fraction = min bits infinityBits % 2 ^ 52 := by
  have hsigned : IntegerRange.signedBound = 2 ^ 63 := by decide
  have hpow : Nat.pow 2 52 = 2 ^ 52 := rfl
  rw [fraction, toNat_bits_ofMagnitude, hpow, hsigned]
  split <;> omega

end Magnitude

/-- The number nearest to an integer below 2 ^ 53 is finite and has its value. -/
theorem isFinite_and_toRat_ofInt {n : Int} (h : n.natAbs < 2 ^ 53) :
    (ofInt n).isFinite = true ∧ (ofInt n).toRat = n := by
  by_cases hn : n = 0
  · subst hn
    have hzero : (ofInt 0).isZero = true := by decide
    exact ⟨by decide, by rw [toRat_eq_zero_iff.2 hzero, Int.cast_zero]⟩
  obtain ⟨r, heq, hlow, -, hexact⟩ := exists_ofInt_eq hn
  have hlog : n.natAbs.log2 < 53 := (Nat.log2_lt (Int.natAbs_ne_zero.2 hn)).2 h
  have hr : r = n.natAbs * 2 ^ (52 - n.natAbs.log2) := hexact h
  have hhigh : r < 2 ^ 53 := hr ▸ mul_two_pow_lt h
  have hinfinity : infinityBits = 2047 * 2 ^ 52 := rfl
  have hpow : Nat.pow 2 52 = 2 ^ 52 := rfl
  have hfield : (ofInt n).exponentField = n.natAbs.log2 + 1023 := by
    rw [heq, exponentField_ofMagnitude]
    omega
  have hfraction : (ofInt n).fraction = r - 2 ^ 52 := by
    rw [heq, fraction_ofMagnitude]
    omega
  have hsignificand : (ofInt n).significand = r := by
    rw [significand, hfield, hfraction, hpow, if_neg (Nat.succ_ne_zero _)]
    omega
  have hexponent : (ofInt n).exponent = (n.natAbs.log2 : Int) - 52 := by
    rw [exponent, hfield]
    omega
  have hmagnitude : (ofInt n).magnitude = n.natAbs := by
    rw [magnitude, hsignificand, hexponent, hr, Nat.cast_mul, Nat.cast_pow, Nat.cast_ofNat,
      mul_assoc, ← zpow_natCast, ← zpow_add₀ two_ne_zero]
    have hcancel : ((52 - n.natAbs.log2 : Nat) : Int) + (n.natAbs.log2 - 52) = 0 := by omega
    rw [hcancel, zpow_zero, mul_one]
  constructor
  · rw [isFinite, hfield, bne_iff_ne]
    omega
  · rw [toRat, hmagnitude, heq, isNegative_ofMagnitude]
    by_cases hneg : n < 0
    · simp [hneg, abs_of_neg hneg]
    · simp [hneg, abs_of_nonneg (Int.not_lt.1 hneg)]

/-- The numbers that are equal to an integer below 2 ^ 53 are the finite ones of its value. -/
theorem numEq_ofInt_iff {n : Int} (h : n.natAbs < 2 ^ 53) :
    x.numEq (ofInt n) = true ↔ x.isFinite = true ∧ x.toRat = n := by
  obtain ⟨hfinite, hvalue⟩ := isFinite_and_toRat_ofInt h
  constructor
  · intro heq
    have hx := isFinite_of_numEq heq hfinite
    refine ⟨hx, ?_⟩
    rw [(numEq_iff_toRat_eq hx hfinite).1 heq, hvalue]
  · rintro ⟨hx, hxn⟩
    rw [numEq_iff_toRat_eq hx hfinite, hxn, hvalue]

/-- Integers of which one is below 2 ^ 53 are rounded to equal numbers just when they are equal. -/
theorem numEq_ofInt_ofInt_iff {m n : Int} (h : n.natAbs < 2 ^ 53) :
    (ofInt m).numEq (ofInt n) = true ↔ m = n := by
  constructor
  · intro heq
    rw [numEq_comm] at heq
    exact (eq_of_numEq_ofInt h heq).symm
  · rintro rfl
    exact numEq_self (isNaN_of_isFinite (isFinite_and_toRat_ofInt h).1)

end Binary64
end ProxyControl
