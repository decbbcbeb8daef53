/-!
# Binary64 numbers

Integers are kept in 64 bits, and so are reals.  A binary64 number is its 64 bits.  Keeping
the bits keeps the sign of zero and the payload of a NaN, and the value of a finite number
is an exact pair of a significand and a power of two.

Main results:

- Definition `IntegerRange.fits`: the integers that fit 64 bits with a sign.
- Definitions `Binary64.significand`, `Binary64.exponent`: the exact value of a number.
- Definition `Binary64.ofRatio`: the number nearest to a quotient, a tie going to the
  even significand.
- Definitions `Binary64.mul`, `Binary64.div`: product and quotient, rounded once.
- Definition `Binary64.numEq`: equality of values, under which a NaN equals nothing and
  the two zeros are equal.
- Theorems `Binary64.numEq_comm`, `Binary64.numEq_trans`: its laws.
-/

namespace ProxyControl

/-! ## Ranges of integers -/

namespace IntegerRange

/-- The bound of 64 bits with a sign: the 63rd power of two. -/
def signedBound : Nat := 9223372036854775808

/-- The bound of 64 bits without a sign: the 64th power of two. -/
def unsignedBound : Nat := 18446744073709551616

/-- Whether an integer fits 64 bits with a sign. -/
def fits (n : Int) : Bool :=
  decide (-(signedBound : Int) ≤ n) && decide (n < signedBound)

/-- The integers that fit lie between the bounds, the lower one included. -/
theorem fits_iff (n : Int) :
    fits n = true ↔ -9223372036854775808 ≤ n ∧ n < 9223372036854775808 := by
  rw [fits, Bool.and_eq_true, decide_eq_true_iff, decide_eq_true_iff]
  simp [signedBound]

end IntegerRange

/-! ## Numbers -/

/-- A binary64 number, as its bits. -/
structure Binary64 where
  bits : UInt64
  deriving DecidableEq, Repr, Inhabited

namespace Binary64

/-! ## Fields -/

/-- Whether the sign bit is set. -/
def isNegative (x : Binary64) : Bool :=
  decide (IntegerRange.signedBound ≤ x.bits.toNat)

/-- The biased exponent, between 0 and 2047. -/
def exponentField (x : Binary64) : Nat :=
  x.bits.toNat / Nat.pow 2 52 % 2048

/-- The 52 bits below the exponent. -/
def fraction (x : Binary64) : Nat :=
  x.bits.toNat % Nat.pow 2 52

/-- Whether the number is neither infinite nor a NaN. -/
def isFinite (x : Binary64) : Bool :=
  x.exponentField != 2047

/-- Whether the bits stand for no number. -/
def isNaN (x : Binary64) : Bool :=
  x.exponentField == 2047 && x.fraction != 0

/-- Whether the number is one of the two zeros. -/
def isZero (x : Binary64) : Bool :=
  x.exponentField == 0 && x.fraction == 0

/-- The significand of a finite number. -/
def significand (x : Binary64) : Nat :=
  if x.exponentField = 0 then x.fraction else x.fraction + Nat.pow 2 52

/-- The power of two that a finite number's significand is multiplied with. -/
def exponent (x : Binary64) : Int :=
  (max x.exponentField 1 : Nat) - 1075

/-! ## Equality of values -/

/-- Equality of values: no NaN equals anything, and the two zeros are equal. -/
def numEq (x y : Binary64) : Bool :=
  !x.isNaN && !y.isNaN && (x == y || (x.isZero && y.isZero))

/-- Equality of values is symmetric. -/
theorem numEq_comm (x y : Binary64) : numEq x y = numEq y x := by
  unfold numEq
  rw [Bool.and_comm (!x.isNaN), Bool.and_comm x.isZero, BEq.comm]

/-- Equality of values is transitive. -/
theorem numEq_trans {x y z : Binary64} (hxy : numEq x y = true) (hyz : numEq y z = true) :
    numEq x z = true := by
  simp only [numEq, Bool.and_eq_true, Bool.or_eq_true, beq_iff_eq, Bool.not_eq_true'] at *
  obtain ⟨⟨hx, -⟩, h₁⟩ := hxy
  obtain ⟨⟨-, hz⟩, h₂⟩ := hyz
  refine ⟨⟨hx, hz⟩, ?_⟩
  rcases h₁ with rfl | ⟨hx0, hy0⟩
  · exact h₂
  · rcases h₂ with rfl | ⟨-, hz0⟩
    · exact .inr ⟨hx0, hy0⟩
    · exact .inr ⟨hx0, hz0⟩

/-- Every number but a NaN equals itself. -/
theorem numEq_self {x : Binary64} (h : x.isNaN = false) : numEq x x = true := by
  simp [numEq, h]

/-! ## Rounding -/

/-- The bits of the smallest magnitude that is too large to be finite. -/
def infinityBits : Nat := 2047 * Nat.pow 2 52

/-- The number with a sign and the bits of a magnitude; a magnitude beyond the finite
ones is infinite. -/
def ofMagnitude (negative : Bool) (magnitude : Nat) : Binary64 :=
  ⟨UInt64.ofNat ((if negative then IntegerRange.signedBound else 0) + min magnitude infinityBits)⟩

/-- A quotient rounded to an integer, a tie going to the even one. -/
def roundHalfEven (num den : Nat) : Nat :=
  let q := num / den
  let twice := 2 * (num % den)
  if twice < den then q else if den < twice then q + 1 else q + q % 2

/-- The quotient of a fraction by a power of two, as numerator and denominator. -/
def scaleDown (num den : Nat) (e : Int) : Nat × Nat :=
  (num * Nat.pow 2 (-e).toNat, den * Nat.pow 2 e.toNat)

/-- The power of two on whose multiples a positive quotient is rounded: the quotient has
53 bits there, or fewer when the power is the smallest one. -/
def roundingExponent (num den : Nat) : Int :=
  let low : Int := (Nat.log2 num : Int) - Nat.log2 den - 53
  let (n, d) := scaleDown num den low
  max (if n / d < Nat.pow 2 53 then low else low + 1) (-1074)

/-- The number nearest to a quotient, a tie going to the even significand.  The carry of
a significand rounded up to the next power of two goes into the exponent field. -/
def ofRatio (negative : Bool) (num den : Nat) : Binary64 :=
  if num = 0 then ofMagnitude negative 0
  else
    let e := roundingExponent num den
    let (n, d) := scaleDown num den e
    ofMagnitude negative ((e + 1074).toNat * Nat.pow 2 52 + roundHalfEven n d)

/-- The number nearest to an integer. -/
def ofInt (n : Int) : Binary64 :=
  ofRatio (decide (n < 0)) n.natAbs 1

/-! ## Arithmetic -/

/-- The number nearest to a quotient times a power of two. -/
def ofScaledRatio (negative : Bool) (num den : Nat) (e : Int) : Binary64 :=
  let (n, d) := scaleDown num den (-e)
  ofRatio negative n d

/-- The product of two finite numbers, rounded once. -/
def mul (x y : Binary64) : Binary64 :=
  ofScaledRatio (x.isNegative != y.isNegative) (x.significand * y.significand) 1
    (x.exponent + y.exponent)

/-- The quotient of a finite number by one that is not zero, rounded once. -/
def div (x y : Binary64) : Binary64 :=
  ofScaledRatio (x.isNegative != y.isNegative) x.significand y.significand
    (x.exponent - y.exponent)

/-- The number nearest to a power of ten. -/
def powerOfTen (n : Nat) : Binary64 :=
  ofRatio false (Nat.pow 10 n) 1

/-- The number with the other sign. -/
def negate (x : Binary64) : Binary64 :=
  ⟨x.bits ^^^ UInt64.ofNat IntegerRange.signedBound⟩

end Binary64

end ProxyControl
