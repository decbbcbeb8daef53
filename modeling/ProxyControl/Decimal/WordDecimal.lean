import ProxyControl.Decimal.Binary64

/-!
# Decimals in a word

A decimal number is gathered into a significand of 64 bits and a power of ten.  Digits
for which the significand has no room are left out: before the point each of them still
counts as a factor of ten, behind the point they do not count at all.

The real that a decimal stands for is its significand, rounded to binary64, times or
over a power of ten that is itself rounded to binary64.  Each of these steps rounds, so
the result need not be the number nearest to the decimal; it is that number whenever the
significand has at most 53 bits and the power of ten at most 22 zeros, for then only the
last step rounds.

Main results:

- Definition `WordDecimal.ofDigits`: the decimal of the digits around a point.
- Definition `WordDecimal.magnitude?`: the real that a decimal stands for, if it is finite.
-/

namespace ProxyControl

/-- A decimal `significand * 10 ^ exponent` whose significand fits 64 bits. -/
structure WordDecimal where
  significand : Nat
  exponent : Int
  deriving DecidableEq, Repr

namespace WordDecimal

/-! ## Gathering digits -/

/-- The value of a decimal digit. -/
def digitValue (c : Char) : Nat :=
  c.toNat - 48

/-- The significand with one more digit, if there is room for it. -/
@[irreducible]
def push? (significand : Nat) (c : Char) : Option Nat :=
  if significand * 10 + digitValue c < IntegerRange.unsignedBound then
    some (significand * 10 + digitValue c)
  else none

/-- Takes in the digits before the point.  From the first digit without room on, every
digit is a factor of ten. -/
def takeWhole (significand : Nat) : List Char → WordDecimal
  | [] => ⟨significand, 0⟩
  | c :: rest =>
    match push? significand c with
    | some next => takeWhole next rest
    | none => ⟨significand, rest.length + 1⟩

/-- Takes in the digits behind the point, up to the first one without room. -/
def takeFraction (d : WordDecimal) : List Char → WordDecimal
  | [] => d
  | c :: rest =>
    match push? d.significand c with
    | some next => takeFraction ⟨next, d.exponent - 1⟩ rest
    | none => d

/-- The decimal of the digits before and behind a point, times a power of ten. -/
def ofDigits (whole fraction : List Char) (power : Int) : WordDecimal :=
  let d := takeFraction (takeWhole 0 whole) fraction
  ⟨d.significand, d.exponent + power⟩

/-- A significand that fits 64 bits still does so with one more digit. -/
theorem lt_of_push? {significand next : Nat} {c : Char} (h : push? significand c = some next) :
    next < IntegerRange.unsignedBound := by
  unfold push? at h
  split at h
  case isTrue hlt => exact Option.some.inj h ▸ hlt
  case isFalse => exact absurd h (by simp)

/-- The digits before the point leave a significand that fits 64 bits. -/
theorem takeWhole_lt {significand : Nat} (h : significand < IntegerRange.unsignedBound)
    (cs : List Char) : (takeWhole significand cs).significand < IntegerRange.unsignedBound := by
  induction cs generalizing significand with
  | nil => exact h
  | cons c rest ih =>
    cases hpush : push? significand c with
    | none => simpa only [takeWhole, hpush] using h
    | some next => simpa only [takeWhole, hpush] using ih (lt_of_push? hpush)

/-- The digits behind the point leave a significand that fits 64 bits. -/
theorem takeFraction_lt {d : WordDecimal} (h : d.significand < IntegerRange.unsignedBound)
    (cs : List Char) : (takeFraction d cs).significand < IntegerRange.unsignedBound := by
  induction cs generalizing d with
  | nil => exact h
  | cons c rest ih =>
    cases hpush : push? d.significand c with
    | none => simpa only [takeFraction, hpush] using h
    | some next => simpa only [takeFraction, hpush] using ih (lt_of_push? hpush)

/-! ## The real -/

/-- The largest power of ten that a finite number can be multiplied with or divided by. -/
def maxPower : Nat := 308

/-- The significand, rounded. -/
def rounded (d : WordDecimal) : Binary64 :=
  .ofRatio false d.significand 1

/-- The magnitude of the real that a decimal stands for; none if it is not finite.  A
small decimal is divided twice, the first time by the largest power of ten; what is
smaller still is zero. -/
def magnitude? (d : WordDecimal) : Option Binary64 :=
  let largest : Int := maxPower
  if d.significand = 0 then some d.rounded
  else if largest < d.exponent then none
  else if 0 ≤ d.exponent then
    let x := d.rounded.mul (.powerOfTen d.exponent.toNat)
    if x.isFinite then some x else none
  else if -largest ≤ d.exponent then
    some (d.rounded.div (.powerOfTen (-d.exponent).toNat))
  else if -(2 * largest) ≤ d.exponent then
    some ((d.rounded.div (.powerOfTen maxPower)).div
      (.powerOfTen (-(d.exponent + largest)).toNat))
  else some (.ofRatio false 0 1)

/-- The real that a decimal with a sign stands for. -/
def toReal? (d : WordDecimal) (negative : Bool) : Option Binary64 :=
  d.magnitude?.map fun x => if negative then x.negate else x

end WordDecimal
end ProxyControl
