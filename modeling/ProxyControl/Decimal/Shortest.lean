import ProxyControl.Decimal.Binary64

/-!
# Shortest decimals

The decimal text of a finite binary64 number has the fewest significant digits that
round to the same number, and among those the digits nearest to its value.

The reals that round to a number form an interval around it, with both ends
included exactly when the significand is even.  If any multiple of a power of ten lies
in the interval, so does one of the two multiples next to the value; hence it is enough
to test these two for 1, 2, … 17 digits.

Main results:

- Definition `Shortest.decimal`: the shortest decimal of a positive number.
- Definition `Shortest.text`: its text in a given layout.
-/

namespace ProxyControl
namespace Shortest

/-- A positive decimal `digits * 10 ^ exponent`. -/
structure Decimal where
  digits : Nat
  exponent : Int
  deriving DecidableEq, Repr

/-- The interval of a positive number, its ends and the number itself as multiples of
`2 ^ unit`. -/
structure Interval where
  low : Nat
  value : Nat
  high : Nat
  unit : Int
  closed : Bool
  deriving DecidableEq, Repr

/-- The interval of the number `m * 2 ^ e`.  Below a power of two the gap to the next
number is half as wide, except next to the subnormal numbers. -/
def Interval.of (m : Nat) (e : Int) : Interval where
  low := if m = Nat.pow 2 52 ∧ -1074 < e then 4 * m - 1 else 4 * m - 2
  value := 4 * m
  high := 4 * m + 2
  unit := e - 2
  closed := m % 2 == 0

/-- The two factors that make multiples of `10 ^ k` and of `2 ^ unit` comparable. -/
def factors (unit k : Int) : Nat × Nat :=
  (Nat.pow 10 k.toNat * Nat.pow 2 (-unit).toNat, Nat.pow 2 unit.toNat * Nat.pow 10 (-k).toNat)

namespace Interval

/-- Whether `c * 10 ^ k` lies in the interval. -/
def holds (i : Interval) (c : Nat) (k : Int) : Bool :=
  let (ten, two) := factors i.unit k
  let x := c * ten
  if i.closed then decide (i.low * two ≤ x) && decide (x ≤ i.high * two)
  else decide (i.low * two < x) && decide (x < i.high * two)

/-- The multiple of `10 ^ k` next to the value that lies in the interval; of two the
nearer one, of two equally near ones the even one. -/
def nearest? (i : Interval) (k : Int) : Option Nat :=
  let (ten, two) := factors i.unit k
  let v := i.value * two
  let c := v / ten
  match i.holds c k, i.holds (c + 1) k with
  | false, false => none
  | true, false => some c
  | false, true => some (c + 1)
  | true, true =>
    let below := v - c * ten
    let above := (c + 1) * ten - v
    if below < above then some c
    else if above < below then some (c + 1)
    else some (c + c % 2)

/-- The exponent of the value's leading decimal digit. -/
def leading (i : Interval) : Int :=
  let scaled :=
    i.value * Nat.pow 2 i.unit.toNat * Nat.pow 10 400 / Nat.pow 2 (-i.unit).toNat
  ((Nat.toDigits 10 scaled).length : Int) - 401

end Interval

/-- A decimal without trailing zeros; the count bounds the zeros removed. -/
def Decimal.strip : Nat → Decimal → Decimal
  | 0, d => d
  | count + 1, d =>
    if d.digits ≠ 0 ∧ d.digits % 10 = 0 then strip count ⟨d.digits / 10, d.exponent + 1⟩ else d

/-- The shortest decimal of a positive finite number. -/
def decimal (x : Binary64) : Decimal :=
  let i := Interval.of x.significand x.exponent
  let found := (List.range 17).findSome? fun (n : Nat) =>
    let k := i.leading - n
    (i.nearest? k).map fun c => Decimal.mk c k
  (found.getD ⟨0, 0⟩).strip 18

/-- Where decimal notation without an exponent begins and ends, and what stands before a
positive exponent. -/
structure Layout where
  plainFrom : Int
  plainBelow : Int
  plus : String
  deriving DecidableEq, Repr

/-- A number of zeros. -/
def zeros (n : Nat) : List Char :=
  List.replicate n '0'

namespace Layout

/-- The text of a positive decimal. -/
def write (l : Layout) (d : Decimal) : List Char :=
  let digits := Nat.toDigits 10 d.digits
  let lead : Int := d.exponent + digits.length - 1
  if l.plainFrom ≤ lead ∧ lead < l.plainBelow then
    if 0 ≤ d.exponent then digits ++ zeros d.exponent.toNat ++ ['.', '0']
    else if 0 ≤ lead then
      digits.take (lead.toNat + 1) ++ '.' :: digits.drop (lead.toNat + 1)
    else ['0', '.'] ++ zeros ((-lead).toNat - 1) ++ digits
  else
    let tail := if digits.length = 1 then [] else '.' :: digits.drop 1
    let sign := if 0 ≤ lead then l.plus.toList else ['-']
    digits.take 1 ++ tail ++ 'e' :: (sign ++ Nat.toDigits 10 lead.natAbs)

end Layout

/-- The shortest text of a finite number. -/
def text (l : Layout) (x : Binary64) : List Char :=
  let magnitude := if x.isZero then ['0', '.', '0'] else l.write (decimal x)
  if x.isNegative then '-' :: magnitude else magnitude

end Shortest
end ProxyControl
