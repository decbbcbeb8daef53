import ProxyControl.Decimal.WordDecimal
import ProxyControl.Json.Basic

/-!
# Reading JSON

The reader takes one value off the front of a text and returns it with the rest.  A
number without a fraction and an exponent that fits 64 bits, signed or unsigned, is an
integer, except a negative zero; every other number is read as a decimal with a
significand of 64 bits, and is refused if it is too large for a real.  Nesting is limited
to 127 levels.

Main results:

- Definition `Json.readValue`: the value at the front of a text and the rest.
- Definition `Json.ofText?`: the value of a whole text.
-/

namespace ProxyControl
namespace Json

/-- The deepest nesting of arrays and objects that is read. -/
def maxDepth : Nat := 127

/-! ## Words and numbers -/

/-- The blanks that may stand between tokens. -/
def isGap (c : Char) : Bool :=
  c = ' ' || c = '\t' || c = '\n' || c = '\r'

/-- The text without its leading blanks. -/
def skipGap (cs : List Char) : List Char :=
  cs.dropWhile isGap

/-- The value of a hexadecimal digit. -/
def hexDigit? (c : Char) : Option Nat :=
  if '0' ≤ c ∧ c ≤ '9' then some (c.toNat - 48)
  else if 'a' ≤ c ∧ c ≤ 'f' then some (c.toNat - 87)
  else if 'A' ≤ c ∧ c ≤ 'F' then some (c.toNat - 55)
  else none

/-- The value of four hexadecimal digits. -/
def hex4? (a b c d : Char) : Option Nat := do
  let a ← hexDigit? a
  let b ← hexDigit? b
  let c ← hexDigit? c
  let d ← hexDigit? d
  return ((a * 16 + b) * 16 + c) * 16 + d

/-- The value of a list of decimal digits. -/
def natOfDigits (cs : List Char) : Nat :=
  cs.foldl (fun n c => n * 10 + (c.toNat - 48)) 0

/-- The parts of a number's text. -/
structure NumberText where
  negative : Bool
  whole : List Char
  fraction : Option (List Char)
  exponent : Option (Bool × List Char)
  deriving Repr

/-- The exponent at the front of a text: whether it is negative, and its digits. -/
def readExponent (cs : List Char) : Option (Option (Bool × List Char) × List Char) :=
  match cs with
  | c :: rest =>
    if c = 'e' ∨ c = 'E' then
      let (negative, rest) := match rest with
        | '-' :: r => (true, r)
        | '+' :: r => (false, r)
        | r => (false, r)
      let digits := rest.takeWhile Char.isDigit
      if digits.isEmpty then none
      else some (some (negative, digits), rest.dropWhile Char.isDigit)
    else some (none, cs)
  | [] => some (none, [])

/-- The fraction at the front of a text. -/
def readFraction (cs : List Char) : Option (Option (List Char) × List Char) :=
  match cs with
  | '.' :: rest =>
    let digits := rest.takeWhile Char.isDigit
    if digits.isEmpty then none else some (some digits, rest.dropWhile Char.isDigit)
  | _ => some (none, cs)

/-- The number at the front of a text that has no sign any more. -/
def readUnsigned (negative : Bool) (cs : List Char) : Option (NumberText × List Char) := do
  let whole := cs.takeWhile Char.isDigit
  guard (!whole.isEmpty && (whole.length == 1 || whole.head? != some '0'))
  let (fraction, rest) ← readFraction (cs.dropWhile Char.isDigit)
  let (exponent, rest) ← readExponent rest
  return (⟨negative, whole, fraction, exponent⟩, rest)

/-- The value of a number's text; none if it is out of range. -/
def NumberText.value? (t : NumberText) : Option Json :=
  let whole := natOfDigits t.whole
  let isInteger := t.fraction.isNone && t.exponent.isNone
  if isInteger && !t.negative && decide (whole < IntegerRange.unsignedBound) then some (.int whole)
  else if isInteger && t.negative && decide (whole ≠ 0) &&
      decide (whole ≤ IntegerRange.signedBound) then
    some (.int (-whole))
  else
    let fraction := t.fraction.getD []
    let power : Int := match t.exponent with
      | none => 0
      | some (negative, digits) =>
        if negative then -natOfDigits digits else natOfDigits digits
    ((WordDecimal.ofDigits t.whole fraction power).toReal? t.negative).map .real

/-- The number at the front of a text. -/
def readNumber (cs : List Char) : Option (Json × List Char) := do
  let (text, rest) ← match cs with
    | '-' :: rest => readUnsigned true rest
    | _ => readUnsigned false cs
  return (← text.value?, rest)

/-! ## Strings -/

/-- The character that a one-letter escape stands for. -/
def escaped? (c : Char) : Option Char :=
  match c with
  | '"' => some '"'
  | '\\' => some '\\'
  | '/' => some '/'
  | 'b' => some '\x08'
  | 'f' => some '\x0c'
  | 'n' => some '\n'
  | 'r' => some '\r'
  | 't' => some '\t'
  | _ => none

/-- The content of a string from behind its opening quote, and the rest behind its
closing quote.  A surrogate counts only as the first or second half of a pair. -/
def readString : List Char → Option (List Char × List Char)
  | [] => none
  | '"' :: rest => some ([], rest)
  | '\\' :: 'u' :: a :: b :: c :: d :: rest =>
    match hex4? a b c d with
    | none => none
    | some unit =>
      if unit < 0xD800 ∨ 0xDFFF < unit then
        (readString rest).map fun (cs, rest) => (Char.ofNat unit :: cs, rest)
      else if 0xDC00 ≤ unit then none
      else
        match rest with
        | '\\' :: 'u' :: e :: f :: g :: h :: rest =>
          match hex4? e f g h with
          | none => none
          | some low =>
            if 0xDC00 ≤ low ∧ low ≤ 0xDFFF then
              let c := Char.ofNat (0x10000 + (unit - 0xD800) * 0x400 + (low - 0xDC00))
              (readString rest).map fun (cs, rest) => (c :: cs, rest)
            else none
        | _ => none
  | '\\' :: c :: rest =>
    match escaped? c with
    | none => none
    | some e => (readString rest).map fun (cs, rest) => (e :: cs, rest)
  | c :: rest =>
    if c.toNat < 0x20 ∨ c = '\\' then none
    else (readString rest).map fun (cs, rest) => (c :: cs, rest)

/-! ## Values -/

mutual

/-- The value at the front of a text and the rest behind it.  The first number bounds
the recursion, the second is the nesting that is still allowed. -/
def readValue : Nat → Nat → List Char → Option (Json × List Char)
  | 0, _, _ => none
  | fuel + 1, depth, cs =>
    match skipGap cs with
    | 'n' :: 'u' :: 'l' :: 'l' :: rest => some (.null, rest)
    | 't' :: 'r' :: 'u' :: 'e' :: rest => some (.bool true, rest)
    | 'f' :: 'a' :: 'l' :: 's' :: 'e' :: rest => some (.bool false, rest)
    | '"' :: rest => (readString rest).map fun (s, rest) => (.str (String.ofList s), rest)
    | '[' :: rest =>
      match depth with
      | 0 => none
      | depth + 1 =>
        match skipGap rest with
        | ']' :: rest => some (.arr [], rest)
        | rest => (readItems fuel depth rest).map fun (items, rest) => (.arr items, rest)
    | '{' :: rest =>
      match depth with
      | 0 => none
      | depth + 1 =>
        match skipGap rest with
        | '}' :: rest => some (.obj [], rest)
        | rest => (readMembers fuel depth rest).map fun (members, rest) => (.obj members, rest)
    | cs => readNumber cs

/-- The items of an array up to its closing bracket. -/
def readItems : Nat → Nat → List Char → Option (List Json × List Char)
  | 0, _, _ => none
  | fuel + 1, depth, cs =>
    match readValue fuel depth cs with
    | none => none
    | some (item, rest) =>
      match skipGap rest with
      | ']' :: rest => some ([item], rest)
      | ',' :: rest => (readItems fuel depth rest).map fun (items, rest) => (item :: items, rest)
      | _ => none

/-- The members of an object up to its closing brace. -/
def readMembers : Nat → Nat → List Char → Option (List (String × Json) × List Char)
  | 0, _, _ => none
  | fuel + 1, depth, cs =>
    match skipGap cs with
    | '"' :: rest =>
      match readString rest with
      | none => none
      | some (key, rest) =>
        match skipGap rest with
        | ':' :: rest =>
          match readValue fuel depth rest with
          | none => none
          | some (value, rest) =>
            let member := (String.ofList key, value)
            match skipGap rest with
            | '}' :: rest => some ([member], rest)
            | ',' :: rest =>
              (readMembers fuel depth rest).map fun (members, rest) => (member :: members, rest)
            | _ => none
        | _ => none
    | _ => none

end

/-- The value at the front of a text and the rest behind it.  Every step of the
recursion uses up a character or follows one that did. -/
def read (cs : List Char) : Option (Json × List Char) :=
  readValue (2 * cs.length + 2) maxDepth cs

/-- The value of a whole text. -/
def ofText? (text : String) : Option Json :=
  match read text.toList with
  | none => none
  | some (value, rest) => if (skipGap rest).isEmpty then some value else none

end Json
end ProxyControl
