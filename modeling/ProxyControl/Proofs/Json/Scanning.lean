import Mathlib.Data.List.TakeWhile
import Mathlib.Data.Option.Basic
import ProxyControl.Json.Reader
import ProxyControl.Json.Writer

/-!
# Reading numbers and strings that were written

The reader takes a number off the front of a text as far as it goes, so what it reads depends
on what follows only if that could belong to the number.  A string ends at its closing quote,
and every character in it is read back from its escape.

Main results:

- Theorem `readNumber_append`: what ends a number leaves its value alone.
- Theorem `readNumber_intChars`: integers of 64 bits are read back.
- Theorem `isNumberChar_of_mem_text`: reals are written with the characters of numbers.
- Theorem `readString_escape`: strings are read back.
-/

namespace ProxyControl
namespace Json

/-! ## What ends a number -/

/-- The characters that numbers are written with. -/
def isNumberChar (c : Char) : Bool :=
  c.isDigit || c = '.' || c = 'e' || c = 'E' || c = '+' || c = '-'

/-- A number that stands before a text ends there. -/
def EndsNumber (cs : List Char) : Prop :=
  ∀ c ∈ cs.head?, isNumberChar c = false

@[simp]
theorem endsNumber_nil : EndsNumber [] := by
  simp [EndsNumber]

@[simp]
theorem endsNumber_cons (c : Char) (cs : List Char) :
    EndsNumber (c :: cs) ↔ isNumberChar c = false := by
  simp [EndsNumber]

/-- What ends a number is no digit. -/
theorem isDigit_of_not_isNumberChar {c : Char} (h : isNumberChar c = false) :
    c.isDigit = false := by
  simp only [isNumberChar, Bool.or_eq_false_iff] at h
  exact h.1.1.1.1.1

section EndsNumber

variable {rest : List Char}

/-- What ends a number adds no digits to those in front of it. -/
theorem takeWhile_isDigit_append (hrest : EndsNumber rest) (cs : List Char) :
    (cs ++ rest).takeWhile Char.isDigit = cs.takeWhile Char.isDigit := by
  induction cs with
  | nil =>
      cases rest with
      | nil => rfl
      | cons c rest => simp [isDigit_of_not_isNumberChar ((endsNumber_cons c rest).1 hrest)]
  | cons c cs ih =>
      rw [List.cons_append, List.takeWhile_cons, List.takeWhile_cons, ih]

/-- What ends a number is left behind the digits in front of it. -/
theorem dropWhile_isDigit_append (hrest : EndsNumber rest) (cs : List Char) :
    (cs ++ rest).dropWhile Char.isDigit = cs.dropWhile Char.isDigit ++ rest := by
  induction cs with
  | nil =>
      cases rest with
      | nil => rfl
      | cons c rest => simp [isDigit_of_not_isNumberChar ((endsNumber_cons c rest).1 hrest)]
  | cons c cs ih =>
      rw [List.cons_append, List.dropWhile_cons, List.dropWhile_cons, ih]
      split <;> rfl

/-- What ends a number leaves its fraction alone. -/
theorem readFraction_append (hrest : EndsNumber rest) (cs : List Char) :
    readFraction (cs ++ rest) = (readFraction cs).map fun r => (r.1, r.2 ++ rest) := by
  cases cs with
  | nil =>
      cases rest with
      | nil => rfl
      | cons c rest =>
          have hpoint : c ≠ '.' := by
            rintro rfl
            exact absurd ((endsNumber_cons _ _).1 hrest) (by decide)
          simp [readFraction, hpoint]
  | cons c cs =>
      by_cases hpoint : c = '.'
      · subst hpoint
        simp only [List.cons_append, readFraction, takeWhile_isDigit_append hrest,
          dropWhile_isDigit_append hrest]
        split <;> rfl
      · simp [readFraction, hpoint]

/-- The sign of an exponent and the rest behind it. -/
def exponentSign : List Char → Bool × List Char
  | '-' :: rest => (true, rest)
  | '+' :: rest => (false, rest)
  | rest => (false, rest)

/-- An exponent without a sign is positive. -/
theorem exponentSign_of_plain {cs : List Char} (hminus : ∀ tail, cs ≠ '-' :: tail)
    (hplus : ∀ tail, cs ≠ '+' :: tail) : exponentSign cs = (false, cs) := by
  unfold exponentSign
  split
  · exact absurd rfl (hminus _)
  · exact absurd rfl (hplus _)
  · rfl

/-- An exponent is its sign and its digits, of which there is one at least. -/
theorem readExponent_cons {c : Char} (h : c = 'e' ∨ c = 'E') (cs : List Char) :
    readExponent (c :: cs) =
      if ((exponentSign cs).2.takeWhile Char.isDigit).isEmpty then none
      else some (some ((exponentSign cs).1, (exponentSign cs).2.takeWhile Char.isDigit),
        (exponentSign cs).2.dropWhile Char.isDigit) := by
  unfold readExponent
  simp only [if_pos h]
  split
  · rfl
  · rfl
  · rename_i hminus hplus
    rw [exponentSign_of_plain hminus hplus]

/-- What ends a number leaves the sign of its exponent alone. -/
theorem exponentSign_append (hrest : EndsNumber rest) (cs : List Char) :
    exponentSign (cs ++ rest) = ((exponentSign cs).1, (exponentSign cs).2 ++ rest) := by
  cases cs with
  | nil =>
      refine exponentSign_of_plain ?_ ?_
      · rintro tail rfl
        exact absurd ((endsNumber_cons _ _).1 hrest) (by decide)
      · rintro tail rfl
        exact absurd ((endsNumber_cons _ _).1 hrest) (by decide)
  | cons c cs =>
      by_cases hminus : c = '-'
      · subst hminus
        rfl
      · by_cases hplus : c = '+'
        · subst hplus
          rfl
        · rw [exponentSign_of_plain (by simp [hminus]) (by simp [hplus]),
            exponentSign_of_plain (by simp [hminus]) (by simp [hplus])]

/-- What ends a number leaves its exponent alone. -/
theorem readExponent_append (hrest : EndsNumber rest) (cs : List Char) :
    readExponent (cs ++ rest) = (readExponent cs).map fun r => (r.1, r.2 ++ rest) := by
  cases cs with
  | nil =>
      cases rest with
      | nil => rfl
      | cons c tail =>
          have hletter : ¬ (c = 'e' ∨ c = 'E') := by
            rintro (rfl | rfl)
            · exact absurd ((endsNumber_cons _ _).1 hrest) (by decide)
            · exact absurd ((endsNumber_cons _ _).1 hrest) (by decide)
          simp [readExponent, hletter]
  | cons c cs =>
      by_cases hletter : c = 'e' ∨ c = 'E'
      · rw [List.cons_append, readExponent_cons hletter, readExponent_cons hletter,
          exponentSign_append hrest, takeWhile_isDigit_append hrest,
          dropWhile_isDigit_append hrest]
        split <;> rfl
      · simp [readExponent, hletter]

/-- What ends a number leaves the parts behind its sign alone. -/
theorem readUnsigned_append (hrest : EndsNumber rest) (negative : Bool) (cs : List Char) :
    readUnsigned negative (cs ++ rest) =
      (readUnsigned negative cs).map fun r => (r.1, r.2 ++ rest) := by
  simp only [readUnsigned, takeWhile_isDigit_append hrest, dropWhile_isDigit_append hrest,
    readFraction_append hrest]
  cases readFraction (cs.dropWhile Char.isDigit) with
  | none => simp
  | some fraction =>
      simp only [Option.map_some, Option.bind_eq_bind, Option.bind_some, readExponent_append hrest]
      cases readExponent fraction.2 with
      | none => simp
      | some exponent => simp [Option.map_bind]

/-- The sign of a number and the rest behind it. -/
def numberSign : List Char → Bool × List Char
  | '-' :: rest => (true, rest)
  | rest => (false, rest)

/-- A number without a sign is positive. -/
theorem numberSign_of_plain {cs : List Char} (hminus : ∀ tail, cs ≠ '-' :: tail) :
    numberSign cs = (false, cs) := by
  unfold numberSign
  split
  · exact absurd rfl (hminus _)
  · rfl

/-- A number is its sign and what stands behind the sign. -/
theorem readNumber_eq (cs : List Char) :
    readNumber cs = (readUnsigned (numberSign cs).1 (numberSign cs).2).bind fun r =>
      r.1.value?.map fun value => (value, r.2) := by
  have hbind (text : Option (NumberText × List Char)) :
      (text >>= fun r => r.1.value? >>= fun value => pure (value, r.2)) =
        text.bind fun r => r.1.value?.map fun value => (value, r.2) := by
    cases text with
    | none => rfl
    | some r => cases hvalue : r.1.value? <;> simp [hvalue]
  unfold readNumber
  split
  · exact hbind _
  · rename_i hminus
    rw [numberSign_of_plain hminus]
    exact hbind _

/-- What ends a number leaves its sign alone. -/
theorem numberSign_append (hrest : EndsNumber rest) (cs : List Char) :
    numberSign (cs ++ rest) = ((numberSign cs).1, (numberSign cs).2 ++ rest) := by
  cases cs with
  | nil =>
      refine numberSign_of_plain ?_
      rintro tail rfl
      exact absurd ((endsNumber_cons _ _).1 hrest) (by decide)
  | cons c cs =>
      by_cases hminus : c = '-'
      · subst hminus
        rfl
      · rw [numberSign_of_plain (by simp [hminus]), numberSign_of_plain (by simp [hminus])]

/-- What ends a number leaves its value alone. -/
theorem readNumber_append (hrest : EndsNumber rest) (cs : List Char) :
    readNumber (cs ++ rest) = (readNumber cs).map fun r => (r.1, r.2 ++ rest) := by
  rw [readNumber_eq, readNumber_eq, numberSign_append hrest, readUnsigned_append hrest]
  cases readUnsigned (numberSign cs).1 (numberSign cs).2 with
  | none => rfl
  | some text => simp [Function.comp_def]

end EndsNumber

/-! ## Integers -/

/-- No number but zero is written with a leading zero. -/
theorem head?_toDigits_ne {n : Nat} (h : 0 < n) : (Nat.toDigits 10 n).head? ≠ some '0' := by
  induction n using Nat.strongRecOn with
  | ind n ih =>
      rw [Nat.toDigits_eq_if (by decide)]
      split
      case isTrue hlt =>
        simpa using Nat.pos_iff_ne_zero.1 h
      case isFalse hge =>
        have hhead := ih (n / 10) (by omega) (by omega)
        cases hdigits : Nat.toDigits 10 (n / 10) with
        | nil => exact absurd hdigits Nat.toDigits_ne_nil
        | cons c cs => simpa [hdigits] using hhead

/-- The digits of a number are digits from the first to the last. -/
theorem takeWhile_toDigits (n : Nat) :
    (Nat.toDigits 10 n).takeWhile Char.isDigit = Nat.toDigits 10 n :=
  List.takeWhile_eq_self_iff.2 fun _ hc => Nat.isDigit_of_mem_toDigits (by decide) (by decide) hc

/-- Nothing stands behind the digits of a number. -/
theorem dropWhile_toDigits (n : Nat) : (Nat.toDigits 10 n).dropWhile Char.isDigit = [] :=
  List.dropWhile_eq_nil_iff.2 fun _ hc => Nat.isDigit_of_mem_toDigits (by decide) (by decide) hc

/-- The digits of a number are read back. -/
theorem natOfDigits_toDigits (n : Nat) : natOfDigits (Nat.toDigits 10 n) = n := by
  have hfold : natOfDigits (Nat.toDigits 10 n) = Nat.ofDigitChars 10 (Nat.toDigits 10 n) 0 := by
    simp only [natOfDigits, Nat.ofDigitChars_eq_foldl, Nat.mul_comm]
    rfl
  rw [hfold, Nat.ofDigitChars_ten_toDigits]

/-- Digits alone are a number without fraction and exponent. -/
theorem readUnsigned_toDigits (negative : Bool) (n : Nat) :
    readUnsigned negative (Nat.toDigits 10 n) =
      some (⟨negative, Nat.toDigits 10 n, none, none⟩, []) := by
  have hshape : (!(Nat.toDigits 10 n).isEmpty &&
      ((Nat.toDigits 10 n).length == 1 || (Nat.toDigits 10 n).head? != some '0')) = true := by
    rcases Nat.eq_zero_or_pos n with rfl | hpos
    · decide
    · simp [Nat.toDigits_ne_nil, head?_toDigits_ne hpos]
  simp only [readUnsigned, takeWhile_toDigits, dropWhile_toDigits, hshape]
  rfl

/-- Integers of 64 bits, with or without a sign, are read back. -/
theorem readNumber_intChars {n : Int} (hlow : -(IntegerRange.signedBound : Int) ≤ n)
    (hhigh : n < IntegerRange.unsignedBound) : readNumber (intChars n) = some (.int n, []) := by
  by_cases hneg : n < 0
  · obtain ⟨m, rfl⟩ : ∃ m : Nat, n = -(m : Int) := ⟨n.natAbs, by omega⟩
    have habs : (-(m : Int)).natAbs = m := by omega
    have hzero : m ≠ 0 := by omega
    have hbound : m ≤ IntegerRange.signedBound := by omega
    rw [intChars, if_pos hneg, habs, readNumber_eq, numberSign, readUnsigned_toDigits]
    simp [NumberText.value?, natOfDigits_toDigits, hzero, hbound]
  · obtain ⟨m, rfl⟩ : ∃ m : Nat, n = (m : Int) := ⟨n.natAbs, by omega⟩
    have habs : (m : Int).natAbs = m := by omega
    have hbound : m < IntegerRange.unsignedBound := by omega
    have hplain (tail : List Char) : Nat.toDigits 10 m ≠ '-' :: tail := by
      intro htail
      have hdigit : '-'.isDigit = true :=
        Nat.isDigit_of_mem_toDigits (b := 10) (n := m) (by decide) (by decide)
          (htail ▸ List.mem_cons_self)
      exact absurd hdigit (by decide)
    rw [intChars, if_neg hneg, habs, readNumber_eq, numberSign_of_plain hplain,
      readUnsigned_toDigits]
    simp [NumberText.value?, natOfDigits_toDigits, hbound]

/-- The digits of a number are characters of numbers. -/
theorem isNumberChar_of_mem_toDigits {n : Nat} {c : Char} (h : c ∈ Nat.toDigits 10 n) :
    isNumberChar c = true := by
  simp [isNumberChar, Nat.isDigit_of_mem_toDigits (by decide) (by decide) h]

/-- Integers are written with the characters of numbers. -/
theorem isNumberChar_of_mem_intChars {n : Int} {c : Char} (h : c ∈ intChars n) :
    isNumberChar c = true := by
  unfold intChars at h
  split at h
  · rcases List.mem_cons.1 h with rfl | h
    · decide
    · exact isNumberChar_of_mem_toDigits h
  · exact isNumberChar_of_mem_toDigits h

/-! ## Reals -/

/-- A decimal is written with the characters of numbers. -/
theorem isNumberChar_of_mem_write {d : Shortest.Decimal} {c : Char}
    (h : c ∈ realLayout.write d) : isNumberChar c = true := by
  have hdigits {n : Nat} (hc : c ∈ Nat.toDigits 10 n) := isNumberChar_of_mem_toDigits hc
  have htake {n k : Nat} (hc : c ∈ (Nat.toDigits 10 n).take k) := hdigits (List.mem_of_mem_take hc)
  have hdrop {n k : Nat} (hc : c ∈ (Nat.toDigits 10 n).drop k) := hdigits (List.mem_of_mem_drop hc)
  have hzeros {n : Nat} (hc : c ∈ Shortest.zeros n) : isNumberChar c = true := by
    rw [(List.mem_replicate.1 hc).2]
    decide
  have hmark (hc : c = '.' ∨ c = '0' ∨ c = 'e' ∨ c = '-' ∨ c = '+') : isNumberChar c = true := by
    rcases hc with rfl | rfl | rfl | rfl | rfl <;> decide
  unfold Shortest.Layout.write at h
  simp only at h
  split at h
  · -- There is no exponent.
    split at h
    · simp only [List.mem_append, List.mem_cons, List.not_mem_nil, or_false] at h
      rcases h with (hc | hc) | hc | hc
      · exact hdigits hc
      · exact hzeros hc
      · exact hmark (by simp [hc])
      · exact hmark (by simp [hc])
    · split at h
      · simp only [List.mem_append, List.mem_cons] at h
        rcases h with hc | hc | hc
        · exact htake hc
        · exact hmark (by simp [hc])
        · exact hdrop hc
      · simp only [List.mem_append, List.mem_cons, List.not_mem_nil, or_false] at h
        rcases h with ((hc | hc) | hc) | hc
        · exact hmark (by simp [hc])
        · exact hmark (by simp [hc])
        · exact hzeros hc
        · exact hdigits hc
  · simp only [List.mem_append, List.mem_cons] at h
    rcases h with (hc | hc) | hc | hc | hc
    · exact htake hc
    · split at hc
      · cases hc
      · rcases List.mem_cons.1 hc with hc | hc
        · exact hmark (by simp [hc])
        · exact hdrop hc
    · exact hmark (by simp [hc])
    · split at hc
      · exact hmark (by simp_all [realLayout])
      · exact hmark (by simp_all)
    · exact hdigits hc

/-- A real is written with the characters of numbers. -/
theorem isNumberChar_of_mem_text {x : Binary64} {c : Char} (h : c ∈ Shortest.text realLayout x) :
    isNumberChar c = true := by
  have hmagnitude (hc : c ∈ if x.isZero then ['0', '.', '0'] else
      realLayout.write (Shortest.decimal x)) : isNumberChar c = true := by
    split at hc
    · simp only [List.mem_cons, List.not_mem_nil, or_false] at hc
      rcases hc with rfl | rfl | rfl <;> decide
    · exact isNumberChar_of_mem_write hc
  unfold Shortest.text at h
  simp only at h
  split at h
  · rcases List.mem_cons.1 h with rfl | hc
    · decide
    · exact hmagnitude hc
  · exact hmagnitude h

/-! ## Strings -/

/-- The digits of an escape are read back. -/
theorem hex4?_hexDigit {n : Nat} (h : n < 32) :
    hex4? '0' '0' (hexDigit (n / 16)) (hexDigit (n % 16)) = some n := by
  revert n
  decide

/-- A character that needs no escape is read as it is. -/
theorem readString_plain {c : Char} (tail : List Char) (hquote : c ≠ '"') (hslash : c ≠ '\\')
    (hhigh : ¬ c.toNat < 0x20) :
    readString (c :: tail) = (readString tail).map fun r => (c :: r.1, r.2) := by
  have hread : ¬ (c.toNat < 0x20 ∨ c = '\\') := by simp [hslash, hhigh]
  rw [readString.eq_def]
  split
  case h_5 =>
    rename_i heq
    obtain ⟨rfl, rfl⟩ := List.cons.inj heq
    rw [if_neg hread]
  all_goals simp_all

/-- A character is read back from its escape. -/
theorem readString_escape_append (c : Char) (tail : List Char) :
    readString (escape c ++ tail) = (readString tail).map fun r => (c :: r.1, r.2) := by
  unfold escape
  split
  case isTrue h => subst h; simp [readString, escaped?]
  case isFalse hquote =>
  split
  case isTrue h => subst h; simp [readString, escaped?]
  case isFalse hslash =>
  split
  case isTrue h => subst h; simp [readString, escaped?]
  case isFalse =>
  split
  case isTrue h => subst h; simp [readString, escaped?]
  case isFalse =>
  split
  case isTrue h => subst h; simp [readString, escaped?]
  case isFalse =>
  split
  case isTrue h => subst h; simp [readString, escaped?]
  case isFalse =>
  split
  case isTrue h => subst h; simp [readString, escaped?]
  case isFalse =>
  split
  case isTrue hlow =>
    have hunit : c.toNat < 0xD800 ∨ 0xDFFF < c.toNat := .inl (by omega)
    simp only [List.cons_append, List.nil_append, readString, hex4?_hexDigit hlow, if_pos hunit,
      Char.ofNat_toNat]
  case isFalse hhigh => exact readString_plain tail hquote hslash hhigh

/-- Strings are read back, up to their closing quotes. -/
theorem readString_escape (cs rest : List Char) :
    readString (cs.flatMap escape ++ '"' :: rest) = some (cs, rest) := by
  induction cs with
  | nil => rfl
  | cons c cs ih =>
      rw [List.flatMap_cons, List.append_assoc, readString_escape_append, ih]
      rfl

end Json
end ProxyControl
