import Mathlib.Data.List.Induction
import ProxyControl.Proofs.Json.Canonical
import ProxyControl.Proofs.Json.Scanning

/-!
# The grammar of JSON

Which texts stand for a value, said without the reader.  Numbers, strings, arrays and objects are
spelled as the standard of the format has it; blanks may stand around every token.  A number that
is written like an integer of 64 bits is that integer, and every other number is a real, a
negative zero included.

Main results:

- Definition `NumberText.Spelled`: the spellings of a number's parts.
- Definition `SpellsString`: the spellings of a string's content.
- Definitions `Spells`, `Stands`: the spellings of a value, and those with blanks around them.
- Theorem `toDigits_natOfDigits`: digits without a needless zero are those of their value.
- Theorems `NumberText.Spelled.value?_eq_int_iff`, `SpellsWhole.spells`: the integers among the
  numbers.
- Theorems `SpellsNumber.readNumber`, `SpellsString.readString`: spellings are read.
-/

namespace ProxyControl
namespace Json

/-- Blanks that may stand between tokens. -/
def Gap (cs : List Char) : Prop :=
  ∀ c ∈ cs, isGap c = true

/-! ## Numbers -/

/-- One or more decimal digits. -/
structure AreDigits (cs : List Char) : Prop where
  nonempty : cs ≠ []
  digits : ∀ c ∈ cs, c.isDigit = true

/-- Decimal digits without a needless zero in front. -/
structure AreWhole (cs : List Char) : Prop extends AreDigits cs where
  leading : cs.head? = some '0' → cs = ['0']

/-- The spelling of a fraction: nothing, or a point and digits. -/
def SpellsFraction (cs : List Char) : Option (List Char) → Prop
  | none => cs = []
  | some digits => AreDigits digits ∧ cs = '.' :: digits

/-- The spelling of an exponent: nothing, or a letter, a sign that may be missing unless it is
negative, and digits. -/
def SpellsExponent (cs : List Char) : Option (Bool × List Char) → Prop
  | none => cs = []
  | some (negative, digits) =>
    AreDigits digits ∧ ∃ letter sign, (letter = 'e' ∨ letter = 'E') ∧
      (if negative then sign = ['-'] else sign = [] ∨ sign = ['+']) ∧
      cs = letter :: (sign ++ digits)

/-- The spelling of a number with its parts. -/
structure NumberText.Spelled (t : NumberText) (cs : List Char) : Prop where
  whole : AreWhole t.whole
  parts : ∃ fraction exponent, SpellsFraction fraction t.fraction ∧
    SpellsExponent exponent t.exponent ∧
    cs = (if t.negative then ['-'] else []) ++ (t.whole ++ (fraction ++ exponent))

/-- Whether an integer fits 64 bits with or without a sign. -/
def IsWord (n : Int) : Prop :=
  -(IntegerRange.signedBound : Int) ≤ n ∧ n < IntegerRange.unsignedBound

/-- The power of ten that a number's exponent stands for. -/
def NumberText.power (t : NumberText) : Int :=
  match t.exponent with
  | none => 0
  | some (negative, digits) => if negative then -natOfDigits digits else natOfDigits digits

/-- The real that a number's parts stand for, if it is not too large. -/
def NumberText.real? (t : NumberText) : Option Binary64 :=
  (WordDecimal.ofDigits t.whole (t.fraction.getD []) t.power).toReal? t.negative

/-- The spelling of a number.  What is not written like an integer of 64 bits is a real. -/
inductive SpellsNumber : List Char → Json → Prop
  | integer {n : Int} (h : IsWord n) : SpellsNumber (intChars n) (.int n)
  | real {t : NumberText} {cs : List Char} {x : Binary64} (h : t.Spelled cs)
      (other : ∀ n, IsWord n → cs ≠ intChars n) (hx : t.real? = some x) :
      SpellsNumber cs (.real x)

/-- The spelling of a whole number: digits without a fraction and an exponent, perhaps behind a
minus sign. -/
def SpellsWhole (cs : List Char) (n : Int) : Prop :=
  ∃ t : NumberText, t.Spelled cs ∧ t.fraction = none ∧ t.exponent = none ∧
    n = if t.negative then -(natOfDigits t.whole : Int) else natOfDigits t.whole

/-! ## Strings -/

/-- The spelling of a string's content between its quotes: a character that needs no escape, an
escape of one letter, or one of four hexadecimal digits; characters beyond U+FFFF may be a pair
of these. -/
inductive SpellsString : List Char → List Char → Prop
  | nil : SpellsString [] []
  | plain {c : Char} {cs content : List Char} (quote : c ≠ '"') (slash : c ≠ '\\')
      (control : 0x20 ≤ c.toNat) (h : SpellsString cs content) :
      SpellsString (c :: cs) (c :: content)
  | letter {c e : Char} {cs content : List Char} (escape : escaped? c = some e)
      (h : SpellsString cs content) : SpellsString ('\\' :: c :: cs) (e :: content)
  | unit {a b c d : Char} {n : Nat} {cs content : List Char} (digits : hex4? a b c d = some n)
      (scalar : n < 0xD800 ∨ 0xDFFF < n) (h : SpellsString cs content) :
      SpellsString ('\\' :: 'u' :: a :: b :: c :: d :: cs) (Char.ofNat n :: content)
  | pair {a b c d e f g h : Char} {high low : Nat} {cs content : List Char}
      (first : hex4? a b c d = some high) (isHigh : 0xD800 ≤ high ∧ high < 0xDC00)
      (second : hex4? e f g h = some low) (isLow : 0xDC00 ≤ low ∧ low ≤ 0xDFFF)
      (hcs : SpellsString cs content) :
      SpellsString ('\\' :: 'u' :: a :: b :: c :: d :: '\\' :: 'u' :: e :: f :: g :: h :: cs)
        (Char.ofNat (0x10000 + (high - 0xD800) * 0x400 + (low - 0xDC00)) :: content)

/-- The spelling of a key with blanks around it. -/
inductive SpellsKey : List Char → String → Prop
  | mk {before cs content after : List Char} (hbefore : Gap before) (h : SpellsString cs content)
      (hafter : Gap after) :
      SpellsKey (before ++ '"' :: (cs ++ '"' :: after)) (String.ofList content)

/-! ## Values -/

mutual

/-- The spelling of a value, without blanks around it. -/
inductive Spells : List Char → Json → Prop
  | null : Spells ['n', 'u', 'l', 'l'] .null
  | true : Spells ['t', 'r', 'u', 'e'] (.bool true)
  | false : Spells ['f', 'a', 'l', 's', 'e'] (.bool false)
  | number {cs : List Char} {v : Json} (h : SpellsNumber cs v) : Spells cs v
  | string {cs content : List Char} (h : SpellsString cs content) :
      Spells ('"' :: (cs ++ ['"'])) (.str (String.ofList content))
  | emptyArray {gap : List Char} (h : Gap gap) : Spells ('[' :: (gap ++ [']'])) (.arr [])
  | array {cs : List Char} {items : List Json} (h : SpellsItems cs items) :
      Spells ('[' :: (cs ++ [']'])) (.arr items)
  | emptyObject {gap : List Char} (h : Gap gap) :
      Spells ('\x7b' :: (gap ++ ['\x7d'])) (.obj [])
  | object {cs : List Char} {members : List (String × Json)} (h : SpellsMembers cs members) :
      Spells ('\x7b' :: (cs ++ ['\x7d'])) (.obj members)

/-- A value with blanks around it. -/
inductive Stands : List Char → Json → Prop
  | mk {before cs after : List Char} {v : Json} (hbefore : Gap before) (h : Spells cs v)
      (hafter : Gap after) : Stands (before ++ (cs ++ after)) v

/-- The items of an array, with commas between them. -/
inductive SpellsItems : List Char → List Json → Prop
  | last {cs : List Char} {v : Json} (h : Stands cs v) : SpellsItems cs [v]
  | more {cs rest : List Char} {v : Json} {items : List Json} (h : Stands cs v)
      (hrest : SpellsItems rest items) : SpellsItems (cs ++ ',' :: rest) (v :: items)

/-- The members of an object, with commas between them. -/
inductive SpellsMembers : List Char → List (String × Json) → Prop
  | last {head cs : List Char} {key : String} {v : Json} (hkey : SpellsKey head key)
      (h : Stands cs v) : SpellsMembers (head ++ ':' :: cs) [(key, v)]
  | more {head cs rest : List Char} {key : String} {v : Json} {members : List (String × Json)}
      (hkey : SpellsKey head key) (h : Stands cs v) (hrest : SpellsMembers rest members) :
      SpellsMembers (head ++ ':' :: (cs ++ ',' :: rest)) ((key, v) :: members)

end

/-! ## Integers among the numbers -/

section Numbers

variable {cs rest : List Char}

/-- A sign is no digit. -/
theorem not_areDigits_cons {c : Char} (hc : c.isDigit = false) : ¬ AreDigits (c :: cs) := by
  intro h
  rw [h.digits c List.mem_cons_self] at hc
  cases hc

/-- Digits are taken off the front of a text as far as they go. -/
theorem AreDigits.takeWhile_append (h : AreDigits cs)
    (hrest : ∀ c ∈ rest.head?, c.isDigit = false) :
    (cs ++ rest).takeWhile Char.isDigit = cs ∧ (cs ++ rest).dropWhile Char.isDigit = rest := by
  rw [List.takeWhile_append_of_pos h.digits, List.dropWhile_append_of_pos h.digits]
  cases rest with
  | nil => simp
  | cons c rest => simp [hrest c rfl]

/-- The digits are the characters from U+0030 to U+0039. -/
theorem toNat_of_isDigit {c : Char} (h : c.isDigit = true) : 48 ≤ c.toNat ∧ c.toNat ≤ 57 := by
  simpa [Char.isDigit, UInt32.le_iff_toNat_le] using h

/-- A digit is the digit of its value. -/
theorem digitChar_of_isDigit {c : Char} (h : c.isDigit = true) :
    Nat.digitChar (c.toNat - 48) = c := by
  obtain ⟨hlow, hhigh⟩ := toNat_of_isDigit h
  have hvalue : (Nat.digitChar (c.toNat - 48)).toNat = c.toNat := by
    rw [Nat.toNat_digitChar_of_lt_ten (by omega)]
    omega
  exact Char.toNat_inj.1 hvalue

/-- One more digit makes the number ten times as large, and adds its own value. -/
theorem natOfDigits_concat (cs : List Char) (c : Char) :
    natOfDigits (cs ++ [c]) = 10 * natOfDigits cs + (c.toNat - 48) := by
  simp [natOfDigits, Nat.mul_comm]

/-- Digits without a needless zero in front are those of their value. -/
theorem toDigits_natOfDigits (h : AreWhole cs) : Nat.toDigits 10 (natOfDigits cs) = cs := by
  induction cs using List.reverseRecOn with
  | nil => exact absurd rfl h.nonempty
  | append_singleton init c ih =>
      have hc : c.isDigit = true := h.digits c (by simp)
      obtain ⟨hlow, hhigh⟩ := toNat_of_isDigit hc
      have hlast : Nat.toDigits 10 (c.toNat - 48) = [c] := by
        rw [Nat.toDigits_of_lt_base (by omega), digitChar_of_isDigit hc]
      cases init with
      | nil => simpa [natOfDigits] using hlast
      | cons first init =>
          have hzero : first ≠ '0' := by
            rintro rfl
            simpa using h.leading rfl
          have hinit : AreWhole (first :: init) :=
            ⟨⟨List.cons_ne_nil _ _, fun d hd => h.digits d (List.mem_append_left _ hd)⟩,
              fun hhead => absurd (Option.some.inj hhead) hzero⟩
          have hpos : 0 < natOfDigits (first :: init) := by
            refine Nat.pos_of_ne_zero fun hnil => hzero ?_
            have hdigits := ih hinit
            rw [hnil, Nat.toDigits_zero] at hdigits
            exact (List.cons.inj hdigits).1.symm
          rw [natOfDigits_concat, ← Nat.toDigits_append_toDigits (by decide) hpos (by omega),
            ih hinit, hlast]

/-! ### The parts of a number -/

/-- What the reader takes for a fraction is the spelling of one. -/
theorem spellsFraction_of_readFraction {fraction : Option (List Char)}
    (h : readFraction cs = some (fraction, rest)) :
    ∃ part, SpellsFraction part fraction ∧ cs = part ++ rest := by
  unfold readFraction at h
  split at h
  · rename_i tail
    simp only at h
    split at h
    case isTrue => cases h
    case isFalse hdigits =>
      obtain ⟨rfl, rfl⟩ := Prod.mk.inj (Option.some.inj h)
      refine ⟨_, ⟨⟨by simpa using hdigits, fun c hc => List.mem_takeWhile_imp hc⟩, rfl⟩, ?_⟩
      rw [List.cons_append, List.takeWhile_append_dropWhile]
  · obtain ⟨rfl, rfl⟩ := Prod.mk.inj (Option.some.inj h)
    exact ⟨[], rfl, rfl⟩

/-- A fraction is read in full, provided that no digit and no point comes after it. -/
theorem readFraction_of_spells {part : List Char} {fraction : Option (List Char)}
    (h : SpellsFraction part fraction) (hrest : ∀ c ∈ rest.head?, c.isDigit = false ∧ c ≠ '.') :
    readFraction (part ++ rest) = some (fraction, rest) := by
  cases fraction with
  | none =>
      cases h
      cases rest with
      | nil => rfl
      | cons c rest => simp [readFraction, (hrest c rfl).2]
  | some digits =>
      obtain ⟨hdigits, rfl⟩ := h
      obtain ⟨htake, hdrop⟩ := hdigits.takeWhile_append fun c hc => (hrest c hc).1
      simp [readFraction, htake, hdrop, hdigits.nonempty]

/-- What the reader takes for an exponent is the spelling of one. -/
theorem spellsExponent_of_readExponent {exponent : Option (Bool × List Char)}
    (h : readExponent cs = some (exponent, rest)) :
    ∃ part, SpellsExponent part exponent ∧ cs = part ++ rest := by
  cases cs with
  | nil =>
      obtain ⟨rfl, rfl⟩ := Prod.mk.inj (Option.some.inj h)
      exact ⟨[], rfl, rfl⟩
  | cons c tail =>
      by_cases hletter : c = 'e' ∨ c = 'E'
      · rw [readExponent_cons hletter] at h
        split at h
        case isTrue => cases h
        case isFalse hdigits =>
          obtain ⟨rfl, rfl⟩ := Prod.mk.inj (Option.some.inj h)
          obtain ⟨sign, hsign, htail⟩ : ∃ sign,
              (if (exponentSign tail).1 then sign = ['-'] else sign = [] ∨ sign = ['+']) ∧
                tail = sign ++ (exponentSign tail).2 := by
            unfold exponentSign
            split
            · exact ⟨['-'], rfl, rfl⟩
            · exact ⟨['+'], .inr rfl, rfl⟩
            · exact ⟨[], .inl rfl, rfl⟩
          refine ⟨c :: (sign ++ (exponentSign tail).2.takeWhile Char.isDigit),
            ⟨⟨by simpa using hdigits, fun c hc => List.mem_takeWhile_imp hc⟩, c, sign, hletter,
              hsign, rfl⟩, ?_⟩
          rw [List.cons_append, List.append_assoc, List.takeWhile_append_dropWhile, ← htail]
      · simp only [readExponent, if_neg hletter] at h
        obtain ⟨rfl, rfl⟩ := Prod.mk.inj (Option.some.inj h)
        exact ⟨[], rfl, rfl⟩

/-- The spelling of an exponent is read as that exponent. -/
theorem readExponent_of_spells {part : List Char} {exponent : Option (Bool × List Char)}
    (h : SpellsExponent part exponent) : readExponent part = some (exponent, []) := by
  cases exponent with
  | none =>
      cases h
      rfl
  | some parts =>
      obtain ⟨negative, digits⟩ := parts
      obtain ⟨hdigits, letter, sign, hletter, hsign, rfl⟩ := h
      have hplain (c : Char) (hc : c.isDigit = false) (tail : List Char) : digits ≠ c :: tail := by
        rintro rfl
        rw [hdigits.digits c List.mem_cons_self] at hc
        cases hc
      have hread : exponentSign (sign ++ digits) = (negative, digits) := by
        cases negative with
        | true =>
            cases hsign
            rfl
        | false =>
            rcases hsign with rfl | rfl
            · exact exponentSign_of_plain (hplain '-' rfl) (hplain '+' rfl)
            · rfl
      have hend : ∀ c ∈ ([] : List Char).head?, c.isDigit = false := by simp
      obtain ⟨htake, hdrop⟩ := hdigits.takeWhile_append hend
      rw [List.append_nil] at htake hdrop
      rw [readExponent_cons hletter, hread]
      simp [htake, hdrop, hdigits.nonempty]

/-- An exponent begins with its letter. -/
theorem SpellsExponent.head {part : List Char} {exponent : Option (Bool × List Char)}
    (h : SpellsExponent part exponent) : ∀ c ∈ part.head?, c.isDigit = false ∧ c ≠ '.' := by
  cases exponent with
  | none =>
      cases h
      simp
  | some parts =>
      obtain ⟨-, letter, sign, hletter, -, rfl⟩ := h
      rintro c hc
      cases hc
      rcases hletter with rfl | rfl <;> decide

/-- Behind the digits of a number stands no other digit. -/
theorem SpellsFraction.head {fraction exponent : List Char} {digits : Option (List Char)}
    {power : Option (Bool × List Char)} (hfraction : SpellsFraction fraction digits)
    (hexponent : SpellsExponent exponent power) :
    ∀ c ∈ (fraction ++ exponent).head?, c.isDigit = false := by
  cases digits with
  | none =>
      cases hfraction
      exact fun c hc => (hexponent.head c hc).1
  | some digits =>
      obtain ⟨-, rfl⟩ := hfraction
      rintro c hc
      cases hc
      rfl

/-! ### Whole numbers -/

/-- A number that is read is spelled by what is taken off the text. -/
theorem spelled_of_readUnsigned {negative : Bool} {t : NumberText}
    (h : readUnsigned negative cs = some (t, rest)) :
    ∃ part, t.Spelled ((if negative then ['-'] else []) ++ part) ∧ cs = part ++ rest := by
  simp only [readUnsigned, Option.bind_eq_bind, Option.bind_eq_some_iff] at h
  obtain ⟨_, hguard, ⟨digits, afterFraction⟩, hfraction, ⟨power, afterExponent⟩, hexponent, h⟩ := h
  obtain ⟨rfl, rfl⟩ := Prod.mk.inj (Option.some.inj h)
  obtain ⟨fraction, hspellsFraction, hdrop⟩ := spellsFraction_of_readFraction hfraction
  obtain ⟨exponent, hspellsExponent, hleft⟩ := spellsExponent_of_readExponent hexponent
  have hwhole : AreWhole (cs.takeWhile Char.isDigit) := by
    simp only [Option.guard_eq_some', Bool.and_eq_true, Bool.or_eq_true, Bool.not_eq_true',
      List.isEmpty_eq_false_iff, beq_iff_eq, bne_iff_ne] at hguard
    refine ⟨⟨hguard.1, fun c hc => List.mem_takeWhile_imp hc⟩, fun hzero => ?_⟩
    obtain ⟨c, hc⟩ := List.length_eq_one_iff.1 (hguard.2.resolve_right fun hne => hne hzero)
    rw [hc] at hzero ⊢
    rw [Option.some.inj hzero]
  refine ⟨cs.takeWhile Char.isDigit ++ (fraction ++ exponent),
    ⟨hwhole, fraction, exponent, hspellsFraction, hspellsExponent, rfl⟩, ?_⟩
  rw [List.append_assoc, List.append_assoc, ← hleft, ← hdrop, List.takeWhile_append_dropWhile]

/-- A spelling is read as the parts that it has. -/
theorem NumberText.Spelled.readUnsigned {t : NumberText} (h : t.Spelled cs) :
    Json.readUnsigned (numberSign cs).1 (numberSign cs).2 = some (t, []) := by
  obtain ⟨negative, whole, digits, power⟩ := t
  obtain ⟨hwhole, fraction, exponent, hfraction, hexponent, hcs⟩ := h
  simp only at hwhole hfraction hexponent hcs
  have hsign : numberSign cs = (negative, whole ++ (fraction ++ exponent)) := by
    cases negative with
    | true =>
        rw [hcs]
        rfl
    | false =>
        rw [hcs]
        refine numberSign_of_plain fun tail htail => ?_
        cases whole with
        | nil => exact hwhole.nonempty rfl
        | cons c whole =>
            have hc := hwhole.digits c List.mem_cons_self
            rw [(List.cons.inj htail).1] at hc
            cases hc
  obtain ⟨htake, hdrop⟩ := hwhole.takeWhile_append (SpellsFraction.head hfraction hexponent)
  have hshape : (!whole.isEmpty && (whole.length == 1 || whole.head? != some '0')) = true := by
    by_cases hzero : whole.head? = some '0'
    · simp [hwhole.leading hzero]
    · simp [hwhole.nonempty, hzero]
  rw [hsign]
  simp only [Json.readUnsigned, htake, hdrop, hshape,
    readFraction_of_spells hfraction hexponent.head]
  simp [readExponent_of_spells hexponent]

/-- A spelled number is read in full, as the value of its parts. -/
theorem NumberText.Spelled.readNumber {t : NumberText} (h : t.Spelled cs) :
    Json.readNumber cs = t.value?.map fun v => (v, []) := by
  rw [readNumber_eq, h.readUnsigned]
  rfl

/-! ### Integers of 64 bits -/

/-- The value of a number: an integer if it is written like one and fits 64 bits, else a real. -/
theorem NumberText.value?_eq (t : NumberText) :
    t.value? =
      if t.fraction = none ∧ t.exponent = none ∧ t.negative = false ∧
          natOfDigits t.whole < IntegerRange.unsignedBound then
        some (.int (natOfDigits t.whole))
      else if t.fraction = none ∧ t.exponent = none ∧ t.negative = true ∧
          natOfDigits t.whole ≠ 0 ∧ natOfDigits t.whole ≤ IntegerRange.signedBound then
        some (.int (-natOfDigits t.whole))
      else t.real?.map .real := by
  unfold NumberText.value?
  simp only [Bool.and_eq_true, Option.isNone_iff_eq_none, Bool.not_eq_true', decide_eq_true_eq,
    and_assoc]
  rfl

/-- A number is an integer if it is written like an integer of 64 bits. -/
theorem NumberText.Spelled.value?_eq_int_iff {t : NumberText} (h : t.Spelled cs) {n : Int} :
    t.value? = some (.int n) ↔ IsWord n ∧ cs = intChars n := by
  constructor
  · intro hvalue
    obtain ⟨negative, whole, digits, power⟩ := t
    obtain ⟨hwhole, fraction, exponent, hfraction, hexponent, hcs⟩ := h
    rw [value?_eq] at hvalue
    simp only at hwhole hfraction hexponent hcs hvalue
    have habs : Nat.toDigits 10 (natOfDigits whole) = whole := toDigits_natOfDigits hwhole
    split at hvalue
    case isTrue hunsigned =>
      obtain ⟨rfl, rfl, rfl, hbound⟩ := hunsigned
      cases hfraction
      cases hexponent
      cases hvalue
      have hpos : ¬ (natOfDigits whole : Int) < 0 := by omega
      refine ⟨⟨by omega, by omega⟩, ?_⟩
      rw [hcs, intChars, if_neg hpos, Int.natAbs_natCast, habs]
      simp
    split at hvalue
    case isTrue hsigned =>
      obtain ⟨rfl, rfl, rfl, hzero, hbound⟩ := hsigned
      cases hfraction
      cases hexponent
      cases hvalue
      have hneg : -(natOfDigits whole : Int) < 0 := by omega
      have hroom : (0 : Int) < IntegerRange.unsignedBound := by decide
      refine ⟨⟨by omega, by omega⟩, ?_⟩
      rw [hcs, intChars, if_pos hneg, Int.natAbs_neg, Int.natAbs_natCast, habs]
      simp
    case isFalse =>
      obtain ⟨_, -, hreal⟩ := Option.map_eq_some_iff.1 hvalue
      cases hreal
  · rintro ⟨hword, rfl⟩
    have hread := readNumber_intChars hword.1 hword.2
    rw [h.readNumber] at hread
    obtain ⟨v, hv, heq⟩ := Option.map_eq_some_iff.1 hread
    rw [hv, (Prod.mk.inj heq).1]

/-- A whole number has one spelling, except that a zero may have a sign. -/
theorem SpellsWhole.cases {n : Int} (h : SpellsWhole cs n) :
    cs = intChars n ∨ n = 0 ∧ cs = ['-', '0'] := by
  obtain ⟨⟨negative, whole, digits, power⟩, ⟨hwhole, fraction, exponent, hfraction, hexponent, hcs⟩,
    hdigits, hpower, hn⟩ := h
  simp only at hwhole hfraction hexponent hcs hdigits hpower hn
  subst hdigits hpower
  cases hfraction
  cases hexponent
  have hvalue : Nat.toDigits 10 (natOfDigits whole) = whole := toDigits_natOfDigits hwhole
  cases negative with
  | false =>
      have hpos : ¬ n < 0 := by simp [hn]
      refine .inl ?_
      rw [intChars, if_neg hpos, hn]
      simp [hcs, hvalue]
  | true =>
      by_cases hzero : natOfDigits whole = 0
      · rw [hzero, Nat.toDigits_zero] at hvalue
        exact .inr ⟨by simp [hn, hzero], by simp [hcs, ← hvalue]⟩
      · have hneg : n < 0 := by simp only [hn, if_true]; omega
        refine .inl ?_
        rw [intChars, if_pos hneg, hn]
        simp [hcs, hvalue]

/-- A whole number of 64 bits is an integer wherever it stands, unless it is a negative zero. -/
theorem SpellsWhole.spells {n : Int} (h : SpellsWhole cs n) (hword : IsWord n)
    (hsign : cs ≠ ['-', '0']) : Spells cs (.int n) := by
  rcases h.cases with rfl | ⟨-, hzero⟩
  · exact .number (.integer hword)
  · exact absurd hzero hsign

/-! ### Reading numbers -/

/-- The value of a number is an integer or the real of its parts. -/
theorem NumberText.cases_of_value? {t : NumberText} {v : Json} (h : t.value? = some v) :
    (∃ n, v = .int n) ∨ ∃ x, t.real? = some x ∧ v = .real x := by
  rw [value?_eq] at h
  split at h
  · exact .inl ⟨_, (Option.some.inj h).symm⟩
  split at h
  · exact .inl ⟨_, (Option.some.inj h).symm⟩
  · obtain ⟨x, hx, hv⟩ := Option.map_eq_some_iff.1 h
    exact .inr ⟨x, hx, hv.symm⟩

/-- A number that is read is spelled by what is taken off the text. -/
theorem spellsNumber_of_readNumber {v : Json} (h : readNumber cs = some (v, rest)) :
    ∃ part, SpellsNumber part v ∧ cs = part ++ rest := by
  rw [readNumber_eq, Option.bind_eq_some_iff] at h
  obtain ⟨⟨t, left⟩, hread, h⟩ := h
  obtain ⟨value, hvalue, h⟩ := Option.map_eq_some_iff.1 h
  obtain ⟨rfl, rfl⟩ := Prod.mk.inj h
  obtain ⟨part, hpart, hsplit⟩ := spelled_of_readUnsigned hread
  have hcs : cs = ((if (numberSign cs).1 then ['-'] else []) ++ part) ++ left := by
    rw [List.append_assoc, ← hsplit]
    unfold numberSign
    split <;> rfl
  refine ⟨_, ?_, hcs⟩
  rcases t.cases_of_value? hvalue with ⟨n, rfl⟩ | ⟨x, hx, rfl⟩
  · obtain ⟨hword, hint⟩ := hpart.value?_eq_int_iff.1 hvalue
    rw [hint]
    exact .integer hword
  · refine .real hpart (fun n hword hint => ?_) hx
    have hinteger := hpart.value?_eq_int_iff.2 ⟨hword, hint⟩
    rw [hinteger] at hvalue
    cases hvalue

/-- The spelling of a number is read as the number. -/
theorem SpellsNumber.readNumber {v : Json} (h : SpellsNumber cs v) :
    Json.readNumber cs = some (v, []) := by
  cases h with
  | integer hword => exact readNumber_intChars hword.1 hword.2
  | real h other hx =>
      rename_i t x
      have hvalue : t.value? = some (.real x) := by
        have hnone (n : Int) : t.value? ≠ some (.int n) := fun hn => by
          obtain ⟨hword, hint⟩ := h.value?_eq_int_iff.1 hn
          exact other n hword hint
        rw [NumberText.value?_eq] at hnone ⊢
        split
        case isTrue hunsigned => exact absurd (if_pos hunsigned) (hnone _)
        case isFalse hunsigned =>
        split
        case isTrue hsigned => exact absurd ((if_neg hunsigned).trans (if_pos hsigned)) (hnone _)
        case isFalse => rw [hx, Option.map_some]
      rw [h.readNumber, hvalue]
      rfl

/-- Digits are characters of numbers. -/
theorem AreDigits.isNumberChar (h : AreDigits cs) {c : Char} (hc : c ∈ cs) :
    Json.isNumberChar c = true := by
  simp [Json.isNumberChar, h.digits c hc]

/-- A fraction is spelled with characters of numbers. -/
theorem SpellsFraction.isNumberChar {fraction : Option (List Char)}
    (h : SpellsFraction cs fraction) {c : Char} (hc : c ∈ cs) : Json.isNumberChar c = true := by
  cases fraction with
  | none =>
      cases h
      cases hc
  | some digits =>
      obtain ⟨hdigits, rfl⟩ := h
      rcases List.mem_cons.1 hc with rfl | hc
      · rfl
      · exact hdigits.isNumberChar hc

/-- So is an exponent. -/
theorem SpellsExponent.isNumberChar {exponent : Option (Bool × List Char)}
    (h : SpellsExponent cs exponent) {c : Char} (hc : c ∈ cs) : Json.isNumberChar c = true := by
  cases exponent with
  | none =>
      cases h
      cases hc
  | some parts =>
      obtain ⟨negative, digits⟩ := parts
      obtain ⟨hdigits, letter, sign, hletter, hsign, rfl⟩ := h
      have hmark : ∀ d ∈ sign, d = '-' ∨ d = '+' := by
        cases negative with
        | true =>
            cases hsign
            simp
        | false => rcases hsign with rfl | rfl <;> simp
      rcases List.mem_cons.1 hc with rfl | hc
      · rcases hletter with rfl | rfl <;> rfl
      · rcases List.mem_append.1 hc with hc | hc
        · rcases hmark c hc with rfl | rfl <;> rfl
        · exact hdigits.isNumberChar hc

/-- A number is spelled with the characters of numbers. -/
theorem SpellsNumber.isNumberChar {v : Json} (h : SpellsNumber cs v) :
    ∀ c ∈ cs, isNumberChar c = true := by
  cases h with
  | integer hword => exact fun c hc => isNumberChar_of_mem_intChars hc
  | real h _ _ =>
      obtain ⟨hwhole, fraction, exponent, hfraction, hexponent, rfl⟩ := h
      intro c hc
      simp only [List.mem_append] at hc
      rcases hc with hc | hc | hc | hc
      · split at hc
        · rw [List.mem_singleton.1 hc]
          rfl
        · cases hc
      · exact hwhole.toAreDigits.isNumberChar hc
      · exact hfraction.isNumberChar hc
      · exact hexponent.isNumberChar hc

/-- A number is spelled with at least one character. -/
theorem SpellsNumber.ne_nil {v : Json} (h : SpellsNumber cs v) : cs ≠ [] := by
  rintro rfl
  have hread := h.readNumber
  cases hread

end Numbers

/-! ## Reading strings -/

/-- What is read behind a character is the rest of a string. -/
theorem exists_of_map_cons {read : Option (List Char × List Char)} {e : Char}
    {content rest : List Char} (h : (read.map fun r => (e :: r.1, r.2)) = some (content, rest)) :
    ∃ tail, read = some (tail, rest) ∧ content = e :: tail := by
  obtain ⟨r, hr, heq⟩ := Option.map_eq_some_iff.1 h
  obtain ⟨rfl, rfl⟩ := Prod.mk.inj heq
  exact ⟨r.1, hr, rfl⟩

/-- A string that is read is spelled by what stands before its closing quote. -/
theorem spellsString_of_readString {cs content rest : List Char}
    (h : readString cs = some (content, rest)) :
    ∃ part, SpellsString part content ∧ cs = part ++ '"' :: rest := by
  fun_induction readString cs generalizing content with
  | case2 left =>
      obtain ⟨rfl, rfl⟩ := Prod.mk.inj (Option.some.inj h)
      exact ⟨[], .nil, rfl⟩
  | case4 a b c d left n digits scalar ih =>
      obtain ⟨tail, hread, rfl⟩ := exists_of_map_cons h
      obtain ⟨part, hpart, rfl⟩ := ih hread
      exact ⟨_, .unit digits scalar hpart, rfl⟩
  | case7 a b c d high first surrogate isHigh e f g k left low second isLow =>
      rename_i ih
      obtain ⟨tail, hread, rfl⟩ := exists_of_map_cons h
      obtain ⟨part, hpart, rfl⟩ := ih hread
      exact ⟨_, .pair first ⟨by omega, by omega⟩ second isLow hpart, rfl⟩
  | case11 c left _ e escape ih =>
      obtain ⟨tail, hread, rfl⟩ := exists_of_map_cons h
      obtain ⟨part, hpart, rfl⟩ := ih hread
      exact ⟨_, .letter escape hpart, rfl⟩
  | case13 c left quote _ _ plain ih =>
      obtain ⟨tail, hread, rfl⟩ := exists_of_map_cons h
      obtain ⟨part, hpart, rfl⟩ := ih hread
      obtain ⟨control, slash⟩ := not_or.1 plain
      exact ⟨_, .plain quote slash (by omega) hpart, rfl⟩
  | _ => cases h

/-- The spelling of a string's content is read up to its closing quote. -/
theorem SpellsString.readString {cs content : List Char} (h : SpellsString cs content)
    (rest : List Char) : Json.readString (cs ++ '"' :: rest) = some (content, rest) := by
  induction h with
  | nil => rfl
  | plain quote slash control _ ih =>
      rw [List.cons_append, readString_plain _ quote slash (by omega), ih]
      rfl
  | letter escape _ ih =>
      rename_i c e cs content _
      have hu : c ≠ 'u' := by
        rintro rfl
        cases escape
      simp [Json.readString, hu, escape, ih]
  | unit digits scalar _ ih => simp [Json.readString, digits, scalar, ih]
  | pair first isHigh second isLow _ ih =>
      rename_i high low cs content _
      have hsurrogate : ¬ (high < 0xD800 ∨ 0xDFFF < high) := by omega
      have hhigh : ¬ 0xDC00 ≤ high := by omega
      simp [Json.readString, first, hsurrogate, hhigh, second, isLow, ih]

end Json
end ProxyControl
