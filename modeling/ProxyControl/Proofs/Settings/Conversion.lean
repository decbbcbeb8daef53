import Mathlib.Data.List.DropRight
import ProxyControl.Proofs.Json.Grammar
import ProxyControl.Settings.Key

/-!
# The texts of settings

Which texts mean a value of a setting, said without the conversion.  A port is an integer of 64 bits
in decimal digits, perhaps behind a sign; a switch is a word whose case does not matter; blanks
around them do not count.  Every text is a path, as it is.

Main results:

- Structure `Text.Blank.Core`: a text without the blanks around it.
- Definition `SettingKey.SpellsInteger`: the spellings of an integer.
- Definition `SettingKey.Means`: what a text means for a setting.
- Theorem `SettingKey.convert?_eq_some_iff`: a text is converted to what it means.
-/

namespace ProxyControl

/-! ## Blanks around a text -/

namespace Text
namespace Blank

/-- A part of a text with only blanks around it, itself without blanks at its ends. -/
structure Core (cs core : List Char) : Prop where
  around : ∃ before after, (∀ c ∈ before, isBlank c = true) ∧ (∀ c ∈ after, isBlank c = true) ∧
    cs = before ++ (core ++ after)
  first : ∀ c ∈ core.head?, isBlank c = false
  last : ∀ c ∈ core.getLast?, isBlank c = false

/-- Blanks are dropped in front, and then behind. -/
theorem trimList_eq (cs : List Char) :
    trimList cs = (cs.dropWhile isBlank).rdropWhile isBlank :=
  rfl

/-- A list that does not begin with a blank keeps its front. -/
theorem dropWhile_isBlank_of_head? {cs : List Char} (h : ∀ c ∈ cs.head?, isBlank c = false) :
    cs.dropWhile isBlank = cs := by
  cases cs with
  | nil => rfl
  | cons c cs => simp [h c rfl]

/-- What is left of a text without the blanks around it is its core. -/
theorem core_trimList (cs : List Char) : Core cs (trimList cs) := by
  have hright : trimList cs ++ (cs.dropWhile isBlank).rtakeWhile isBlank = cs.dropWhile isBlank :=
    List.rdropWhile_append_rtakeWhile
  refine ⟨⟨cs.takeWhile isBlank, (cs.dropWhile isBlank).rtakeWhile isBlank, ?_, ?_, ?_⟩, ?_, ?_⟩
  · exact fun c hc => List.mem_takeWhile_imp hc
  · exact fun c hc => List.mem_rtakeWhile_imp hc
  · rw [hright, List.takeWhile_append_dropWhile]
  · intro c hc
    have hhead : (cs.dropWhile isBlank).head? = some c := by
      rw [← hright, List.head?_append, hc, Option.some_or]
    have hnot := List.head?_dropWhile_not isBlank cs
    rwa [hhead] at hnot
  · intro c hc
    rw [trimList, List.getLast?_reverse] at hc
    have hnot := List.head?_dropWhile_not isBlank (cs.dropWhile isBlank).reverse
    rwa [hc] at hnot

/-- A text has only one core. -/
theorem Core.eq {cs core : List Char} (h : Core cs core) : trimList cs = core := by
  obtain ⟨⟨before, after, hbefore, hafter, rfl⟩, hfirst, hlast⟩ := h
  have hfront : (before ++ (core ++ after)).dropWhile isBlank = (core ++ after).dropWhile isBlank :=
    List.dropWhile_append_of_pos hbefore
  have hback : (core ++ after).rdropWhile isBlank = core := by
    rw [List.rdropWhile, List.reverse_append,
      List.dropWhile_append_of_pos fun c hc => hafter c (List.mem_reverse.1 hc),
      dropWhile_isBlank_of_head? (by rwa [List.head?_reverse]), List.reverse_reverse]
  rw [trimList_eq, hfront]
  cases core with
  | nil =>
      rw [List.nil_append, List.dropWhile_eq_nil_iff.2 hafter]
      rfl
  | cons c core => rw [dropWhile_isBlank_of_head? (by simpa using hfirst), hback]

end Blank
end Text

namespace SettingKey

/-! ## Integers -/

/-- The spelling of an integer: one or more decimal digits, perhaps behind a sign. -/
inductive SpellsInteger : List Char → Int → Prop
  | plain {digits : List Char} (h : Json.AreDigits digits) :
      SpellsInteger digits (Nat.ofDigitChars 10 digits 0)
  | plus {digits : List Char} (h : Json.AreDigits digits) :
      SpellsInteger ('+' :: digits) (Nat.ofDigitChars 10 digits 0)
  | minus {digits : List Char} (h : Json.AreDigits digits) :
      SpellsInteger ('-' :: digits) (-(Nat.ofDigitChars 10 digits 0 : Int))

/-- Digits are read as their number. -/
theorem digits?_eq_some_iff {cs : List Char} {n : Nat} :
    digits? cs = some n ↔ Json.AreDigits cs ∧ n = Nat.ofDigitChars 10 cs 0 := by
  have hvalue : cs.foldl (fun n c => n * 10 + (c.toNat - 48)) 0 = Nat.ofDigitChars 10 cs 0 := by
    simp only [Nat.ofDigitChars, Nat.mul_comm]
    rfl
  have hdigits : (!cs.isEmpty && cs.all Char.isDigit) = true ↔ Json.AreDigits cs := by
    rw [Bool.and_eq_true, Bool.not_eq_true', List.isEmpty_eq_false_iff, List.all_eq_true]
    exact ⟨fun h => ⟨h.1, h.2⟩, fun h => ⟨h.nonempty, h.digits⟩⟩
  rw [digits?, Option.ite_none_right_eq_some, hdigits, hvalue, Option.some.injEq, eq_comm]

/-- What is found counts if it fits 64 bits. -/
theorem bind_fits_eq_some_iff {found : Option Int} {n : Int} :
    (found.bind fun n => if IntegerRange.fits n then some n else none) = some n ↔
      found = some n ∧ IntegerRange.fits n = true := by
  cases found with
  | none => simp
  | some m =>
      simp only [Option.bind_some, Option.ite_none_right_eq_some, Option.some.injEq]
      exact ⟨fun ⟨hfits, hm⟩ => ⟨hm, hm ▸ hfits⟩, fun ⟨hm, hfits⟩ => ⟨hm ▸ hfits, hm⟩⟩

/-- An integer is read from its spelling, if it fits 64 bits. -/
theorem integer?_eq_some_iff {cs : List Char} {n : Int} :
    integer? cs = some n ↔ SpellsInteger cs n ∧ IntegerRange.fits n = true := by
  constructor
  · intro h
    unfold integer? at h
    split at h
    case h_1 =>
      obtain ⟨hfound, hfits⟩ := bind_fits_eq_some_iff.1 h
      obtain ⟨m, hm, rfl⟩ := Option.map_eq_some_iff.1 hfound
      obtain ⟨k, hk, hkm⟩ := Option.bind_eq_some_iff.1 hm
      obtain rfl := Option.some.inj hkm
      obtain ⟨hdigits, rfl⟩ := digits?_eq_some_iff.1 hk
      exact ⟨.minus hdigits, hfits⟩
    case h_2 =>
      obtain ⟨hfound, hfits⟩ := bind_fits_eq_some_iff.1 h
      obtain ⟨m, hm, rfl⟩ := Option.map_eq_some_iff.1 hfound
      obtain ⟨hdigits, rfl⟩ := digits?_eq_some_iff.1 hm
      exact ⟨.plus hdigits, hfits⟩
    case h_3 =>
      obtain ⟨hfound, hfits⟩ := bind_fits_eq_some_iff.1 h
      obtain ⟨m, hm, rfl⟩ := Option.map_eq_some_iff.1 hfound
      obtain ⟨hdigits, rfl⟩ := digits?_eq_some_iff.1 hm
      exact ⟨.plain hdigits, hfits⟩
  · rintro ⟨h, hfits⟩
    cases h with
    | plain h =>
        unfold integer?
        split
        case h_1 => exact absurd h (Json.not_areDigits_cons rfl)
        case h_2 => exact absurd h (Json.not_areDigits_cons rfl)
        case h_3 =>
          rw [digits?_eq_some_iff.2 ⟨h, rfl⟩]
          exact bind_fits_eq_some_iff.2 ⟨rfl, hfits⟩
    | plus h =>
        simp only [integer?, digits?_eq_some_iff.2 ⟨h, rfl⟩]
        exact bind_fits_eq_some_iff.2 ⟨rfl, hfits⟩
    | minus h =>
        simp only [integer?, digits?_eq_some_iff.2 ⟨h, rfl⟩]
        exact bind_fits_eq_some_iff.2 ⟨rfl, hfits⟩

/-! ## Switches -/

/-- The words that switch a setting on or off. -/
def switchWords (on : Bool) : List String :=
  if on then ["1", "true", "yes", "on"] else ["0", "false", "no", "off"]

/-- A word switches a setting on or off, whatever the case of its ASCII letters. -/
def SpellsSwitch (cs : List Char) (on : Bool) : Prop :=
  ∃ word ∈ switchWords on, cs.map Char.toLower = word.toList

/-- The characters of a text spell one of some words. -/
theorem contains_ofList_iff {words : List String} {cs : List Char} :
    words.contains (String.ofList cs) = true ↔ ∃ word ∈ words, cs = word.toList := by
  rw [List.contains_iff_mem]
  constructor
  · exact fun h => ⟨_, h, String.toList_ofList.symm⟩
  · rintro ⟨word, hmem, rfl⟩
    rwa [String.ofList_toList]

/-- A switch is read from its words and from nothing else. -/
theorem toggle?_eq_some_iff {cs : List Char} {on : Bool} :
    toggle? cs = some on ↔ SpellsSwitch cs on := by
  have hon : onWords.contains (String.ofList (cs.map Char.toLower)) = true ↔ SpellsSwitch cs true :=
    contains_ofList_iff
  have hoff : offWords.contains (String.ofList (cs.map Char.toLower)) = true ↔
      SpellsSwitch cs false :=
    contains_ofList_iff
  -- No word switches both on and off.
  have hnot (h : SpellsSwitch cs true) : ¬ SpellsSwitch cs false := by
    obtain ⟨word, hmem, heq⟩ := h
    rintro ⟨other, hother, heq'⟩
    have hsame : word = other := String.toList_inj.1 (heq.symm.trans heq')
    have hdisjoint : ∀ word ∈ switchWords true, word ∉ switchWords false := by decide
    exact hdisjoint word hmem (hsame ▸ hother)
  rw [toggle?]
  by_cases h : SpellsSwitch cs true
  · rw [if_pos (hon.2 h)]
    cases on with
    | true => simp [h]
    | false => simp [hnot h]
  · rw [if_neg (mt hon.1 h)]
    cases on with
    | true => simp [h]
    | false => rw [Option.ite_none_right_eq_some, hoff, and_iff_left rfl]

/-! ## Values -/

/-- The settings that are switched on or off. -/
def isSwitch : SettingKey → Bool
  | port => false
  | pacFile => false
  | _ => true

/-- What a text means for a setting. -/
inductive Means : SettingKey → String → Json → Prop
  | port {raw : String} {core : List Char} {n : Int} (hcore : Text.Blank.Core raw.toList core)
      (h : SpellsInteger core n)
      (fits : -9223372036854775808 ≤ n ∧ n < 9223372036854775808) : Means port raw (.int n)
  | pacFile (raw : String) : Means pacFile raw (.str raw)
  | switch {key : SettingKey} {raw : String} {core : List Char} {on : Bool}
      (hkey : key.isSwitch = true) (hcore : Text.Blank.Core raw.toList core)
      (h : SpellsSwitch core on) : Means key raw (.bool on)

/-- A text is converted to what it means. -/
theorem convert?_eq_some_iff {key : SettingKey} {raw : String} {value : Json} :
    key.convert? raw = some value ↔ key.Means raw value := by
  have hcore := Text.Blank.core_trimList raw.toList
  constructor
  · intro h
    cases key with
    | port =>
        obtain ⟨n, hn, rfl⟩ := Option.map_eq_some_iff.1 h
        obtain ⟨hspells, hfits⟩ := integer?_eq_some_iff.1 hn
        exact .port hcore hspells ((IntegerRange.fits_iff n).1 hfits)
    | pacFile =>
        cases h
        exact .pacFile raw
    | _ =>
        obtain ⟨on, hon, rfl⟩ := Option.map_eq_some_iff.1 h
        exact .switch rfl hcore (toggle?_eq_some_iff.1 hon)
  · intro h
    cases h with
    | port hcore h fits =>
        rw [convert?, hcore.eq, integer?_eq_some_iff.2 ⟨h, (IntegerRange.fits_iff _).2 fits⟩]
        rfl
    | pacFile => rfl
    | switch hkey hcore h =>
        have hon := toggle?_eq_some_iff.2 h
        cases key with
        | port => cases hkey
        | pacFile => cases hkey
        | _ => simp only [convert?, hcore.eq, hon, Option.map_some]

end SettingKey
end ProxyControl
