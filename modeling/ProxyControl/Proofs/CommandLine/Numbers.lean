import ProxyControl.CommandLine.Grammar
import ProxyControl.Proofs.Settings.Conversion

/-!
# Numbers on command lines

The readers of numbers stop at the first fault.  Whatever fault that is, a number is read exactly
from its spelling, and only if it lies inside the bounds: the value of decimal digits never falls
when a digit is added, so a limit that is passed on the way is passed at the end.

Main results:

- Theorem `CommandLine.readNumber_eq_ok_iff`: decimal digits up to a limit.
- Theorem `CommandLine.readSigned_eq_ok_iff`: a signed number of 64 bits is read from the spelling
  of an integer.
- Theorem `CommandLine.readPort_eq_ok_iff`: the same for a port.
-/

namespace ProxyControl
namespace CommandLine

variable {limit value n : Nat} {overflow : NumberFault} {cs : List Char}

/-! ## Digits -/

/-- The value of digits never falls. -/
theorem le_ofDigitChars (value : Nat) (cs : List Char) : value ≤ Nat.ofDigitChars 10 cs value := by
  induction cs generalizing value with
  | nil => exact Nat.le_refl value
  | cons c cs ih =>
      rw [Nat.ofDigitChars_cons]
      have hstep := ih (10 * value + (c.toNat - '0'.toNat))
      omega

/-- Digits are read up to a limit that the value so far has not passed. -/
theorem readDigits_eq_ok_iff (hvalue : value ≤ limit) :
    readDigits limit overflow value cs = .ok n ↔
      (∀ c ∈ cs, c.isDigit = true) ∧ n = Nat.ofDigitChars 10 cs value ∧ n ≤ limit := by
  induction cs generalizing value with
  | nil =>
      simp only [readDigits, Except.ok.injEq, List.not_mem_nil, false_implies, implies_true,
        true_and, Nat.ofDigitChars_nil]
      exact ⟨fun h => ⟨h.symm, h ▸ hvalue⟩, fun h => h.1.symm⟩
  | cons c cs ih =>
      have hvalue' : value * 10 + (c.toNat - 48) = 10 * value + (c.toNat - '0'.toNat) := by
        rw [Nat.mul_comm]
        rfl
      rw [readDigits, Nat.ofDigitChars_cons, List.forall_mem_cons]
      by_cases hdigit : c.isDigit = true
      · rw [hdigit, Bool.not_true, if_neg Bool.false_ne_true, hvalue', and_iff_right rfl]
        by_cases hlimit : limit < 10 * value + (c.toNat - '0'.toNat)
        · have hpassed := le_ofDigitChars (10 * value + (c.toNat - '0'.toNat)) cs
          simp only [if_pos hlimit, reduceCtorEq, false_iff]
          rintro ⟨-, rfl, hle⟩
          omega
        · simp only [if_neg hlimit]
          exact ih (Nat.le_of_not_lt hlimit)
      · simp [hdigit]

/-- One or more digits are read up to a limit. -/
theorem readNumber_eq_ok_iff :
    readNumber limit overflow cs = .ok n ↔
      Json.AreDigits cs ∧ n = Nat.ofDigitChars 10 cs 0 ∧ n ≤ limit := by
  rw [readNumber]
  cases cs with
  | nil =>
      simp only [List.isEmpty_nil, if_true, reduceCtorEq, false_iff]
      exact fun h => h.1.nonempty rfl
  | cons c cs =>
      rw [List.isEmpty_cons, if_neg Bool.false_ne_true, readDigits_eq_ok_iff (Nat.zero_le limit)]
      exact and_congr_left fun _ => ⟨fun h => ⟨List.cons_ne_nil c cs, h⟩, fun h => h.digits⟩

/-! ## Signed numbers -/

/-- What digits are read as is passed on with its sign. -/
theorem map_readNumber_eq_ok_iff {f : Nat → Int} {m : Int} :
    (readNumber limit overflow cs).map f = .ok m ↔
      Json.AreDigits cs ∧ m = f (Nat.ofDigitChars 10 cs 0) ∧ Nat.ofDigitChars 10 cs 0 ≤ limit := by
  constructor
  · intro h
    cases hread : readNumber limit overflow cs with
    | error fault =>
        rw [hread] at h
        cases h
    | ok n =>
        rw [hread] at h
        cases h
        obtain ⟨hdigits, rfl, hle⟩ := readNumber_eq_ok_iff.1 hread
        exact ⟨hdigits, rfl, hle⟩
  · rintro ⟨hdigits, rfl, hle⟩
    rw [readNumber_eq_ok_iff.2 ⟨hdigits, rfl, hle⟩]
    rfl

theorem readSigned_minus (cs : List Char) :
    readSigned ('-' :: cs) =
      (readNumber IntegerRange.signedBound .tooSmall cs).map fun n => -Int.ofNat n := by
  rw [readSigned]
  cases readNumber IntegerRange.signedBound .tooSmall cs with
  | error fault => rfl
  | ok n => rfl

/-- A signed number of 64 bits is read from its spelling, if it fits. -/
theorem readSigned_eq_ok_iff {m : Int} :
    readSigned cs = .ok m ↔ SettingKey.SpellsInteger cs m ∧ IntegerRange.fits m = true := by
  have hsmall (k : Nat) : k ≤ IntegerRange.signedBound - 1 ↔ IntegerRange.fits k = true := by
    rw [IntegerRange.fits_iff, IntegerRange.signedBound]
    omega
  have hlarge (k : Nat) : k ≤ IntegerRange.signedBound ↔ IntegerRange.fits (-(k : Int)) = true := by
    rw [IntegerRange.fits_iff, IntegerRange.signedBound]
    omega
  constructor
  · intro h
    by_cases hminus : ∃ rest, cs = '-' :: rest
    · obtain ⟨rest, rfl⟩ := hminus
      rw [readSigned_minus] at h
      obtain ⟨hdigits, rfl, hle⟩ := map_readNumber_eq_ok_iff.1 h
      exact ⟨.minus hdigits, (hlarge _).1 hle⟩
    · unfold readSigned at h
      split at h
      case h_1 => cases h
      case h_2 =>
        obtain ⟨hdigits, rfl, hle⟩ := map_readNumber_eq_ok_iff.1 h
        exact ⟨.plus hdigits, (hsmall _).1 hle⟩
      case h_3 rest => exact absurd ⟨rest, rfl⟩ hminus
      case h_4 =>
        obtain ⟨hdigits, rfl, hle⟩ := map_readNumber_eq_ok_iff.1 h
        exact ⟨.plain hdigits, (hsmall _).1 hle⟩
  · rintro ⟨h, hfits⟩
    cases h with
    | plain h =>
        unfold readSigned
        split
        case h_1 => exact absurd rfl h.nonempty
        case h_2 => exact absurd h (Json.not_areDigits_cons rfl)
        case h_3 => exact absurd h (Json.not_areDigits_cons rfl)
        case h_4 => exact map_readNumber_eq_ok_iff.2 ⟨h, rfl, (hsmall _).2 hfits⟩
    | plus h => exact map_readNumber_eq_ok_iff.2 ⟨h, rfl, (hsmall _).2 hfits⟩
    | minus h =>
        rw [readSigned_minus]
        exact map_readNumber_eq_ok_iff.2 ⟨h, rfl, (hlarge _).2 hfits⟩

/-! ## Ports -/

/-- A port is read from the spelling of an integer in the range of ports. -/
theorem readPort_eq_ok_iff :
    readPort cs = .ok n ↔ SettingKey.SpellsInteger cs n ∧ n ≤ 65535 := by
  constructor
  · intro h
    cases hread : readSigned cs with
    | error fault => simp only [readPort, hread, reduceCtorEq] at h
    | ok m =>
        simp only [readPort, hread] at h
        split at h
        case isFalse => cases h
        case isTrue hrange =>
          cases h
          rw [Int.toNat_of_nonneg hrange.1]
          exact ⟨(readSigned_eq_ok_iff.1 hread).1, by omega⟩
  · rintro ⟨h, hle⟩
    have hread : readSigned cs = .ok (n : Int) :=
      readSigned_eq_ok_iff.2 ⟨h, (IntegerRange.fits_iff _).2 ⟨by omega, by omega⟩⟩
    simp only [readPort, hread]
    rw [if_pos ⟨by omega, by omega⟩, Int.toNat_natCast]

end CommandLine
end ProxyControl
