import Mathlib.Tactic.SplitIfs
import ProxyControl.Text.Utf8

/-!
# Byte order of text

Keys are compared by code point.  This module shows that the order of code points is the
order of the UTF-8 bytes, so that a dictionary in key order is a dictionary in byte order.

Main results:

- Theorem `Utf8.utf8EncodeChar_append_lt`: the bytes of a smaller scalar value come
  first, whatever follows them.
- Theorem `Utf8.encode_lt_encode_iff`: two texts are ordered as their bytes are.
-/

namespace ProxyControl
namespace Text
namespace Utf8

/-! ## One character -/

/-- A scalar value lies below the end of the code space. -/
theorem toNat_val_lt (c : Char) : c.val.toNat < 0x110000 := by
  have hvalid := c.valid
  unfold UInt32.isValidChar Nat.isValidChar at hvalid
  omega

/-- Bytes given as numbers are compared as these numbers. -/
theorem cons_ofNat_lt_cons_iff {a b : Nat} (ha : a < 256) (hb : b < 256) (s t : List UInt8) :
    UInt8.ofNat a :: s < UInt8.ofNat b :: t ↔ a < b ∨ a = b ∧ s < t := by
  rw [List.cons_lt_cons_iff, UInt8.lt_iff_toNat_lt, ← UInt8.toNat_inj, UInt8.toNat_ofNat',
    UInt8.toNat_ofNat', Nat.mod_eq_of_lt ha, Nat.mod_eq_of_lt hb]

/-- The bytes of a smaller scalar value come first, whatever follows them. -/
theorem utf8EncodeChar_append_lt {c d : Char} (h : c < d) (s t : List UInt8) :
    String.utf8EncodeChar c ++ s < String.utf8EncodeChar d ++ t := by
  have hlt : c.val.toNat < d.val.toNat := h
  have hbound : d.val.toNat < 0x110000 := toNat_val_lt d
  unfold String.utf8EncodeChar
  dsimp only
  generalize c.val.toNat = v at *
  generalize d.val.toNat = w at *
  -- The groups of six bits are tied together before the lengths are told apart.
  have hv₂ : v / 64 / 64 = v / 4096 := Nat.div_div_eq_div_mul v 64 64
  have hv₃ : v / 4096 / 64 = v / 262144 := Nat.div_div_eq_div_mul v 4096 64
  have hw₂ : w / 64 / 64 = w / 4096 := Nat.div_div_eq_div_mul w 64 64
  have hw₃ : w / 4096 / 64 = w / 262144 := Nat.div_div_eq_div_mul w 4096 64
  have hv₄ : v / 262144 % 8 = v / 262144 := Nat.mod_eq_of_lt (by omega)
  have hw₄ : w / 262144 % 8 = w / 262144 := Nat.mod_eq_of_lt (by omega)
  split_ifs <;>
    simp (disch := omega) only [List.cons_append, List.nil_append, cons_ofNat_lt_cons_iff] <;>
    omega

/-! ## Whole texts -/

/-- Lists of characters in order have their bytes in order. -/
theorem flatMap_utf8EncodeChar_lt {cs ds : List Char} (h : cs < ds) :
    cs.flatMap String.utf8EncodeChar < ds.flatMap String.utf8EncodeChar := by
  induction h with
  | @nil d ds =>
      rw [List.flatMap_nil, List.flatMap_cons]
      cases hd : String.utf8EncodeChar d with
      | nil => exact absurd hd String.utf8EncodeChar_ne_nil
      | cons b bytes => exact List.Lex.nil
  | cons _ ih =>
      rw [List.flatMap_cons, List.flatMap_cons]
      exact List.append_left_lt ih
  | rel hcd =>
      rw [List.flatMap_cons, List.flatMap_cons]
      exact utf8EncodeChar_append_lt hcd _ _

/-- Two texts are ordered as their bytes are. -/
theorem encode_lt_encode_iff {s t : String} : encode s < encode t ↔ s < t := by
  constructor
  · intro h
    by_cases hst : s < t
    · exact hst
    · have hle : t ≤ s := String.not_lt.1 hst
      by_cases hts : t < s
      · exact absurd h (List.lt_asymm (flatMap_utf8EncodeChar_lt hts))
      · rw [String.le_antisymm hle (String.not_lt.1 hts)] at h
        exact absurd h (List.lt_irrefl _)
  · exact flatMap_utf8EncodeChar_lt

end Utf8
end Text
end ProxyControl
