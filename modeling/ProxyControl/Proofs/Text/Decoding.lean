import Mathlib.Data.List.Infix
import Mathlib.Tactic.SplitIfs
import ProxyControl.Proofs.Text.ByteOrder

/-!
# Reading UTF-8

A byte string falls into well-formed sequences and, between them, into maximal ill-formed subparts:
bytes that some sequence begins with and that no further byte of the string continues, or a single
byte that no sequence begins with.  This module states that without the reader and shows that the
reader gives exactly these parts.  So a byte string is read as a text if and only if it is the
encoding of that text, and U+FFFD takes the place of the ill-formed subparts and of nothing else.

Main results:

- Structure `IsSubpart`: the maximal ill-formed subparts.
- Relation `Reading`: the parts of a byte string.
- Theorem `pieces_eq_iff`: the reader gives these parts.
- Theorems `decode?_eq_some_iff`, `lossy_encode`: what is read as text.
-/

namespace ProxyControl
namespace Text
namespace Utf8

/-! ## Well-formed sequences -/

section Sequences

variable {c : Char} {a x y z : UInt8}

/-- A byte given as a number is a byte if the numbers are equal. -/
theorem ofNat_eq_iff {n : Nat} (hn : n < 256) {b : UInt8} : UInt8.ofNat n = b ↔ n = b.toNat := by
  rw [← UInt8.toNat_inj, UInt8.toNat_ofNat', Nat.mod_eq_of_lt hn]

/-- The characters whose encoding has one byte, and which byte it is. -/
theorem utf8EncodeChar_eq_one_iff :
    String.utf8EncodeChar c = [a] ↔ a.toNat < 0x80 ∧ c.toNat = a.toNat := by
  unfold String.utf8EncodeChar Char.toNat
  dsimp only
  split_ifs <;> simp (disch := omega) only [List.cons.injEq, ofNat_eq_iff, and_true, reduceCtorEq,
    and_false, false_iff] <;> omega

/-- The characters whose encoding has two bytes, and which bytes they are. -/
theorem utf8EncodeChar_eq_two_iff :
    String.utf8EncodeChar c = [a, x] ↔
      (0xC2 ≤ a.toNat ∧ a.toNat < 0xE0) ∧ (0x80 ≤ x.toNat ∧ x.toNat < 0xC0) ∧
        c.toNat = (a.toNat - 0xC0) * 64 + (x.toNat - 0x80) := by
  unfold String.utf8EncodeChar Char.toNat
  dsimp only
  split_ifs <;> simp (disch := omega) only [List.cons.injEq, ofNat_eq_iff, and_true, reduceCtorEq,
    and_false, false_iff] <;> omega

/-- The second byte tells shorter sequences and surrogates from scalar values. -/
theorem utf8EncodeChar_eq_three_iff :
    String.utf8EncodeChar c = [a, x, y] ↔
      (0xE0 ≤ a.toNat ∧ a.toNat < 0xF0) ∧ (0x80 ≤ x.toNat ∧ x.toNat < 0xC0) ∧
        (a.toNat = 0xE0 → 0xA0 ≤ x.toNat) ∧ (a.toNat = 0xED → x.toNat < 0xA0) ∧
        (0x80 ≤ y.toNat ∧ y.toNat < 0xC0) ∧
        c.toNat = ((a.toNat - 0xE0) * 64 + (x.toNat - 0x80)) * 64 + (y.toNat - 0x80) := by
  have hvalid : c.val.toNat < 0xD800 ∨ 0xDFFF < c.val.toNat ∧ c.val.toNat < 0x110000 := c.valid
  unfold String.utf8EncodeChar Char.toNat
  dsimp only
  split_ifs <;> simp (disch := omega) only [List.cons.injEq, ofNat_eq_iff, and_true, reduceCtorEq,
    and_false, false_iff] <;> omega

/-- The second byte tells shorter sequences and numbers behind the code space from scalar
values. -/
theorem utf8EncodeChar_eq_four_iff :
    String.utf8EncodeChar c = [a, x, y, z] ↔
      (0xF0 ≤ a.toNat ∧ a.toNat < 0xF5) ∧ (0x80 ≤ x.toNat ∧ x.toNat < 0xC0) ∧
        (a.toNat = 0xF0 → 0x90 ≤ x.toNat) ∧ (a.toNat = 0xF4 → x.toNat < 0x90) ∧
        (0x80 ≤ y.toNat ∧ y.toNat < 0xC0) ∧ (0x80 ≤ z.toNat ∧ z.toNat < 0xC0) ∧
        c.toNat = (((a.toNat - 0xF0) * 64 + (x.toNat - 0x80)) * 64 + (y.toNat - 0x80)) * 64 +
          (z.toNat - 0x80) := by
  have hvalid : c.val.toNat < 0xD800 ∨ 0xDFFF < c.val.toNat ∧ c.val.toNat < 0x110000 := c.valid
  unfold String.utf8EncodeChar Char.toNat
  dsimp only
  split_ifs <;> simp (disch := omega) only [List.cons.injEq, ofNat_eq_iff, and_true, reduceCtorEq,
    and_false, false_iff] <;> omega

/-- The first byte of a sequence tells how many bytes follow it. -/
theorem length_of_utf8EncodeChar {bytes : List UInt8} (h : String.utf8EncodeChar c = a :: bytes) :
    a.toNat < 0x80 ∧ bytes.length = 0 ∨ (0xC2 ≤ a.toNat ∧ a.toNat < 0xE0) ∧ bytes.length = 1 ∨
      (0xE0 ≤ a.toNat ∧ a.toNat < 0xF0) ∧ bytes.length = 2 ∨
      (0xF0 ≤ a.toNat ∧ a.toNat < 0xF5) ∧ bytes.length = 3 := by
  have hlength := congrArg List.length h
  rw [String.length_utf8EncodeChar, List.length_cons] at hlength
  have hsize := c.utf8Size_le_four
  rcases bytes with _ | ⟨x, _ | ⟨y, _ | ⟨z, _ | ⟨u, bytes⟩⟩⟩⟩
  · exact .inl ⟨(utf8EncodeChar_eq_one_iff.1 h).1, rfl⟩
  · exact .inr (.inl ⟨(utf8EncodeChar_eq_two_iff.1 h).1, rfl⟩)
  · exact .inr (.inr (.inl ⟨(utf8EncodeChar_eq_three_iff.1 h).1, rfl⟩))
  · exact .inr (.inr (.inr ⟨(utf8EncodeChar_eq_four_iff.1 h).1, rfl⟩))
  · simp only [List.length_cons] at hlength
    omega

/-- No sequence begins with another one. -/
theorem eq_of_utf8EncodeChar_append {c d : Char} {s t : List UInt8}
    (h : String.utf8EncodeChar c ++ s = String.utf8EncodeChar d ++ t) : c = d ∧ s = t := by
  have hcd : c = d := by
    refine Char.le_antisymm (Char.not_lt.1 fun hlt => ?_) (Char.not_lt.1 fun hlt => ?_)
    · exact List.lt_irrefl _ (h ▸ utf8EncodeChar_append_lt hlt t s)
    · exact List.lt_irrefl _ (h ▸ utf8EncodeChar_append_lt hlt s t)
  subst hcd
  exact ⟨rfl, List.append_cancel_left h⟩

end Sequences

/-! ## Beginnings of sequences -/

/-- A range holds the bytes between its ends. -/
theorem ByteRange.holds_iff {r : ByteRange} {b : UInt8} :
    r.holds b = true ↔ r.low.toNat ≤ b.toNat ∧ b.toNat ≤ r.high.toNat := by
  simp [ByteRange.holds, UInt8.le_iff_toNat_le]

/-- The bytes that continue an encoding. -/
theorem ByteRange.holds_tail_iff {b : UInt8} :
    ByteRange.tail.holds b = true ↔ 0x80 ≤ b.toNat ∧ b.toNat < 0xC0 := by
  rw [holds_iff]
  exact and_congr_right fun _ => Nat.lt_succ_iff.symm

/-- The number that bytes complete a beginning to, if there is a byte for each range and it lies
there. -/
def complete? (value : Nat) : List ByteRange → List UInt8 → Option Nat
  | [], [] => some value
  | range :: ranges, b :: bytes =>
    if range.holds b then complete? (value * 64 + (b.toNat - 0x80)) ranges bytes else none
  | _, _ => none

/-- An encoding is complete when every range has had its byte. -/
theorem length_of_complete? {value v : Nat} {ranges : List ByteRange} {bytes : List UInt8}
    (h : complete? value ranges bytes = some v) : bytes.length = ranges.length := by
  fun_induction complete? value ranges bytes with
  | case1 => rfl
  | case2 value range ranges b bytes hb ih => rw [List.length_cons, List.length_cons, ih h]
  | case3 => cases h
  | case4 => cases h

/-- Bytes can be found for ranges that are not empty. -/
theorem exists_complete? {ranges : List ByteRange} (h : ∀ r ∈ ranges, r.low ≤ r.high)
    (value : Nat) : ∃ bytes v, complete? value ranges bytes = some v := by
  induction ranges generalizing value with
  | nil => exact ⟨[], value, rfl⟩
  | cons range ranges ih =>
      obtain ⟨bytes, v, hv⟩ :=
        ih (fun r hr => h r (List.mem_cons_of_mem _ hr)) (value * 64 + (range.low.toNat - 0x80))
      have hlow : range.holds range.low = true :=
        ByteRange.holds_iff.2 ⟨Nat.le_refl _, UInt8.le_iff_toNat_le.1 (h range List.mem_cons_self)⟩
      exact ⟨range.low :: bytes, v, by rw [complete?, if_pos hlow, hv]⟩

/-- The bytes seen are the beginning of the sequences that the ranges let them be completed to. -/
structure Started.Sound (s : Started) : Prop where
  spells : ∀ (c : Char) (bytes : List UInt8), String.utf8EncodeChar c = s.seen ++ bytes ↔
    complete? s.value (s.next :: s.later) bytes = some c.toNat
  valid : ∀ bytes v, complete? s.value (s.next :: s.later) bytes = some v → v.isValidChar
  ranges : ∀ r ∈ s.next :: s.later, r.low ≤ r.high

/-- The beginning is the first byte of a sequence.  Only as many bytes as there are ranges follow
it or complete it. -/
theorem sound_of_spells {b : UInt8} {value : Nat} {next : ByteRange} {later : List ByteRange}
    (hlength : ∀ c bytes, String.utf8EncodeChar c = b :: bytes →
      bytes.length = (next :: later).length)
    (hspells : ∀ c bytes, bytes.length = (next :: later).length →
      (String.utf8EncodeChar c = b :: bytes ↔
        complete? value (next :: later) bytes = some c.toNat))
    (hvalid : ∀ bytes v, complete? value (next :: later) bytes = some v → v.isValidChar)
    (hranges : ∀ r ∈ next :: later, r.low ≤ r.high) :
    Started.Sound ⟨[b], value, next, later⟩ where
  spells c bytes := by
    by_cases h : bytes.length = (next :: later).length
    · exact hspells c bytes h
    · exact iff_of_false (fun hc => h (hlength c bytes hc)) fun hc => h (length_of_complete? hc)
  valid := hvalid
  ranges := hranges

/-- A lead byte of two is followed by one byte that continues it. -/
theorem sound_two {b : UInt8} (hb : 0xC2 ≤ b.toNat ∧ b.toNat < 0xE0) :
    Started.Sound ⟨[b], b.toNat - 0xC0, .tail, []⟩ := by
  refine sound_of_spells (fun c bytes h => ?_) (fun c bytes hlength => ?_) (fun bytes v h => ?_)
    (by decide)
  · have hbytes := length_of_utf8EncodeChar h
    rw [List.length_singleton]
    omega
  · obtain ⟨x, rfl⟩ := List.length_eq_one_iff.1 hlength
    simp only [utf8EncodeChar_eq_two_iff, complete?, ByteRange.holds_tail_iff,
      Option.ite_none_right_eq_some, Option.some.injEq]
    omega
  · obtain ⟨x, rfl⟩ := List.length_eq_one_iff.1 (length_of_complete? h)
    simp only [complete?, ByteRange.holds_tail_iff, Option.ite_none_right_eq_some,
      Option.some.injEq] at h
    unfold Nat.isValidChar
    omega

/-- A lead byte of three is followed by a byte of its own range and one more. -/
theorem sound_three {b : UInt8} {value : Nat} {next : ByteRange}
    (hb : 0xE0 ≤ b.toNat ∧ b.toNat < 0xF0) (hvalue : value = b.toNat - 0xE0)
    (hnext : next.low ≤ next.high)
    (hx : ∀ x : UInt8, next.holds x = true ↔ (0x80 ≤ x.toNat ∧ x.toNat < 0xC0) ∧
      (b.toNat = 0xE0 → 0xA0 ≤ x.toNat) ∧ (b.toNat = 0xED → x.toNat < 0xA0)) :
    Started.Sound ⟨[b], value, next, [.tail]⟩ := by
  refine sound_of_spells (fun c bytes h => ?_) (fun c bytes hlength => ?_) (fun bytes v h => ?_)
    (List.forall_mem_cons.2 ⟨hnext, by decide⟩)
  · have hbytes := length_of_utf8EncodeChar h
    rw [List.length_cons, List.length_singleton]
    omega
  · obtain ⟨x, y, rfl⟩ := List.length_eq_two.1 hlength
    simp only [utf8EncodeChar_eq_three_iff, complete?, hx, ByteRange.holds_tail_iff,
      Option.ite_none_right_eq_some, Option.some.injEq]
    omega
  · obtain ⟨x, y, rfl⟩ := List.length_eq_two.1 (length_of_complete? h)
    simp only [complete?, hx, ByteRange.holds_tail_iff, Option.ite_none_right_eq_some,
      Option.some.injEq] at h
    unfold Nat.isValidChar
    omega

/-- A lead byte of four is followed by a byte of its own range and two more. -/
theorem sound_four {b : UInt8} {value : Nat} {next : ByteRange}
    (hb : 0xF0 ≤ b.toNat ∧ b.toNat < 0xF5) (hvalue : value = b.toNat - 0xF0)
    (hnext : next.low ≤ next.high)
    (hx : ∀ x : UInt8, next.holds x = true ↔ (0x80 ≤ x.toNat ∧ x.toNat < 0xC0) ∧
      (b.toNat = 0xF0 → 0x90 ≤ x.toNat) ∧ (b.toNat = 0xF4 → x.toNat < 0x90)) :
    Started.Sound ⟨[b], value, next, [.tail, .tail]⟩ := by
  refine sound_of_spells (fun c bytes h => ?_) (fun c bytes hlength => ?_) (fun bytes v h => ?_)
    (List.forall_mem_cons.2 ⟨hnext, by decide⟩)
  · have hbytes := length_of_utf8EncodeChar h
    rw [List.length_cons, List.length_cons, List.length_singleton]
    omega
  · obtain ⟨x, y, z, rfl⟩ := List.length_eq_three.1 hlength
    simp only [utf8EncodeChar_eq_four_iff, complete?, hx, ByteRange.holds_tail_iff,
      Option.ite_none_right_eq_some, Option.some.injEq]
    omega
  · obtain ⟨x, y, z, rfl⟩ := List.length_eq_three.1 (length_of_complete? h)
    simp only [complete?, hx, ByteRange.holds_tail_iff, Option.ite_none_right_eq_some,
      Option.some.injEq] at h
    unfold Nat.isValidChar
    omega

/-- What the first byte of a piece says is right. -/
inductive LeadSays (b : UInt8) : Piece ⊕ Started → Prop
  | scalar {c : Char} (h : String.utf8EncodeChar c = [b]) : LeadSays b (.inl (.scalar c))
  | invalid (h : ∀ c bytes, String.utf8EncodeChar c ≠ b :: bytes) :
      LeadSays b (.inl (.invalid [b]))
  | starts {s : Started} (sound : s.Sound) (seen : s.seen = [b]) : LeadSays b (.inr s)

/-- A code point that is a character has that number. -/
theorem toNat_ofNat_of_valid {n : Nat} (h : n.isValidChar) : (Char.ofNat n).toNat = n := by
  unfold Char.ofNat Char.ofNatAux Char.toNat
  simp [h]

/-- A byte that is neither a sequence nor the beginning of one stands alone. -/
theorem ne_of_lead_range {b : UInt8} (h : 0x80 ≤ b.toNat ∧ b.toNat < 0xC2 ∨ 0xF5 ≤ b.toNat)
    (c : Char) (bytes : List UInt8) : String.utf8EncodeChar c ≠ b :: bytes := by
  intro hc
  have hbytes := length_of_utf8EncodeChar hc
  omega

/-- What a first byte says about its encoding is right. -/
theorem leadSays (b : UInt8) : LeadSays b (lead b) := by
  have hb := b.toNat_lt
  unfold lead
  split_ifs with h₁ h₂ h₃ h₄ h₅ h₆ h₇ h₈ h₉ <;>
    simp only [UInt8.lt_iff_toNat_lt, ← UInt8.toNat_inj, UInt8.reduceToNat] at *
  · refine .scalar (utf8EncodeChar_eq_one_iff.2 ⟨h₁, toNat_ofNat_of_valid ?_⟩)
    exact .inl (by omega)
  · exact .invalid (ne_of_lead_range (by omega))
  · exact .starts (sound_two (by omega)) rfl
  · refine .starts (sound_three (by omega) (by omega) (by decide) fun x => ?_) rfl
    rw [ByteRange.holds_iff]
    simp only [UInt8.reduceToNat]
    omega
  · refine .starts (sound_three (by omega) (by omega) (by decide) fun x => ?_) rfl
    rw [ByteRange.holds_iff]
    simp only [UInt8.reduceToNat]
    omega
  · refine .starts (sound_three (by omega) rfl (by decide) fun x => ?_) rfl
    rw [ByteRange.holds_tail_iff]
    omega
  · refine .starts (sound_four (by omega) (by omega) (by decide) fun x => ?_) rfl
    rw [ByteRange.holds_iff]
    simp only [UInt8.reduceToNat]
    omega
  · refine .starts (sound_four (by omega) rfl (by decide) fun x => ?_) rfl
    rw [ByteRange.holds_tail_iff]
    omega
  · refine .starts (sound_four (by omega) (by omega) (by decide) fun x => ?_) rfl
    rw [ByteRange.holds_iff]
    simp only [UInt8.reduceToNat]
    omega
  · exact .invalid (ne_of_lead_range (by omega))

/-- The next byte of a beginning that goes on. -/
theorem Started.Sound.next {seen : List UInt8} {value : Nat} {range next : ByteRange}
    {later : List ByteRange} (h : Started.Sound ⟨seen, value, range, next :: later⟩) {b : UInt8}
    (hb : range.holds b = true) :
    Started.Sound ⟨seen ++ [b], value * 64 + (b.toNat - 0x80), next, later⟩ where
  spells c bytes := by
    have hspells := h.spells c (b :: bytes)
    rw [complete?, if_pos hb] at hspells
    rwa [List.append_assoc, List.singleton_append]
  valid bytes v hv := h.valid (b :: bytes) v (by rwa [complete?, if_pos hb])
  ranges r hr := h.ranges r (List.mem_cons_of_mem _ hr)

/-- The last byte of a sequence. -/
theorem Started.Sound.last {seen : List UInt8} {value : Nat} {range : ByteRange}
    (h : Started.Sound ⟨seen, value, range, []⟩) {b : UInt8} (hb : range.holds b = true) :
    String.utf8EncodeChar (Char.ofNat (value * 64 + (b.toNat - 0x80))) = seen ++ [b] := by
  have hcomplete : complete? value [range] [b] = some (value * 64 + (b.toNat - 0x80)) := by
    rw [complete?, if_pos hb, complete?]
  rw [h.spells, toNat_ofNat_of_valid (h.valid _ _ hcomplete)]
  exact hcomplete

/-! ## Ill-formed subparts -/

/-- Bytes that some sequence begins with. -/
def Begins (part : List UInt8) : Prop :=
  ∃ c, part <+: String.utf8EncodeChar c

/-- A maximal ill-formed subpart, in front of other bytes. -/
structure IsSubpart (part rest : List UInt8) : Prop where
  ne_nil : part ≠ []
  /-- Some sequence begins with it, or it is a single byte. -/
  begins : Begins part ∨ part.length = 1
  /-- No sequence stands in its place. -/
  illFormed : ∀ c, ¬ String.utf8EncodeChar c <+: part ++ rest
  /-- With a further byte it is not the beginning of a sequence. -/
  longest : ∀ longer, longer <+: part ++ rest → Begins longer → longer.length ≤ part.length

/-- A byte that no sequence begins with is a subpart by itself. -/
theorem isSubpart_singleton {b : UInt8} (h : ∀ c bytes, String.utf8EncodeChar c ≠ b :: bytes)
    (rest : List UInt8) : IsSubpart [b] rest where
  ne_nil := List.cons_ne_nil _ _
  begins := .inr rfl
  illFormed c hc := by
    obtain ⟨t, ht⟩ := hc
    cases hbytes : String.utf8EncodeChar c with
    | nil => exact String.utf8EncodeChar_ne_nil hbytes
    | cons a bytes =>
        rw [hbytes] at ht
        exact h c bytes (hbytes.trans (congrArg (· :: bytes) (List.cons.inj ht).1))
  longest longer hlonger hbegins := by
    obtain ⟨c, u, hc⟩ := hbegins
    obtain ⟨t, ht⟩ := hlonger
    cases longer with
    | nil => exact Nat.zero_le _
    | cons a longer =>
        obtain rfl := (List.cons.inj ht).1
        exact absurd hc.symm (h c _)

namespace Started.Sound

variable {s : Started}

/-- Some sequence begins with the bytes seen, and is longer. -/
theorem exists_longer (h : s.Sound) :
    ∃ c b bytes, String.utf8EncodeChar c = s.seen ++ b :: bytes := by
  obtain ⟨bytes, v, hv⟩ := exists_complete? h.ranges s.value
  have hc := (h.spells (Char.ofNat v) bytes).2
    (by rw [hv, toNat_ofNat_of_valid (h.valid bytes v hv)])
  cases bytes with
  | nil => cases length_of_complete? hv
  | cons b bytes => exact ⟨_, b, bytes, hc⟩

/-- What has been seen of an encoding is the beginning of one. -/
theorem begins (h : s.Sound) : Begins s.seen := by
  obtain ⟨c, b, bytes, hc⟩ := h.exists_longer
  exact ⟨c, b :: bytes, hc.symm⟩

/-- No sequence goes on with a byte outside the next range. -/
theorem not_begins (h : s.Sound) {b : UInt8} (hb : s.next.holds b = false) (rest : List UInt8) :
    ¬ Begins (s.seen ++ b :: rest) := by
  rintro ⟨c, t, hc⟩
  rw [List.append_assoc, List.cons_append] at hc
  have hcomplete := (h.spells c _).1 hc.symm
  rw [complete?, if_neg (by simp [hb])] at hcomplete
  cases hcomplete

/-- The bytes seen are a subpart if what follows them does not go on. -/
theorem isSubpart (h : s.Sound) (hseen : s.seen ≠ []) {rest : List UInt8}
    (hrest : ∀ b bytes, rest = b :: bytes → s.next.holds b = false) : IsSubpart s.seen rest := by
  have hlongest (longer : List UInt8) (hlonger : longer <+: s.seen ++ rest)
      (hbegins : Begins longer) : longer.length ≤ s.seen.length := by
    refine Nat.le_of_not_lt fun hlt => ?_
    obtain ⟨t, rfl⟩ :=
      List.prefix_of_prefix_length_le (List.prefix_append s.seen rest) hlonger (Nat.le_of_lt hlt)
    obtain ⟨u, hu⟩ := (List.prefix_append_right_inj s.seen).1 hlonger
    cases t with
    | nil => simp at hlt
    | cons b t => exact h.not_begins (hrest b _ hu.symm) t hbegins
  refine ⟨hseen, .inl h.begins, fun c hc => ?_, hlongest⟩
  -- A whole sequence would be a beginning of a longer one.
  obtain ⟨t, ht⟩ := List.prefix_of_prefix_length_le hc (List.prefix_append s.seen rest)
    (hlongest _ hc ⟨c, List.prefix_rfl⟩)
  obtain ⟨d, b, bytes, hd⟩ := h.exists_longer
  rw [← ht, List.append_assoc] at hd
  obtain ⟨-, hnil⟩ := eq_of_utf8EncodeChar_append ((List.append_nil _).trans hd)
  cases t <;> cases hnil

end Started.Sound

/-! ## The parts of a byte string -/

/-- The parts of a byte string are sequences and maximal ill-formed subparts.  A subpart that could
go on behind the end of the string is incomplete. -/
inductive Reading : List UInt8 → List Piece → Prop
  | nil : Reading [] []
  | scalar (c : Char) {rest : List UInt8} {ps : List Piece} (hrest : Reading rest ps) :
      Reading (String.utf8EncodeChar c ++ rest) (.scalar c :: ps)
  | invalid {part rest : List UInt8} {ps : List Piece} (subpart : IsSubpart part rest)
      (cut : Begins part → rest ≠ []) (hrest : Reading rest ps) :
      Reading (part ++ rest) (.invalid part :: ps)
  | incomplete {part : List UInt8} (subpart : IsSubpart part []) (begins : Begins part) :
      Reading part [.incomplete part]

/-- The pieces of a byte string are a reading of it, also when the beginning of an encoding has been
seen already. The induction takes off one byte; a byte that does not continue the encoding is looked
at again as a first one. -/
theorem reading_piecesFrom (bytes : List UInt8) :
    Reading bytes (piecesFrom none bytes) ∧
      ∀ s : Started, s.Sound → s.seen ≠ [] →
        Reading (s.seen ++ bytes) (piecesFrom (some s) bytes) := by
  induction bytes with
  | nil =>
      refine ⟨.nil, fun s hs hseen => ?_⟩
      rw [List.append_nil]
      exact .incomplete (hs.isSubpart hseen (by simp)) hs.begins
  | cons b bytes ih =>
      obtain ⟨ihNone, ihSome⟩ := ih
      have hnone : Reading (b :: bytes) (piecesFrom none (b :: bytes)) := by
        have hlead := leadSays b
        rw [piecesFrom]
        generalize lead b = found at hlead
        cases hlead with
        | @scalar c hc =>
            have hreading := Reading.scalar c ihNone
            rwa [hc] at hreading
        | invalid hno =>
            have hcut : Begins [b] → bytes ≠ [] := by
              rintro ⟨c, t, hc⟩
              exact absurd hc.symm (hno c t)
            exact .invalid (isSubpart_singleton hno bytes) hcut ihNone
        | @starts s sound seen =>
            have hreading := ihSome s sound (by simp [seen])
            rwa [seen] at hreading
      refine ⟨hnone, fun s hs hseen => ?_⟩
      cases hb : s.next.holds b with
      | false =>
          have hcut : piecesFrom (some s) (b :: bytes) =
              .invalid s.seen :: piecesFrom none (b :: bytes) := by
            simp only [piecesFrom, hb]
            cases lead b <;> rfl
          rw [hcut]
          refine .invalid (hs.isSubpart hseen fun a _ ha => ?_) (fun _ => List.cons_ne_nil _ _)
            hnone
          rwa [← (List.cons.inj ha).1]
      | true =>
          obtain ⟨seen, value, range, later⟩ := s
          cases later with
          | nil =>
              have hreading := Reading.scalar (Char.ofNat (value * 64 + (b.toNat - 0x80))) ihNone
              rw [hs.last hb, List.append_assoc, List.singleton_append] at hreading
              simpa only [piecesFrom, if_pos hb] using hreading
          | cons next later =>
              have hreading := ihSome _ (hs.next hb) (by simp)
              rw [List.append_assoc, List.singleton_append] at hreading
              simpa only [piecesFrom, if_pos hb] using hreading

/-- The reader gives the parts of a byte string. -/
theorem reading_pieces (bytes : List UInt8) : Reading bytes (pieces bytes) :=
  (reading_piecesFrom bytes).1

/-! ## There are no other parts -/

/-- No byte string begins both with an ill-formed part and with an encoding. -/
theorem IsSubpart.ne_utf8EncodeChar_append {part rest : List UInt8} (h : IsSubpart part rest)
    (c : Char) (bytes : List UInt8) : String.utf8EncodeChar c ++ bytes ≠ part ++ rest :=
  fun heq => h.illFormed c ⟨bytes, heq⟩

/-- Two subparts at the beginning of a string are the same. -/
theorem IsSubpart.eq {part part' rest rest' : List UInt8} (h : IsSubpart part rest)
    (h' : IsSubpart part' rest') (heq : part ++ rest = part' ++ rest') :
    part = part' ∧ rest = rest' := by
  have hle {p p' r r' : List UInt8} (hp : IsSubpart p r) (hp' : IsSubpart p' r')
      (heq : p ++ r = p' ++ r') : p.length ≤ p'.length := by
    rcases hp.begins with begins | hone
    · exact hp'.longest p (heq ▸ List.prefix_append p r) begins
    · rw [hone]
      exact List.length_pos_of_ne_nil hp'.ne_nil
  exact List.append_inj heq (Nat.le_antisymm (hle h h' heq) (hle h' h heq.symm))

/-- A byte string has one list of parts. -/
theorem Reading.eq {bytes : List UInt8} {ps qs : List Piece} (h : Reading bytes ps)
    (h' : Reading bytes qs) : ps = qs := by
  induction h generalizing qs with
  | nil =>
      generalize hbytes : ([] : List UInt8) = bytes at h'
      cases h' with
      | nil => rfl
      | scalar c _ =>
          exact absurd (List.append_eq_nil_iff.1 hbytes.symm).1 String.utf8EncodeChar_ne_nil
      | invalid subpart _ _ => exact absurd (List.append_eq_nil_iff.1 hbytes.symm).1 subpart.ne_nil
      | incomplete subpart _ => exact absurd hbytes.symm subpart.ne_nil
  | @scalar c rest ps _ ih =>
      generalize hbytes : String.utf8EncodeChar c ++ rest = bytes at h'
      cases h' with
      | nil => exact absurd (List.append_eq_nil_iff.1 hbytes).1 String.utf8EncodeChar_ne_nil
      | scalar d hrest =>
          obtain ⟨rfl, rfl⟩ := eq_of_utf8EncodeChar_append hbytes
          rw [ih hrest]
      | invalid subpart _ _ => exact absurd hbytes (subpart.ne_utf8EncodeChar_append c rest)
      | incomplete subpart _ =>
          exact absurd (hbytes.trans (List.append_nil _).symm)
            (subpart.ne_utf8EncodeChar_append c rest)
  | @invalid part rest ps subpart cut _ ih =>
      generalize hbytes : part ++ rest = bytes at h'
      cases h' with
      | nil => exact absurd (List.append_eq_nil_iff.1 hbytes).1 subpart.ne_nil
      | scalar d hrest => exact absurd hbytes.symm (subpart.ne_utf8EncodeChar_append d _)
      | invalid subpart' _ hrest =>
          obtain ⟨rfl, rfl⟩ := subpart.eq subpart' hbytes
          rw [ih hrest]
      | incomplete subpart' begins =>
          obtain ⟨rfl, hnil⟩ := subpart.eq subpart' (hbytes.trans (List.append_nil _).symm)
          exact absurd hnil (cut begins)
  | @incomplete part subpart begins =>
      generalize hbytes : part = bytes at h'
      cases h' with
      | nil => exact absurd hbytes subpart.ne_nil
      | scalar d _ =>
          exact absurd (hbytes.symm.trans (List.append_nil _).symm)
            (subpart.ne_utf8EncodeChar_append d _)
      | invalid subpart' cut' _ =>
          obtain ⟨rfl, hnil⟩ := subpart.eq subpart' ((List.append_nil _).trans hbytes)
          exact absurd hnil.symm (cut' begins)
      | incomplete _ _ => rfl

/-- The reader gives the parts of a byte string and no other ones. -/
theorem pieces_eq_iff {bytes : List UInt8} {ps : List Piece} :
    pieces bytes = ps ↔ Reading bytes ps :=
  ⟨fun h => h ▸ reading_pieces bytes, (reading_pieces bytes).eq⟩

/-! ## Texts -/

/-- The characters of a text are a reading of its bytes. -/
theorem reading_encode (cs : List Char) :
    Reading (cs.flatMap String.utf8EncodeChar) (cs.map .scalar) := by
  induction cs with
  | nil => exact .nil
  | cons c cs ih => exact .scalar c ih

/-- The parts of a byte string are all of its bytes. -/
theorem Reading.flatMap_bytes {bytes : List UInt8} {ps : List Piece} (h : Reading bytes ps) :
    ps.flatMap Piece.bytes = bytes := by
  induction h with
  | nil => rfl
  | scalar c _ ih => rw [List.flatMap_cons, ih, Piece.bytes]
  | invalid _ _ _ ih => rw [List.flatMap_cons, ih, Piece.bytes]
  | incomplete _ _ => exact List.append_nil _

/-- Pieces are characters just when each of them is one. -/
theorem mapM_scalar?_eq_some_iff {ps : List Piece} {cs : List Char} :
    ps.mapM Piece.scalar? = some cs ↔ ps = cs.map .scalar := by
  induction ps generalizing cs with
  | nil => cases cs <;> simp
  | cons p ps ih =>
      cases p with
      | scalar c =>
          cases cs with
          | nil => simp [List.mapM_cons, Piece.scalar?, Option.bind_eq_some_iff]
          | cons d ds => simp [List.mapM_cons, Piece.scalar?, Option.bind_eq_some_iff, ih, and_comm]
      | invalid _ => cases cs <;> simp [List.mapM_cons, Piece.scalar?]
      | incomplete _ => cases cs <;> simp [List.mapM_cons, Piece.scalar?]

/-- A byte string is read as a text if it is the encoding of that text. -/
theorem decode?_eq_some_iff {bytes : List UInt8} {text : String} :
    decode? bytes = some text ↔ bytes = encode text := by
  rw [decode?, Option.map_eq_some_iff]
  constructor
  · rintro ⟨cs, hcs, rfl⟩
    have hreading := reading_pieces bytes
    rw [mapM_scalar?_eq_some_iff.1 hcs] at hreading
    rw [← hreading.flatMap_bytes, encode, String.toList_ofList, List.flatMap_map]
    rfl
  · rintro rfl
    refine ⟨text.toList, mapM_scalar?_eq_some_iff.2 (pieces_eq_iff.2 ?_), String.ofList_toList⟩
    exact reading_encode text.toList

/-- The bytes of a text are decoded to the text. -/
@[simp]
theorem decode?_encode (text : String) : decode? (encode text) = some text :=
  decode?_eq_some_iff.2 rfl

/-- In the encoding of a text nothing is replaced. -/
@[simp]
theorem lossy_encode (text : String) : lossy (encode text) = text :=
  lossy_eq_of_decode? (decode?_encode text)

end Utf8
end Text
end ProxyControl
