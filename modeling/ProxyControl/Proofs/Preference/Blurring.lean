import ProxyControl.Proofs.Decimal.Rounding
import ProxyControl.Proofs.Preference.Leaves
import ProxyControl.Proofs.Preference.Sameness

/-!
# Integers that a real blurs

Two integers are compared exactly, but an integer and a real are compared as reals, after the
integer has been rounded.  So one real can mean the same as two different integers, and sameness
is not transitive.  This is the only way for it to fail: two different integers on both sides of a
real, neither of them below 2 ^ 53.

Main results:

- Relation `PrefValue.Blurred`: three values have two different integers with a real between them
  at some place.
- Theorem `PrefValue.Blurred.same_eq_false`: then the outer values do not mean the same.
- Theorem `PrefValue.same_or_blurred`: in no other case is sameness not transitive.
- Theorem `PrefValue.same_trans_iff_not_blurred`: where sameness is transitive.
- Theorem `PrefValue.not_same_trans`: it is not so everywhere.
-/

namespace ProxyControl
namespace PrefValue

/-! ## Numbers -/

/-- Standing for the same number is transitive. -/
theorem sameNumber_trans {a b c : PrefValue} (hab : a.sameNumber b = true)
    (hbc : b.sameNumber c = true) : a.sameNumber c = true := by
  unfold sameNumber at hab hbc ⊢
  cases ha : a.number? with
  | none => simp [ha] at hab
  | some x =>
      cases hb : b.number? with
      | none => simp [ha, hb] at hab
      | some y =>
          cases hc : c.number? with
          | none => simp [hb, hc] at hbc
          | some z =>
              simp only [ha, hb, hc] at hab hbc
              exact Binary64.numEq_trans hab hbc

/-- A number that is the same as a value is that value or stands for the same number. -/
theorem eq_or_sameNumber {a b : PrefValue} (ha : a.number?.isSome = true)
    (h : a.same b = true) : a = b ∨ a.sameNumber b = true := by
  cases a with
  | bool x => exact .inr (by rwa [same_bool_left] at h)
  | int m =>
      cases b with
      | int n => exact .inl (by simpa [same] using h)
      | _ => exact .inr h
  | real x =>
      cases b with
      | real y =>
          simp only [same, Bool.or_eq_true, beq_iff_eq] at h
          rcases h with rfl | h
          · exact .inl rfl
          · exact .inr h
      | _ => exact .inr h
  | _ => cases ha

/-- Values that stand for the same number are the same, unless both are integers. -/
theorem same_of_sameNumber {a b : PrefValue} (h : a.sameNumber b = true) :
    a.same b = true ∨ ∃ m n, a = int m ∧ b = int n := by
  cases a with
  | bool x => exact .inl (by rwa [same_bool_left])
  | int m =>
      cases b with
      | int n => exact .inr ⟨m, n, rfl, rfl⟩
      | _ => exact .inl h
  | real x =>
      cases b with
      | real y => exact .inl (by simp [same, show x.numEq y = true from h])
      | _ => exact .inl h
  | _ => cases h

/-! ## Blurred integers -/

mutual

/-- Three values have two different integers with a real between them at some place, to which
both integers are rounded. -/
inductive Blurred : PrefValue → PrefValue → PrefValue → Prop
  | int {m n : Int64} {x : Binary64} (different : m ≠ n)
      (left : (Binary64.ofInt m.toInt).numEq x = true)
      (right : x.numEq (Binary64.ofInt n.toInt) = true) : Blurred (int m) (real x) (int n)
  | arr {as bs cs : List PrefValue} (h : ItemsBlurred as bs cs) : Blurred (arr as) (arr bs) (arr cs)
  | dict {ds es fs : List (String × PrefValue)} (h : EntriesBlurred ds es fs) :
      Blurred (dict ds) (dict es) (dict fs)

/-- So have three lists of items at the same place. -/
inductive ItemsBlurred : List PrefValue → List PrefValue → List PrefValue → Prop
  | first {a b c : PrefValue} (as bs cs : List PrefValue) (h : Blurred a b c) :
      ItemsBlurred (a :: as) (b :: bs) (c :: cs)
  | rest (a b c : PrefValue) {as bs cs : List PrefValue} (h : ItemsBlurred as bs cs) :
      ItemsBlurred (a :: as) (b :: bs) (c :: cs)

/-- So have three lists of entries at the same place. -/
inductive EntriesBlurred :
    List (String × PrefValue) → List (String × PrefValue) → List (String × PrefValue) → Prop
  | first {a b c : PrefValue} (k l m : String) (ds es fs : List (String × PrefValue))
      (h : Blurred a b c) : EntriesBlurred ((k, a) :: ds) ((l, b) :: es) ((m, c) :: fs)
  | rest (d e f : String × PrefValue) {ds es fs : List (String × PrefValue)}
      (h : EntriesBlurred ds es fs) : EntriesBlurred (d :: ds) (e :: es) (f :: fs)

end

mutual

/-- Values with different integers do not mean the same. -/
theorem Blurred.same_eq_false {a b c : PrefValue} (h : Blurred a b c) : a.same c = false := by
  cases h with
  | int different left right => simpa only [same, beq_eq_false_iff_ne] using different
  | arr h => simpa only [same] using h.sameItems_eq_false
  | dict h => simpa only [same] using h.sameEntries_eq_false

/-- Lists that are blurred are not the same. -/
theorem ItemsBlurred.sameItems_eq_false {as bs cs : List PrefValue} (h : ItemsBlurred as bs cs) :
    sameItems as cs = false := by
  cases h with
  | first as bs cs h => simp [sameItems, h.same_eq_false]
  | rest a b c h => simp [sameItems, h.sameItems_eq_false]

/-- Entries that are blurred are not the same. -/
theorem EntriesBlurred.sameEntries_eq_false {ds es fs : List (String × PrefValue)}
    (h : EntriesBlurred ds es fs) : sameEntries ds fs = false := by
  cases h with
  | first k l m ds es fs h => simp [sameEntries, h.same_eq_false]
  | rest d e f h => simp [sameEntries, h.sameEntries_eq_false]

end

/-! ## Sameness of three values -/

/-- Numbers that are the same as a third one are the same or blurred by it. -/
theorem same_or_blurred_of_number {a b c : PrefValue} (ha : a.number?.isSome = true)
    (hab : a.same b = true) (hbc : b.same c = true) : a.same c = true ∨ Blurred a b c := by
  rcases eq_or_sameNumber ha hab with rfl | hnumber
  · exact .inl hbc
  have hb : b.number?.isSome = true := by
    unfold sameNumber at hnumber
    cases h : b.number? with
    | none => simp [h] at hnumber
    | some y => rfl
  rcases eq_or_sameNumber hb hbc with rfl | hnumber'
  · exact .inl hab
  rcases same_of_sameNumber (sameNumber_trans hnumber hnumber') with hac | ⟨m, n, rfl, rfl⟩
  · exact .inl hac
  by_cases hmn : m = n
  · exact .inl (by simp [same, hmn])
  right
  cases b with
  | real x => exact .int hmn hnumber hnumber'
  | int k =>
      have hmk : m = k := by simpa [same] using hab
      have hkn : k = n := by simpa [same] using hbc
      exact absurd (hmk.trans hkn) hmn
  | bool t =>
      -- A truth value stands for 0 or 1, which no other integer is rounded to.
      have hsmall : (if t then 1 else 0 : Int).natAbs < 2 ^ 53 := by cases t <;> decide
      have hm := Binary64.eq_of_numEq_ofInt hsmall ((Binary64.numEq_comm _ _).trans hnumber)
      have hn := Binary64.eq_of_numEq_ofInt hsmall hnumber'
      exact absurd (Int64.toInt_inj.1 (hm.symm.trans hn)) hmn
  | _ => cases hb

mutual

/-- Values that are the same as a third one are the same or blurred by it.  The induction is on
the first value; the others have its shape. -/
theorem same_or_blurred {a b c : PrefValue} (hab : a.same b = true) (hbc : b.same c = true) :
    a.same c = true ∨ Blurred a b c := by
  cases a with
  | bool x => exact same_or_blurred_of_number rfl hab hbc
  | int m => exact same_or_blurred_of_number rfl hab hbc
  | real x => exact same_or_blurred_of_number rfl hab hbc
  | str s =>
      obtain rfl := same_str_iff.1 hab
      exact .inl hbc
  | unreadable s =>
      obtain rfl := same_unreadable_iff.1 hab
      exact .inl hbc
  | arr as =>
      obtain ⟨bs, rfl, has⟩ := same_arr_iff.1 hab
      obtain ⟨cs, rfl, hbs⟩ := same_arr_iff.1 hbc
      rcases sameItems_or_blurred has hbs with h | h
      · exact .inl (same_arr_iff.2 ⟨cs, rfl, h⟩)
      · exact .inr (.arr h)
  | dict ds =>
      obtain ⟨es, rfl, hds⟩ := same_dict_iff.1 hab
      obtain ⟨fs, rfl, hes⟩ := same_dict_iff.1 hbc
      rcases sameEntries_or_blurred hds hes with h | h
      · exact .inl (same_dict_iff.2 ⟨fs, rfl, h⟩)
      · exact .inr (.dict h)

/-- Lists that are the same as a third one are the same, or blurred by it. -/
theorem sameItems_or_blurred {as bs cs : List PrefValue} (hab : sameItems as bs = true)
    (hbc : sameItems bs cs = true) : sameItems as cs = true ∨ ItemsBlurred as bs cs := by
  match as, bs, cs, hab, hbc with
  | [], [], [], _, _ => exact .inl rfl
  | a :: as, b :: bs, c :: cs, hab, hbc =>
      simp only [sameItems, Bool.and_eq_true] at hab hbc ⊢
      rcases same_or_blurred hab.1 hbc.1 with hfirst | hfirst
      · rcases sameItems_or_blurred hab.2 hbc.2 with hrest | hrest
        · exact .inl ⟨hfirst, hrest⟩
        · exact .inr (.rest a b c hrest)
      · exact .inr (.first as bs cs hfirst)

/-- Entries that are the same as others are the same, or blurred by them. -/
theorem sameEntries_or_blurred {ds es fs : List (String × PrefValue)}
    (hde : sameEntries ds es = true) (hef : sameEntries es fs = true) :
    sameEntries ds fs = true ∨ EntriesBlurred ds es fs := by
  match ds, es, fs, hde, hef with
  | [], [], [], _, _ => exact .inl rfl
  | (k, a) :: ds, (l, b) :: es, (m, c) :: fs, hde, hef =>
      simp only [sameEntries, Bool.and_eq_true, beq_iff_eq] at hde hef ⊢
      rcases same_or_blurred hde.1.2 hef.1.2 with hfirst | hfirst
      · rcases sameEntries_or_blurred hde.2 hef.2 with hrest | hrest
        · exact .inl ⟨⟨hde.1.1.trans hef.1.1, hfirst⟩, hrest⟩
        · exact .inr (.rest _ _ _ hrest)
      · exact .inr (.first k l m ds es fs hfirst)

end

/-! ## The integers that are blurred -/

/-- Two different integers that are rounded to one real are not below 2 ^ 53. -/
theorem not_small_of_blurred {m n : Int64} {x : Binary64} (different : m ≠ n)
    (left : (Binary64.ofInt m.toInt).numEq x = true)
    (right : x.numEq (Binary64.ofInt n.toInt) = true) :
    2 ^ 53 ≤ m.toInt.natAbs ∧ 2 ^ 53 ≤ n.toInt.natAbs := by
  have hdifferent : m.toInt ≠ n.toInt := fun h => different (Int64.toInt_inj.1 h)
  have hrounded := Binary64.numEq_trans left right
  refine ⟨Nat.not_lt.1 fun hsmall => ?_, Nat.not_lt.1 fun hsmall => ?_⟩
  · exact hdifferent (Binary64.eq_of_numEq_ofInt hsmall hrounded)
  · refine hdifferent (Binary64.eq_of_numEq_ofInt hsmall ?_).symm
    rw [Binary64.numEq_comm]
    exact hrounded

mutual

/-- The first of three blurred values has an integer that is not below 2 ^ 53. -/
theorem Blurred.exists_large {a b c : PrefValue} (h : Blurred a b c) :
    ∃ m, int m ∈ a.leaves ∧ 2 ^ 53 ≤ m.toInt.natAbs := by
  cases h with
  | int different left right =>
      exact ⟨_, List.mem_cons_self, (not_small_of_blurred different left right).1⟩
  | arr h => exact h.exists_large
  | dict h => exact h.exists_large

/-- Only lists with a large integer in them are blurred. -/
theorem ItemsBlurred.exists_large {as bs cs : List PrefValue} (h : ItemsBlurred as bs cs) :
    ∃ m, int m ∈ itemLeaves as ∧ 2 ^ 53 ≤ m.toInt.natAbs := by
  cases h with
  | first as bs cs h =>
      obtain ⟨m, hmem, hlarge⟩ := h.exists_large
      exact ⟨m, List.mem_append_left _ hmem, hlarge⟩
  | rest a b c h =>
      obtain ⟨m, hmem, hlarge⟩ := h.exists_large
      exact ⟨m, List.mem_append_right _ hmem, hlarge⟩

/-- Only entries with a large integer in them are blurred. -/
theorem EntriesBlurred.exists_large {ds es fs : List (String × PrefValue)}
    (h : EntriesBlurred ds es fs) : ∃ m, int m ∈ entryLeaves ds ∧ 2 ^ 53 ≤ m.toInt.natAbs := by
  cases h with
  | first k l m ds es fs h =>
      obtain ⟨n, hmem, hlarge⟩ := h.exists_large
      exact ⟨n, List.mem_append_left _ hmem, hlarge⟩
  | rest d e f h =>
      obtain ⟨n, hmem, hlarge⟩ := h.exists_large
      exact ⟨n, List.mem_append_right _ hmem, hlarge⟩

end

/-! ## Where sameness is transitive -/

/-- Of three values of which the second is the same as the first and as the third, the first and
the third are the same unless the second blurs different integers in them.  If no integer in the
first value reaches 2 ^ 53 in magnitude this cannot happen, and one value is the same as two
different integers only if it is a real to which both are rounded. -/
theorem same_trans_iff_not_blurred {a b c : PrefValue} (hab : a.same b = true)
    (hbc : b.same c = true) :
    (a.same c = true ↔ ¬ Blurred a b c) ∧
      ((∀ m, int m ∈ a.leaves → m.toInt.natAbs < 2 ^ 53) → a.same c = true) ∧
      ∀ m n : Int64, a = int m → c = int n → m ≠ n →
        2 ^ 53 ≤ m.toInt.natAbs ∧ 2 ^ 53 ≤ n.toInt.natAbs ∧
          ∃ x, b = real x ∧ (Binary64.ofInt m.toInt).numEq x = true ∧
            (Binary64.ofInt n.toInt).numEq x = true := by
  have hsame_or := same_or_blurred hab hbc
  refine ⟨⟨fun hac hblurred => ?_, hsame_or.resolve_right⟩, fun hsmall => ?_, ?_⟩
  · rw [hblurred.same_eq_false] at hac
    cases hac
  · refine hsame_or.resolve_right fun hblurred => ?_
    obtain ⟨m, hmem, hlarge⟩ := hblurred.exists_large
    exact absurd (hsmall m hmem) (Nat.not_lt.2 hlarge)
  · rintro m n rfl rfl hmn
    rcases hsame_or with hsame | hblurred
    · exact absurd (by simpa [same] using hsame) hmn
    · cases hblurred with
      | int different left right =>
          obtain ⟨hlow, hlow'⟩ := not_small_of_blurred different left right
          exact ⟨hlow, hlow', _, rfl, left, (Binary64.numEq_comm _ _).trans right⟩

/-- The real 2 ^ 53, from which on there are integers between the reals. -/
def limit : Binary64 := ⟨0x4340000000000000⟩

/-- The dictionary of one entry. -/
def weighing (weight : PrefValue) : PrefValue := dict [("Weight", weight)]

/-- Inside a dictionary the real 2 ^ 53 blurs this integer and the next one.  It does not come
between flags and the numbers that they stand for. -/
theorem same_trans_iff_not_blurred_limit :
    ((weighing (int 9007199254740993)).same (weighing (real limit)) = true ∧
        (weighing (real limit)).same (weighing (int 9007199254740992)) = true ∧
        ¬ (weighing (int 9007199254740993)).same (weighing (int 9007199254740992)) = true) ∧
      ((weighing (bool true)).same (weighing (real ⟨0x3FF0000000000000⟩)) = true ∧
        (weighing (real ⟨0x3FF0000000000000⟩)).same (weighing (int 1)) = true ∧
        (weighing (bool true)).same (weighing (int 1)) = true) ∧
      (int 9007199254740993).same (real limit) = true ∧
      (real limit).same (int 9007199254740992) = true ∧
      2 ^ 53 ≤ (9007199254740993 : Int64).toInt.natAbs ∧
      2 ^ 53 ≤ (9007199254740992 : Int64).toInt.natAbs := by
  refine ⟨?_, ?_, ?_⟩
  · have hleft : (weighing (int 9007199254740993)).same (weighing (real limit)) = true := by
      decide +kernel
    have hright : (weighing (real limit)).same (weighing (int 9007199254740992)) = true := by
      decide +kernel
    have hblurred : Blurred (weighing (int 9007199254740993)) (weighing (real limit))
        (weighing (int 9007199254740992)) :=
      .dict (.first _ _ _ _ _ _ (.int (by decide) (by decide +kernel) (by decide +kernel)))
    exact ⟨hleft, hright, fun hsame =>
      (same_trans_iff_not_blurred hleft hright).1.1 hsame hblurred⟩
  · have hleft : (weighing (bool true)).same (weighing (real ⟨0x3FF0000000000000⟩)) = true := by
      decide +kernel
    have hright : (weighing (real ⟨0x3FF0000000000000⟩)).same (weighing (int 1)) = true := by
      decide +kernel
    have hflag : ∀ m, int m ∈ (weighing (bool true)).leaves → m.toInt.natAbs < 2 ^ 53 := by
      simp [weighing, leaves, entryLeaves]
    exact ⟨hleft, hright, (same_trans_iff_not_blurred hleft hright).2.1 hflag⟩
  · have hleft : (int 9007199254740993).same (real limit) = true := by decide +kernel
    have hright : (real limit).same (int 9007199254740992) = true := by decide +kernel
    obtain ⟨hlow, hlow', -⟩ :=
      (same_trans_iff_not_blurred hleft hright).2.2 _ _ rfl rfl (by decide)
    exact ⟨hleft, hright, hlow, hlow'⟩

/-- That two values are the same as a third one does not make them the same. -/
theorem not_same_trans :
    ¬ ∀ a b c : PrefValue, a.same b = true → b.same c = true → a.same c = true := by
  intro h
  have hleft : (int 9007199254740993).same (real limit) = true := by decide +kernel
  have hright : (real limit).same (int 9007199254740992) = true := by decide +kernel
  have hnot : (int 9007199254740993).same (int 9007199254740992) = false := by decide +kernel
  rw [h _ _ _ hleft hright] at hnot
  cases hnot

end PrefValue
end ProxyControl
