import ProxyControl.Preference.Session

/-!
# Sameness of preference values

Sameness is looser than equality, and a NaN is not numerically equal to itself.  Every
value is the same as itself all the same, because a real number is first compared bit for
bit.

Main results:

- Theorem `PrefValue.same_self`: sameness is reflexive, with `sameItems_self` and
  `sameEntries_self` for the lists inside a value.
- Theorem `PrefValue.same_comm`: sameness is symmetric, with `sameItems_comm` and
  `sameEntries_comm` for the lists inside a value.
- Theorems `PrefValue.same_str_iff`, `same_unreadable_iff`, `same_arr_iff` and `same_dict_iff`: what
  is the same as a value that is no number.
- Theorem `ProxyDict.needsWrite_self`: a dictionary does not need to be replaced by itself.
-/

namespace ProxyControl

namespace PrefValue

/-- A truth value stands for a number, which equals itself. -/
theorem numEq_ofInt_bool (b : Bool) :
    Binary64.numEq (Binary64.ofInt (if b then 1 else 0))
      (Binary64.ofInt (if b then 1 else 0)) = true := by
  apply Binary64.numEq_self
  cases b with
  | false => decide +kernel
  | true => decide +kernel

mutual

/-- Every value is the same as itself. -/
theorem same_self (value : PrefValue) : value.same value = true := by
  match value with
  | .bool b => simpa only [same, number?] using numEq_ofInt_bool b
  | .int n => simp [same]
  | .real x => simp [same]
  | .str s => simp [same]
  | .arr items => simpa only [same] using sameItems_self items
  | .dict entries => simpa only [same] using sameEntries_self entries
  | .unreadable s => simp [same]

/-- Every list of items is the same as itself. -/
theorem sameItems_self (items : List PrefValue) : sameItems items items = true := by
  match items with
  | [] => rfl
  | item :: rest => simp [sameItems, same_self item, sameItems_self rest]

/-- Every list of entries is the same as itself. -/
theorem sameEntries_self (entries : List (String × PrefValue)) :
    sameEntries entries entries = true := by
  match entries with
  | [] => rfl
  | (key, value) :: rest => simp [sameEntries, same_self value, sameEntries_self rest]

end

/-- Whether two values stand for the same number. -/
def sameNumber (a b : PrefValue) : Bool :=
  match a.number?, b.number? with
  | some x, some y => x.numEq y
  | _, _ => false

/-- Two numbers can be compared in either order. -/
theorem sameNumber_comm (a b : PrefValue) : a.sameNumber b = b.sameNumber a := by
  unfold sameNumber
  cases a.number? with
  | none => cases b.number? <;> rfl
  | some x =>
      cases b.number? with
      | none => rfl
      | some y => exact x.numEq_comm y

/-- A truth value is compared as a number with every other value. -/
theorem same_bool_left (b : Bool) (a : PrefValue) : (bool b).same a = (bool b).sameNumber a := by
  cases a <;> rfl

theorem same_bool_right (a : PrefValue) (b : Bool) : a.same (bool b) = a.sameNumber (bool b) := by
  cases a <;> rfl

mutual

/-- Sameness does not depend on the order of the two values. -/
theorem same_comm (a b : PrefValue) : a.same b = b.same a := by
  match a, b with
  | .bool x, b => rw [same_bool_left, same_bool_right, sameNumber_comm]
  | a, .bool y => rw [same_bool_left, same_bool_right, sameNumber_comm]
  | .int m, .int n => simpa only [same] using BEq.comm
  | .real x, .real y => rw [same, same, BEq.comm, x.numEq_comm]
  | .str s, .str t => simpa only [same] using BEq.comm
  | .unreadable s, .unreadable t => simpa only [same] using BEq.comm
  | .arr xs, .arr ys => simpa only [same] using sameItems_comm xs ys
  | .dict d, .dict e => simpa only [same] using sameEntries_comm d e
  | .int n, .real x => simpa only [same, number?] using Binary64.numEq_comm _ _
  | .real x, .int n => simpa only [same, number?] using Binary64.numEq_comm _ _
  | .int _, .str _ | .int _, .unreadable _ | .int _, .arr _ | .int _, .dict _ => rfl
  | .real _, .str _ | .real _, .unreadable _ | .real _, .arr _ | .real _, .dict _ => rfl
  | .str _, .int _ | .str _, .real _ | .str _, .unreadable _ => rfl
  | .str _, .arr _ | .str _, .dict _ => rfl
  | .unreadable _, .int _ | .unreadable _, .real _ | .unreadable _, .str _
  | .unreadable _, .arr _ | .unreadable _, .dict _ => rfl
  | .arr _, .int _ | .arr _, .real _ | .arr _, .str _ => rfl
  | .arr _, .unreadable _ | .arr _, .dict _ => rfl
  | .dict _, .int _ | .dict _, .real _ | .dict _, .str _ | .dict _, .unreadable _
  | .dict _, .arr _ => rfl

/-- Sameness of lists of items does not depend on their order. -/
theorem sameItems_comm (as bs : List PrefValue) : sameItems as bs = sameItems bs as := by
  match as, bs with
  | [], [] => rfl
  | [], _ :: _ => rfl
  | _ :: _, [] => rfl
  | a :: as, b :: bs => rw [sameItems, sameItems, same_comm a b, sameItems_comm as bs]

/-- Sameness of lists of entries does not depend on their order. -/
theorem sameEntries_comm (d e : List (String × PrefValue)) : sameEntries d e = sameEntries e d := by
  match d, e with
  | [], [] => rfl
  | [], _ :: _ => rfl
  | _ :: _, [] => rfl
  | (k, a) :: d, (l, b) :: e =>
      rw [sameEntries, sameEntries, same_comm a b, sameEntries_comm d e, BEq.comm]

end

/-! ## Values of other types than numbers -/

/-- An array is the same only as an array. -/
theorem same_arr_iff {as : List PrefValue} {v : PrefValue} :
    (arr as).same v = true ↔ ∃ bs, v = arr bs ∧ sameItems as bs = true := by
  cases v <;> simp [same, number?]

/-- A dictionary is the same only as a dictionary. -/
theorem same_dict_iff {ds : List (String × PrefValue)} {v : PrefValue} :
    (dict ds).same v = true ↔ ∃ es, v = dict es ∧ sameEntries ds es = true := by
  cases v <;> simp [same, number?]

/-- A text is the same only as itself. -/
theorem same_str_iff {s : String} {v : PrefValue} : (str s).same v = true ↔ str s = v := by
  cases v <;> simp [same, number?]

/-- What cannot be read is the same only as what cannot be read and says the same. -/
theorem same_unreadable_iff {s : String} {v : PrefValue} :
    (unreadable s).same v = true ↔ unreadable s = v := by
  cases v <;> simp [same, number?]

end PrefValue

namespace ProxyDict

/-- A dictionary does not have to be replaced by itself. -/
@[simp]
theorem needsWrite_self (wanted : ProxyDict) : needsWrite (some wanted) wanted = false := by
  simp [needsWrite, PrefValue.sameEntries_self]

/-- The dictionaries that do not have to be replaced are those that are the same as the
wanted one. -/
theorem needsWrite_eq_false_iff {current : Option ProxyDict} {wanted : ProxyDict} :
    needsWrite current wanted = false ↔
      ∃ dict, current = some dict ∧ PrefValue.sameEntries dict wanted = true := by
  cases current with
  | none => simp [needsWrite]
  | some dict => simp [needsWrite]

end ProxyDict
end ProxyControl
