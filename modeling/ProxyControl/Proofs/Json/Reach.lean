import ProxyControl.Proofs.Decimal.Rounding
import ProxyControl.Proofs.Json.Canonical
import ProxyControl.Proofs.Json.Scanning

/-!
# What the reader can give

Whatever the text is, a value that is read from it is not nested more deeply than is allowed, its
integers fit 64 bits with or without a sign, and its reals are finite.

Main results:

- Structure `Reached`: the values that the reader can give.
- Theorem `reached_of_readNumber`: numbers are integers of 64 bits or finite reals.
- Theorem `reached_of_readValue`: the reader gives nothing else.
-/

namespace ProxyControl
namespace Json

/-! ## Values in reach -/

/-- A leaf that the reader can give. -/
def IsReached : Json → Prop
  | int n => -(IntegerRange.signedBound : Int) ≤ n ∧ n < IntegerRange.unsignedBound
  | real x => x.isFinite = true
  | _ => True

/-- A value that the reader can give where some nesting is still allowed. -/
structure Reached (allowed : Nat) (v : Json) : Prop where
  depth : v.depth ≤ allowed
  leaves : ∀ leaf ∈ v.leaves, leaf.IsReached

section Reached

variable {allowed : Nat}

/-- A value without parts needs no depth. -/
theorem reached_of_isLeaf {v : Json} (hleaf : v.isLeaf = true) (h : v.IsReached) :
    Reached allowed v := by
  cases v with
  | arr items => cases hleaf
  | obj members => cases hleaf
  | _ =>
      refine ⟨Nat.zero_le _, fun leaf hmem => ?_⟩
      rw [List.mem_singleton.1 hmem]
      exact h

/-- An array needs one level more than its items. -/
theorem reached_arr {items : List Json} (h : ∀ item ∈ items, Reached allowed item) :
    Reached (allowed + 1) (arr items) where
  depth := Nat.succ_le_succ (itemsDepth_le_iff.2 fun item hitem => (h item hitem).depth)
  leaves leaf hleaf := by
    obtain ⟨item, hitem, hleaf⟩ := mem_itemLeaves_iff.1 hleaf
    exact (h item hitem).leaves leaf hleaf

/-- An object needs one level more than its members. -/
theorem reached_obj {members : List (String × Json)}
    (h : ∀ member ∈ members, Reached allowed member.2) : Reached (allowed + 1) (obj members) where
  depth := Nat.succ_le_succ (membersDepth_le_iff.2 fun member hmember => (h member hmember).depth)
  leaves leaf hleaf := by
    obtain ⟨member, hmember, hleaf⟩ := mem_memberLeaves_iff.1 hleaf
    exact (h member hmember).leaves leaf hleaf

/-! ## Numbers -/

/-- A number's text stands for an integer of 64 bits or for a finite real. -/
theorem reached_of_value? {t : NumberText} {v : Json} (h : t.value? = some v) :
    Reached allowed v := by
  unfold NumberText.value? at h
  simp only at h
  split at h
  · rename_i hunsigned
    simp only [Bool.and_eq_true, decide_eq_true_eq] at hunsigned
    cases h
    exact reached_of_isLeaf rfl ⟨by omega, by omega⟩
  split at h
  · rename_i hsigned
    simp only [Bool.and_eq_true, decide_eq_true_eq] at hsigned
    cases h
    have hbound : (0 : Int) < IntegerRange.unsignedBound := by decide
    exact reached_of_isLeaf rfl ⟨by omega, by omega⟩
  · obtain ⟨x, hx, rfl⟩ := Option.map_eq_some_iff.1 h
    exact reached_of_isLeaf rfl
      (WordDecimal.isFinite_of_toReal? (WordDecimal.significand_ofDigits_lt _ _ _) hx)

/-- Every number that is read can be reached. -/
theorem reached_of_readNumber {cs rest : List Char} {v : Json}
    (h : readNumber cs = some (v, rest)) : Reached allowed v := by
  rw [readNumber_eq, Option.bind_eq_some_iff] at h
  obtain ⟨text, -, h⟩ := h
  obtain ⟨value, hvalue, h⟩ := Option.map_eq_some_iff.1 h
  obtain ⟨rfl, -⟩ := Prod.mk.inj h
  exact reached_of_value? hvalue

end Reached

/-! ## Values -/

mutual

/-- The reader gives only values in reach.  The induction is on the bound of the recursion. -/
theorem reached_of_readValue {fuel allowed : Nat} {cs rest : List Char} {v : Json}
    (h : readValue fuel allowed cs = some (v, rest)) : Reached allowed v := by
  match fuel with
  | 0 => cases h
  | fuel + 1 =>
      unfold readValue at h
      split at h
      · cases h
        exact reached_of_isLeaf rfl trivial
      · cases h
        exact reached_of_isLeaf rfl trivial
      · cases h
        exact reached_of_isLeaf rfl trivial
      · obtain ⟨_, -, h⟩ := Option.map_eq_some_iff.1 h
        obtain ⟨rfl, -⟩ := Prod.mk.inj h
        exact reached_of_isLeaf rfl trivial
      · split at h
        · cases h
        split at h
        · cases h
          exact reached_arr (by simp)
        · obtain ⟨_, hitems, h⟩ := Option.map_eq_some_iff.1 h
          obtain ⟨rfl, -⟩ := Prod.mk.inj h
          exact reached_arr (reached_of_readItems hitems)
      · split at h
        · cases h
        split at h
        · cases h
          exact reached_obj (by simp)
        · obtain ⟨_, hmembers, h⟩ := Option.map_eq_some_iff.1 h
          obtain ⟨rfl, -⟩ := Prod.mk.inj h
          exact reached_obj (reached_of_readMembers hmembers)
      · exact reached_of_readNumber h

/-- So can the items of every array that is read. -/
theorem reached_of_readItems {fuel allowed : Nat} {cs rest : List Char} {items : List Json}
    (h : readItems fuel allowed cs = some (items, rest)) :
    ∀ item ∈ items, Reached allowed item := by
  match fuel with
  | 0 => cases h
  | fuel + 1 =>
      unfold readItems at h
      split at h
      · cases h
      · rename_i hvalue
        have hfirst := reached_of_readValue hvalue
        split at h
        · cases h
          simpa using hfirst
        · obtain ⟨_, hitems, h⟩ := Option.map_eq_some_iff.1 h
          obtain ⟨rfl, -⟩ := Prod.mk.inj h
          exact List.forall_mem_cons.2 ⟨hfirst, reached_of_readItems hitems⟩
        · cases h

/-- So can the members of every object that is read. -/
theorem reached_of_readMembers {fuel allowed : Nat} {cs rest : List Char}
    {members : List (String × Json)} (h : readMembers fuel allowed cs = some (members, rest)) :
    ∀ member ∈ members, Reached allowed member.2 := by
  match fuel with
  | 0 => cases h
  | fuel + 1 =>
      unfold readMembers at h
      split at h
      · split at h
        · cases h
        split at h
        · split at h
          · cases h
          · rename_i hvalue
            have hfirst := reached_of_readValue hvalue
            simp only at h
            split at h
            · cases h
              simpa using hfirst
            · obtain ⟨_, hmembers, h⟩ := Option.map_eq_some_iff.1 h
              obtain ⟨rfl, -⟩ := Prod.mk.inj h
              exact List.forall_mem_cons.2 ⟨hfirst, reached_of_readMembers hmembers⟩
            · cases h
        · cases h
      · cases h

end

end Json
end ProxyControl
