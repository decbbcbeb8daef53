import ProxyControl.Json.Basic
import ProxyControl.Proofs.Dictionaries

/-!
# Canonical forms

The canonical form of a value has the same parts, except that of several members of one key
only the last is left.

Main results:

- Definitions `depth`, `leaves`: how deep a value is, and the values without parts in it.
- Theorem `canonical_canonical`: a canonical form is its own canonical form.
- Theorems `depth_canonical_le`, `leaves_canonical_subset`: it is no deeper, and has no other
  leaves.
-/

namespace ProxyControl
namespace Json

/-! ## Leaves and depth -/

mutual

/-- How deeply arrays and objects are nested. -/
def depth : Json → Nat
  | arr items => itemsDepth items + 1
  | obj members => membersDepth members + 1
  | _ => 0

/-- The depth of the deepest item. -/
def itemsDepth : List Json → Nat
  | [] => 0
  | item :: rest => max item.depth (itemsDepth rest)

/-- The depth of the deepest member. -/
def membersDepth : List (String × Json) → Nat
  | [] => 0
  | (_, value) :: rest => max value.depth (membersDepth rest)

end

mutual

/-- The values without parts that a value is made of. -/
def leaves : Json → List Json
  | arr items => itemLeaves items
  | obj members => memberLeaves members
  | value => [value]

/-- The leaves of the items of an array. -/
def itemLeaves : List Json → List Json
  | [] => []
  | item :: rest => item.leaves ++ itemLeaves rest

/-- The leaves of the members of an object. -/
def memberLeaves : List (String × Json) → List Json
  | [] => []
  | (_, value) :: rest => value.leaves ++ memberLeaves rest

end

/-- Whether a value has no parts. -/
def isLeaf : Json → Bool
  | arr _ => false
  | obj _ => false
  | _ => true

mutual

/-- The leaves of a value have no parts themselves. -/
theorem isLeaf_of_mem_leaves {v leaf : Json} (h : leaf ∈ v.leaves) : leaf.isLeaf = true := by
  cases v with
  | arr items => exact isLeaf_of_mem_itemLeaves h
  | obj members => exact isLeaf_of_mem_memberLeaves h
  | _ =>
      rw [List.mem_singleton.1 h]
      rfl

/-- Nor have the leaves of the items of an array. -/
theorem isLeaf_of_mem_itemLeaves {items : List Json} {leaf : Json} (h : leaf ∈ itemLeaves items) :
    leaf.isLeaf = true := by
  cases items with
  | nil => cases h
  | cons item rest =>
      rcases List.mem_append.1 h with h | h
      · exact isLeaf_of_mem_leaves h
      · exact isLeaf_of_mem_itemLeaves h

/-- Nor have the leaves of the members of an object. -/
theorem isLeaf_of_mem_memberLeaves {members : List (String × Json)} {leaf : Json}
    (h : leaf ∈ memberLeaves members) : leaf.isLeaf = true := by
  cases members with
  | nil => cases h
  | cons member rest =>
      rcases List.mem_append.1 h with h | h
      · exact isLeaf_of_mem_leaves h
      · exact isLeaf_of_mem_memberLeaves h

end

/-! ## Items and members -/

/-- The items of an array stay within a depth when each of them does. -/
theorem itemsDepth_le_iff {items : List Json} {n : Nat} :
    itemsDepth items ≤ n ↔ ∀ item ∈ items, item.depth ≤ n := by
  induction items with
  | nil => simp [itemsDepth]
  | cons item rest ih => rw [itemsDepth, Nat.max_le, ih, List.forall_mem_cons]

/-- A leaf of the items of an array is a leaf of one of them. -/
theorem mem_itemLeaves_iff {items : List Json} {leaf : Json} :
    leaf ∈ itemLeaves items ↔ ∃ item ∈ items, leaf ∈ item.leaves := by
  induction items with
  | nil => simp [itemLeaves]
  | cons item rest ih => simp [itemLeaves, ih]

/-- The members of an object stay within a depth when each value does. -/
theorem membersDepth_le_iff {members : List (String × Json)} {n : Nat} :
    membersDepth members ≤ n ↔ ∀ member ∈ members, member.2.depth ≤ n := by
  induction members with
  | nil => simp [membersDepth]
  | cons member rest ih => rw [membersDepth, Nat.max_le, ih, List.forall_mem_cons]

/-- A leaf of the members of an object is a leaf of one of their values. -/
theorem mem_memberLeaves_iff {members : List (String × Json)} {leaf : Json} :
    leaf ∈ memberLeaves members ↔ ∃ member ∈ members, leaf ∈ member.2.leaves := by
  induction members with
  | nil => simp [memberLeaves]
  | cons member rest ih => simp [memberLeaves, ih]

/-! ## The canonical form of a canonical form -/

/-- Members in order whose values are in canonical form are left as they are. -/
theorem canonical_obj_of_ordered {d : Dict Json} (hd : d.Ordered)
    (h : ∀ member ∈ d, member.2.canonical = member.2) : (obj d).canonical = obj d := by
  have hmembers : canonicalMembers d = d := by
    clear hd
    induction d with
    | nil => rfl
    | cons member rest ih =>
        rw [canonicalMembers, h member List.mem_cons_self,
          ih fun m hm => h m (List.mem_cons_of_mem _ hm)]
  rw [canonical, hmembers, Dict.ofList_of_ordered hd]

mutual

/-- A canonical form is its own canonical form. -/
theorem canonical_canonical (v : Json) : v.canonical.canonical = v.canonical := by
  cases v with
  | arr items => rw [canonical, canonical, canonicalItems_canonicalItems items]
  | obj members =>
      rw [canonical]
      refine canonical_obj_of_ordered (Dict.ordered_ofList _) fun member hmember => ?_
      exact canonical_of_mem_canonicalMembers (Dict.mem_of_mem_ofList hmember)
  | _ => rfl

/-- The items of an array are brought into canonical form once. -/
theorem canonicalItems_canonicalItems (items : List Json) :
    canonicalItems (canonicalItems items) = canonicalItems items := by
  cases items with
  | nil => rfl
  | cons item rest =>
      rw [canonicalItems, canonicalItems, canonical_canonical item,
        canonicalItems_canonicalItems rest]

/-- Every member that is kept has a value in canonical form. -/
theorem canonical_of_mem_canonicalMembers {members : List (String × Json)} {member : String × Json}
    (h : member ∈ canonicalMembers members) : member.2.canonical = member.2 := by
  cases members with
  | nil => cases h
  | cons first rest =>
      rcases List.mem_cons.1 h with rfl | h
      · exact canonical_canonical first.2
      · exact canonical_of_mem_canonicalMembers h

end

/-- A value without parts is its own canonical form, and is that of no other value. -/
theorem canonical_eq_iff {j v : Json} (hleaf : v.isLeaf = true) : j.canonical = v ↔ j = v := by
  cases j with
  | arr items =>
      have hne (others : List Json) : arr others ≠ v := by
        rintro rfl
        cases hleaf
      exact ⟨fun h => absurd h (hne _), fun h => absurd h (hne _)⟩
  | obj members =>
      have hne (others : List (String × Json)) : obj others ≠ v := by
        rintro rfl
        cases hleaf
      exact ⟨fun h => absurd h (hne _), fun h => absurd h (hne _)⟩
  | _ => rfl

/-! ## Depth and leaves of a canonical form -/

mutual

/-- The canonical form of a value is not deeper than the value. -/
theorem depth_canonical_le (v : Json) : v.canonical.depth ≤ v.depth := by
  cases v with
  | arr items => exact Nat.succ_le_succ (itemsDepth_canonicalItems_le items)
  | obj members =>
      refine Nat.succ_le_succ (membersDepth_le_iff.2 fun member hmember => ?_)
      exact depth_le_of_mem_canonicalMembers (Dict.mem_of_mem_ofList hmember)
  | _ => exact Nat.le_refl _

/-- Nor are the items of an array any deeper in canonical form. -/
theorem itemsDepth_canonicalItems_le (items : List Json) :
    itemsDepth (canonicalItems items) ≤ itemsDepth items := by
  cases items with
  | nil => exact Nat.le_refl _
  | cons item rest =>
      have hitem := depth_canonical_le item
      have hrest := itemsDepth_canonicalItems_le rest
      rw [canonicalItems, itemsDepth, itemsDepth]
      omega

/-- A member that is kept is not deeper than the members as they were written. -/
theorem depth_le_of_mem_canonicalMembers {members : List (String × Json)} {member : String × Json}
    (h : member ∈ canonicalMembers members) : member.2.depth ≤ membersDepth members := by
  cases members with
  | nil => cases h
  | cons first rest =>
      rcases List.mem_cons.1 h with rfl | h
      · exact Nat.le_trans (depth_canonical_le first.2) (Nat.le_max_left _ _)
      · exact Nat.le_trans (depth_le_of_mem_canonicalMembers h) (Nat.le_max_right _ _)

end

mutual

/-- Every leaf of the canonical form is a leaf of the value: leaving out members and sorting them
adds none. -/
theorem leaves_canonical_subset (v : Json) : v.canonical.leaves ⊆ v.leaves := by
  cases v with
  | arr items => exact itemLeaves_canonicalItems_subset items
  | obj members =>
      intro leaf hleaf
      obtain ⟨member, hmember, hleaf⟩ := mem_memberLeaves_iff.1 hleaf
      exact leaves_subset_of_mem_canonicalMembers (Dict.mem_of_mem_ofList hmember) hleaf
  | _ => exact List.Subset.refl _

/-- The canonical form of an array has no new leaf either. -/
theorem itemLeaves_canonicalItems_subset (items : List Json) :
    itemLeaves (canonicalItems items) ⊆ itemLeaves items := by
  cases items with
  | nil => exact List.Subset.refl _
  | cons item rest =>
      intro leaf hleaf
      rcases List.mem_append.1 hleaf with hleaf | hleaf
      · exact List.mem_append_left _ (leaves_canonical_subset item hleaf)
      · exact List.mem_append_right _ (itemLeaves_canonicalItems_subset rest hleaf)

/-- A member that is kept has only leaves that were written. -/
theorem leaves_subset_of_mem_canonicalMembers {members : List (String × Json)}
    {member : String × Json} (h : member ∈ canonicalMembers members) :
    member.2.leaves ⊆ memberLeaves members := by
  cases members with
  | nil => cases h
  | cons first rest =>
      intro leaf hleaf
      rcases List.mem_cons.1 h with rfl | h
      · exact List.mem_append_left _ (leaves_canonical_subset first.2 hleaf)
      · exact List.mem_append_right _ (leaves_subset_of_mem_canonicalMembers h hleaf)

end

end Json
end ProxyControl
