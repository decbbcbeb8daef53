import ProxyControl.Proofs.Dictionaries
import ProxyControl.Preference.Value

/-!
# Leaves of preference values

A preference value is made of values without parts, its leaves, in arrays and dictionaries that
are nested to some depth.

Main results:

- Definitions `PrefValue.depth`, `PrefValue.leaves`: how deep a value is, and the values without
  parts in it.
- Theorems `PrefValue.entriesDepth_le_iff`, `PrefValue.mem_entryLeaves_iff`: the depth and the
  leaves of a dictionary are those of its entries.
-/

namespace ProxyControl
namespace PrefValue

mutual

/-- How deeply arrays and dictionaries are nested. -/
def depth : PrefValue → Nat
  | arr items => itemsDepth items + 1
  | dict entries => entriesDepth entries + 1
  | _ => 0

/-- The depth of the deepest item. -/
def itemsDepth : List PrefValue → Nat
  | [] => 0
  | item :: rest => max item.depth (itemsDepth rest)

/-- The depth of the deepest entry. -/
def entriesDepth : List (String × PrefValue) → Nat
  | [] => 0
  | (_, value) :: rest => max value.depth (entriesDepth rest)

end

mutual

/-- The values without parts that a value is made of. -/
def leaves : PrefValue → List PrefValue
  | arr items => itemLeaves items
  | dict entries => entryLeaves entries
  | value => [value]

/-- The leaves of the items of an array. -/
def itemLeaves : List PrefValue → List PrefValue
  | [] => []
  | item :: rest => item.leaves ++ itemLeaves rest

/-- The leaves of the values of a dictionary. -/
def entryLeaves : List (String × PrefValue) → List PrefValue
  | [] => []
  | (_, value) :: rest => value.leaves ++ entryLeaves rest

end

theorem entriesDepth_le_iff {entries : List (String × PrefValue)} {n : Nat} :
    entriesDepth entries ≤ n ↔ ∀ entry ∈ entries, entry.2.depth ≤ n := by
  induction entries with
  | nil => simp [entriesDepth]
  | cons entry rest ih => rw [entriesDepth, Nat.max_le, ih, List.forall_mem_cons]

theorem mem_entryLeaves_iff {entries : List (String × PrefValue)} {leaf : PrefValue} :
    leaf ∈ entryLeaves entries ↔ ∃ entry ∈ entries, leaf ∈ entry.2.leaves := by
  induction entries with
  | nil => simp [entryLeaves]
  | cons entry rest ih => simp [entryLeaves, ih]

end PrefValue
end ProxyControl
