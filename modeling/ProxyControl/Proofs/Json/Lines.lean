import ProxyControl.Proofs.Json.RoundTrip

/-!
# Values that are written over several lines

The text of a value over several lines differs from the one on one line only in the blanks around
its parts.  So it spells the same value, and a value that can be stored is read back from it.

Main results:

- Theorem `spells_lineChars`: the lines of a value are a spelling of it, at whatever level it
  begins.
- Theorem `Storable.ofText?_toLines`: a value that can be stored is read back from its lines.
-/

namespace ProxyControl
namespace Json

/-! ## Blanks -/

/-- The start of a line is blank. -/
theorem gap_newLine (level : Nat) : Gap (newLine level) := by
  intro c hc
  rcases List.mem_cons.1 hc with rfl | hc
  · rfl
  · obtain rfl := List.eq_of_mem_replicate hc
    rfl

theorem gap_blank : Gap [' '] :=
  List.forall_mem_singleton.2 rfl

/-- Blanks may stand behind a value. -/
theorem Stands.append_gap {cs gap : List Char} {v : Json} (h : Stands cs v) (hgap : Gap gap) :
    Stands (cs ++ gap) v := by
  cases h with
  | mk hbefore h hafter =>
      rw [List.append_assoc, List.append_assoc]
      exact .mk hbefore h (hafter.append hgap)

/-! ## Spelling values -/

mutual

/-- The lines of a value are a spelling of it. -/
theorem spells_lineChars {v : Json} (h : v.Spellable) (level : Nat) :
    Spells (lineChars level v) v := by
  cases v with
  | null => exact .null
  | bool b => exact spells_bool b
  | int n => exact h _ List.mem_cons_self
  | real x => exact h _ List.mem_cons_self
  | str s => exact spells_str s
  | arr items =>
      cases items with
      | nil => exact .emptyArray gap_nil
      | cons item items =>
          exact .array (spellsItems_itemLineChars (List.cons_ne_nil _ _) h _ (gap_newLine level))
  | obj members =>
      cases members with
      | nil => exact .emptyObject gap_nil
      | cons member members =>
          exact .object
            (spellsMembers_memberLineChars (List.cons_ne_nil _ _) h _ (gap_newLine level))

/-- The blanks in front of the closing bracket belong to the last item. -/
theorem spellsItems_itemLineChars {items : List Json} (hne : items ≠ [])
    (h : ∀ leaf ∈ itemLeaves items, Spells leaf.chars leaf) (level : Nat) {after : List Char}
    (hafter : Gap after) : SpellsItems (itemLineChars level items ++ after) items := by
  cases items with
  | nil => exact absurd rfl hne
  | cons item items =>
      have hitem : item.Spellable := fun leaf hleaf => h leaf (List.mem_append_left _ hleaf)
      have hitems : ∀ leaf ∈ itemLeaves items, Spells leaf.chars leaf :=
        fun leaf hleaf => h leaf (List.mem_append_right _ hleaf)
      have hfirst := (spells_lineChars hitem level).stands.gap_append (gap_newLine level)
      cases items with
      | nil => exact .last (hfirst.append_gap hafter)
      | cons next items =>
          have hrest := spellsItems_itemLineChars (List.cons_ne_nil _ _) hitems level hafter
          rw [itemLineChars, List.append_assoc, List.cons_append]
          · exact .more hfirst hrest
          · exact List.cons_ne_nil _ _

theorem spellsMembers_memberLineChars {members : List (String × Json)} (hne : members ≠ [])
    (h : ∀ leaf ∈ memberLeaves members, Spells leaf.chars leaf) (level : Nat) {after : List Char}
    (hafter : Gap after) : SpellsMembers (memberLineChars level members ++ after) members := by
  cases members with
  | nil => exact absurd rfl hne
  | cons member members =>
      obtain ⟨key, value⟩ := member
      have hvalue : value.Spellable := fun leaf hleaf => h leaf (List.mem_append_left _ hleaf)
      have hmembers : ∀ leaf ∈ memberLeaves members, Spells leaf.chars leaf :=
        fun leaf hleaf => h leaf (List.mem_append_right _ hleaf)
      have hkey := (spellsKey_quoted key).gap_append (gap_newLine level)
      have hfirst := (spells_lineChars hvalue level).stands.gap_append gap_blank
      cases members with
      | nil =>
          have hlast := SpellsMembers.last hkey (hfirst.append_gap hafter)
          simpa [memberLineChars] using hlast
      | cons next members =>
          have hrest := spellsMembers_memberLineChars (List.cons_ne_nil _ _) hmembers level hafter
          have hmore := SpellsMembers.more hkey hfirst hrest
          simpa [memberLineChars] using hmore

end

/-- A value that can be stored is read back from its lines. -/
theorem Storable.ofText?_toLines {v : Json} (h : v.Storable) : ofText? v.toLines = some v := by
  rw [ofText?_eq_some_iff, toLines, String.toList_ofList]
  exact ⟨(spells_lineChars h.spellable 0).stands, h.depth⟩

end Json
end ProxyControl
