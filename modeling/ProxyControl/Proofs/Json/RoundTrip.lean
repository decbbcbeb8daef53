import ProxyControl.Proofs.Json.Acceptance

/-!
# Values that are written and read again

A value that is written on one line and read again is the same value, if its integers fit 64
bits, its reals are read back from their own texts, and its nesting is one that is read.  The
canonical form of such a value is such a value.

Main results:

- Structure `Storable`: the values that survive.
- Theorem `spells_chars`: the text of a value is a spelling of it.
- Theorem `Storable.ofText?_toText`: a value that can be stored is read back.
-/

namespace ProxyControl
namespace Json

/-! ## Values that can be stored -/

/-- A value that can be stored as text: the reader allows its nesting, its integers fit 64 bits
with or without a sign, and each of its reals is read back from its own text. -/
structure Storable (v : Json) : Prop where
  depth : v.depth ≤ maxDepth
  ints : ∀ n, int n ∈ v.leaves →
    -(IntegerRange.signedBound : Int) ≤ n ∧ n < IntegerRange.unsignedBound
  reals : ∀ x, real x ∈ v.leaves → ofText? (real x).toText = some (real x)

/-! ## Leaves -/

/-- A switch is written as it is spelled. -/
theorem spells_bool (b : Bool) : Spells (bool b).chars (bool b) := by
  cases b with
  | true => exact .true
  | false => exact .false

/-- A string in quotes is a spelling of its content. -/
theorem spellsString_escape (cs : List Char) : SpellsString (cs.flatMap escape) cs := by
  obtain ⟨part, hpart, heq⟩ := spellsString_of_readString (readString_escape cs [])
  rwa [List.append_cancel_right heq]

/-- A text is written as it is spelled. -/
theorem spells_str (s : String) : Spells (str s).chars (str s) := by
  have h := Spells.string (spellsString_escape s.toList)
  rwa [String.ofList_toList] at h

/-- An integer of 64 bits is written as it is spelled. -/
theorem spells_int {n : Int} (hlow : -(IntegerRange.signedBound : Int) ≤ n)
    (hhigh : n < IntegerRange.unsignedBound) : Spells (int n).chars (int n) :=
  .number (.integer ⟨hlow, hhigh⟩)

/-- A real that is read back from its own text is spelled by it. -/
theorem spells_real {x : Binary64} (h : ofText? (real x).toText = some (real x)) :
    Spells (real x).chars (real x) := by
  have hfinite : x.isFinite = true := by
    by_contra hnot
    have hnull : (real x).toText = "null" := by simp [toText, chars, scalarChars, hnot]
    rw [hnull] at h
    cases h
  have hchars : (real x).chars = Shortest.text realLayout x := by simp [chars, scalarChars, hfinite]
  -- Nothing stands around the number, because a blank is no part of one.
  have hnone (gap : List Char) (hgap : Gap gap) (hsub : gap ⊆ (real x).chars) : gap = [] := by
    refine List.eq_nil_iff_forall_not_mem.2 fun c hc => ?_
    have hnumber : isNumberChar c = true := isNumberChar_of_mem_text (hchars ▸ hsub hc)
    have hblank := hgap c hc
    rw [isGap_of_isNumberChar hnumber] at hblank
    cases hblank
  have hstands := (ofText?_eq_some_iff.1 h).1
  rw [toText, String.toList_ofList] at hstands
  generalize (real x).chars = cs at hstands hnone
  cases hstands with
  | mk hbefore hspells hafter =>
      cases hnone _ hbefore (by simp)
      cases hnone _ hafter (by simp)
      rwa [List.nil_append, List.append_nil]

/-- A key is written in quotes, without blanks. -/
theorem spellsKey_quoted (key : String) : SpellsKey (quoted key) key := by
  have h := SpellsKey.mk gap_nil (spellsString_escape key.toList) gap_nil
  rwa [String.ofList_toList] at h

/-! ## Spelling values -/

/-- Every leaf of a value is spelled by its text. -/
def Spellable (v : Json) : Prop :=
  ∀ leaf ∈ v.leaves, Spells leaf.chars leaf

mutual

/-- The text of a value is a spelling of it. -/
theorem spells_chars {v : Json} (h : v.Spellable) : Spells v.chars v := by
  cases v with
  | null => exact .null
  | bool b => exact spells_bool b
  | int n => exact h _ List.mem_cons_self
  | real x => exact h _ List.mem_cons_self
  | str s => exact spells_str s
  | arr items =>
      cases items with
      | nil => exact .emptyArray gap_nil
      | cons item items => exact .array (spellsItems_itemChars (List.cons_ne_nil _ _) h)
  | obj members =>
      cases members with
      | nil => exact .emptyObject gap_nil
      | cons member members => exact .object (spellsMembers_memberChars (List.cons_ne_nil _ _) h)

/-- The items of an array are spelled out if their leaves are. -/
theorem spellsItems_itemChars {items : List Json} (hne : items ≠ [])
    (h : ∀ leaf ∈ itemLeaves items, Spells leaf.chars leaf) :
    SpellsItems (itemChars items) items := by
  cases items with
  | nil => exact absurd rfl hne
  | cons item items =>
      have hitem : item.Spellable := fun leaf hleaf => h leaf (List.mem_append_left _ hleaf)
      have hitems : ∀ leaf ∈ itemLeaves items, Spells leaf.chars leaf :=
        fun leaf hleaf => h leaf (List.mem_append_right _ hleaf)
      have hfirst := (spells_chars hitem).stands
      cases items with
      | nil => exact .last hfirst
      | cons next items => exact .more hfirst (spellsItems_itemChars (List.cons_ne_nil _ _) hitems)

/-- The members of an object are spelled out if their leaves are. -/
theorem spellsMembers_memberChars {members : List (String × Json)} (hne : members ≠ [])
    (h : ∀ leaf ∈ memberLeaves members, Spells leaf.chars leaf) :
    SpellsMembers (memberChars members) members := by
  cases members with
  | nil => exact absurd rfl hne
  | cons member members =>
      obtain ⟨key, value⟩ := member
      have hvalue : value.Spellable := fun leaf hleaf => h leaf (List.mem_append_left _ hleaf)
      have hmembers : ∀ leaf ∈ memberLeaves members, Spells leaf.chars leaf :=
        fun leaf hleaf => h leaf (List.mem_append_right _ hleaf)
      have hfirst := (spells_chars hvalue).stands
      cases members with
      | nil => exact .last (spellsKey_quoted key) hfirst
      | cons next members =>
          exact .more (spellsKey_quoted key) hfirst
            (spellsMembers_memberChars (List.cons_ne_nil _ _) hmembers)

end

/-! ## Stored values -/

/-- The real that a value is. -/
def asReal? : Json → Option Binary64
  | real x => some x
  | _ => none

/-- Only reals are taken as reals. -/
theorem eq_real_of_asReal? {v : Json} {x : Binary64} (h : v.asReal? = some x) : v = real x := by
  cases v with
  | real y => rw [Option.some.inj h]
  | _ => cases h

/-- Whether a real is read back is seen from the bits that are read. -/
theorem ofText?_real_of_bits {x : Binary64}
    (h : (ofText? (real x).toText).bind asReal? = some x) :
    ofText? (real x).toText = some (real x) := by
  obtain ⟨value, hvalue, hreal⟩ := Option.bind_eq_some_iff.1 h
  rw [hvalue, eq_real_of_asReal? hreal]

namespace Storable

variable {v : Json}

/-- A value that can be stored can be spelled. -/
theorem spellable (h : v.Storable) : v.Spellable := by
  intro leaf hleaf
  cases leaf with
  | null => exact .null
  | bool b => exact spells_bool b
  | int n => exact spells_int (h.ints n hleaf).1 (h.ints n hleaf).2
  | real x => exact spells_real (h.reals x hleaf)
  | str s => exact spells_str s
  | arr items => cases isLeaf_of_mem_leaves hleaf
  | obj members => cases isLeaf_of_mem_leaves hleaf

/-- A value that can be stored is read back from its characters, and nothing is left. -/
theorem read_chars (h : v.Storable) : read v.chars = some (v, []) := by
  have hvalue := (spells_chars h.spellable).readValue
    (show _ ≤ 2 * v.chars.length + 2 by omega) h.depth endsNumber_nil
  rwa [List.append_nil] at hvalue

/-- A value that can be stored is read back from its text. -/
theorem ofText?_toText (h : v.Storable) : ofText? v.toText = some v := by
  rw [ofText?, toText, String.toList_ofList, h.read_chars]
  rfl

/-- The canonical form of a value that can be stored can be stored. -/
theorem canonical (h : v.Storable) : v.canonical.Storable where
  depth := Nat.le_trans (depth_canonical_le v) h.depth
  ints n hn := h.ints n (leaves_canonical_subset v hn)
  reals x hx := h.reals x (leaves_canonical_subset v hx)

end Storable

/-- A switch can be stored. -/
theorem storable_bool (b : Bool) : (bool b).Storable where
  depth := Nat.zero_le _
  ints n hn := by cases List.mem_singleton.1 hn
  reals x hx := by cases List.mem_singleton.1 hx

/-- Any text can be stored. -/
theorem storable_str (s : String) : (str s).Storable where
  depth := Nat.zero_le _
  ints n hn := by cases List.mem_singleton.1 hn
  reals x hx := by cases List.mem_singleton.1 hx

/-- An integer of 64 bits can be stored. -/
theorem storable_int {n : Int} (hlow : -(IntegerRange.signedBound : Int) ≤ n)
    (hhigh : n < IntegerRange.unsignedBound) : (int n).Storable where
  depth := Nat.zero_le _
  ints m hm := by
    cases List.mem_singleton.1 hm
    exact ⟨hlow, hhigh⟩
  reals x hx := by cases List.mem_singleton.1 hx

end Json
end ProxyControl
