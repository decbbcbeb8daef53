import ProxyControl.Preference.Json
import ProxyControl.Proofs.Json.Reach
import ProxyControl.Proofs.Json.RoundTrip
import ProxyControl.Proofs.Preference.Leaves

/-!
# Preference values and their texts

The text of a preference value has no tags, so the kind of each part is recovered from its form.
Still no value of one kind is written in the form of another, except that a value that is not read
is written as a text.  The values that have a text to be read from are those without values that
are not read and without reals that are not finite, nested at most 127 deep.

Main results:

- Structure `PrefValue.Expressible`: the values that have a text.
- Theorem `PrefValue.expressible_of_ofText`: no other value is read.
- Theorem `PrefValue.ofJson?_toJson`: the kinds of all parts are recovered.
- Theorem `PrefValue.ofText_toText`: a value is read back from its own text.
- Theorem `PrefValue.expressible_iff_read`: reading and writing are inverse to each other.
-/

namespace ProxyControl
namespace PrefValue

/-- A value that has a text: it has no value that is not read and no real that is not finite, and
is not nested more than 127 deep. -/
structure Expressible (v : PrefValue) : Prop where
  /-- The keys of each dictionary are in order, as they always are. -/
  ordered : v.Ordered
  depth : v.depth ≤ 127
  readable : ∀ description, unreadable description ∉ v.leaves
  finite : ∀ x, real x ∈ v.leaves → x.isFinite = true

/-! ## What is read -/

/-- Items are read if the first one and the others are. -/
theorem ofItems?_cons {item : Json} {rest : List Json} {values : List PrefValue}
    (h : ofItems? (item :: rest) = some values) :
    ∃ value others, ofJson? item = some value ∧ ofItems? rest = some others ∧
      values = value :: others := by
  rw [ofItems?] at h
  split at h
  · rename_i value others hvalue hothers
    exact ⟨value, others, hvalue, hothers, (Option.some.inj h).symm⟩
  · cases h

/-- Members are read if the first one and the others are. -/
theorem ofMembers?_cons {key : String} {item : Json} {rest : List (String × Json)}
    {entries : List (String × PrefValue)} (h : ofMembers? ((key, item) :: rest) = some entries) :
    ∃ value others, ofJson? item = some value ∧ ofMembers? rest = some others ∧
      entries = (key, value) :: others := by
  rw [ofMembers?] at h
  split at h
  · rename_i value others hvalue hothers
    exact ⟨value, others, hvalue, hothers, (Option.some.inj h).symm⟩
  · cases h

mutual

/-- The dictionaries of a value that is read are in order. -/
theorem ordered_of_ofJson? {j : Json} {v : PrefValue} (h : ofJson? j = some v) : v.Ordered := by
  cases j with
  | arr items =>
      obtain ⟨values, hvalues, rfl⟩ := Option.map_eq_some_iff.1 h
      exact itemsOrdered_of_ofItems? hvalues
  | obj members =>
      obtain ⟨entries, hentries, rfl⟩ := Option.map_eq_some_iff.1 h
      refine ⟨Dict.ordered_ofList entries, entriesOrdered_iff.2 fun entry hentry => ?_⟩
      exact entriesOrdered_iff.1 (entriesOrdered_of_ofMembers? hentries) entry
        (Dict.mem_of_mem_ofList hentry)
  | null => cases h
  | int n =>
      simp only [ofJson?] at h
      split at h <;> cases h <;> trivial
  | _ =>
      cases h
      trivial

/-- The dictionaries in items that are read are in order. -/
theorem itemsOrdered_of_ofItems? {items : List Json} {values : List PrefValue}
    (h : ofItems? items = some values) : ItemsOrdered values := by
  cases items with
  | nil =>
      cases h
      trivial
  | cons item rest =>
      obtain ⟨value, others, hvalue, hothers, rfl⟩ := ofItems?_cons h
      exact ⟨ordered_of_ofJson? hvalue, itemsOrdered_of_ofItems? hothers⟩

/-- The dictionaries in members that are read are in order. -/
theorem entriesOrdered_of_ofMembers? {members : List (String × Json)}
    {entries : List (String × PrefValue)} (h : ofMembers? members = some entries) :
    EntriesOrdered entries := by
  cases members with
  | nil =>
      cases h
      trivial
  | cons member rest =>
      obtain ⟨value, others, hvalue, hothers, rfl⟩ := ofMembers?_cons h
      exact ⟨ordered_of_ofJson? hvalue, entriesOrdered_of_ofMembers? hothers⟩

end

mutual

/-- A value that is read is no deeper than what it is read from. -/
theorem depth_le_of_ofJson? {j : Json} {v : PrefValue} (h : ofJson? j = some v) :
    v.depth ≤ j.depth := by
  cases j with
  | arr items =>
      obtain ⟨values, hvalues, rfl⟩ := Option.map_eq_some_iff.1 h
      exact Nat.succ_le_succ (itemsDepth_le_of_ofItems? hvalues)
  | obj members =>
      obtain ⟨entries, hentries, rfl⟩ := Option.map_eq_some_iff.1 h
      refine Nat.succ_le_succ (entriesDepth_le_iff.2 fun entry hentry => ?_)
      exact entriesDepth_le_iff.1 (entriesDepth_le_of_ofMembers? hentries) entry
        (Dict.mem_of_mem_ofList hentry)
  | null => cases h
  | int n =>
      simp only [ofJson?] at h
      split at h <;> cases h <;> exact Nat.le_refl _
  | _ =>
      cases h
      exact Nat.le_refl _

/-- Items that are read are nested no deeper than their texts. -/
theorem itemsDepth_le_of_ofItems? {items : List Json} {values : List PrefValue}
    (h : ofItems? items = some values) : itemsDepth values ≤ Json.itemsDepth items := by
  cases items with
  | nil =>
      cases h
      exact Nat.le_refl _
  | cons item rest =>
      obtain ⟨value, others, hvalue, hothers, rfl⟩ := ofItems?_cons h
      have hfirst := depth_le_of_ofJson? hvalue
      have hrest := itemsDepth_le_of_ofItems? hothers
      rw [itemsDepth, Json.itemsDepth]
      omega

/-- Members that are read are nested no deeper than their texts. -/
theorem entriesDepth_le_of_ofMembers? {members : List (String × Json)}
    {entries : List (String × PrefValue)} (h : ofMembers? members = some entries) :
    entriesDepth entries ≤ Json.membersDepth members := by
  cases members with
  | nil =>
      cases h
      exact Nat.le_refl _
  | cons member rest =>
      obtain ⟨value, others, hvalue, hothers, rfl⟩ := ofMembers?_cons h
      have hfirst := depth_le_of_ofJson? hvalue
      have hrest := entriesDepth_le_of_ofMembers? hothers
      rw [entriesDepth, Json.membersDepth]
      omega

end

mutual

/-- Each leaf of a value that is read is read from a leaf. -/
theorem exists_leaf_of_ofJson? {j : Json} {v : PrefValue} (h : ofJson? j = some v)
    {leaf : PrefValue} (hleaf : leaf ∈ v.leaves) :
    ∃ origin ∈ j.leaves, ofJson? origin = some leaf := by
  cases j with
  | arr items =>
      obtain ⟨values, hvalues, rfl⟩ := Option.map_eq_some_iff.1 h
      exact exists_leaf_of_ofItems? hvalues hleaf
  | obj members =>
      obtain ⟨entries, hentries, rfl⟩ := Option.map_eq_some_iff.1 h
      obtain ⟨entry, hentry, hleaf⟩ := mem_entryLeaves_iff.1 hleaf
      exact exists_leaf_of_ofMembers? hentries
        (mem_entryLeaves_iff.2 ⟨entry, Dict.mem_of_mem_ofList hentry, hleaf⟩)
  | null => cases h
  | int n =>
      refine ⟨_, List.mem_cons_self, ?_⟩
      simp only [ofJson?] at h ⊢
      split at h <;> cases h <;> rw [List.mem_singleton.1 hleaf] <;> simp_all
  | _ =>
      cases h
      rw [List.mem_singleton.1 hleaf]
      exact ⟨_, List.mem_cons_self, rfl⟩

/-- Every leaf of items that are read is read from a leaf. -/
theorem exists_leaf_of_ofItems? {items : List Json} {values : List PrefValue}
    (h : ofItems? items = some values) {leaf : PrefValue} (hleaf : leaf ∈ itemLeaves values) :
    ∃ origin ∈ Json.itemLeaves items, ofJson? origin = some leaf := by
  cases items with
  | nil =>
      cases h
      cases hleaf
  | cons item rest =>
      obtain ⟨value, others, hvalue, hothers, rfl⟩ := ofItems?_cons h
      rcases List.mem_append.1 hleaf with hleaf | hleaf
      · obtain ⟨origin, horigin, hread⟩ := exists_leaf_of_ofJson? hvalue hleaf
        exact ⟨origin, List.mem_append_left _ horigin, hread⟩
      · obtain ⟨origin, horigin, hread⟩ := exists_leaf_of_ofItems? hothers hleaf
        exact ⟨origin, List.mem_append_right _ horigin, hread⟩

/-- Every leaf of members that are read is read from a leaf. -/
theorem exists_leaf_of_ofMembers? {members : List (String × Json)}
    {entries : List (String × PrefValue)} (h : ofMembers? members = some entries)
    {leaf : PrefValue} (hleaf : leaf ∈ entryLeaves entries) :
    ∃ origin ∈ Json.memberLeaves members, ofJson? origin = some leaf := by
  cases members with
  | nil =>
      cases h
      cases hleaf
  | cons member rest =>
      obtain ⟨value, others, hvalue, hothers, rfl⟩ := ofMembers?_cons h
      rcases List.mem_append.1 hleaf with hleaf | hleaf
      · obtain ⟨origin, horigin, hread⟩ := exists_leaf_of_ofJson? hvalue hleaf
        exact ⟨origin, List.mem_append_left _ horigin, hread⟩
      · obtain ⟨origin, horigin, hread⟩ := exists_leaf_of_ofMembers? hothers hleaf
        exact ⟨origin, List.mem_append_right _ horigin, hread⟩

end

/-- An integer of 64 bits, with a sign or without, is a finite real. -/
theorem isFinite_ofInt {n : Int} (hlow : -(IntegerRange.signedBound : Int) ≤ n)
    (hhigh : n < IntegerRange.unsignedBound) : (Binary64.ofInt n).isFinite = true := by
  have hbound : n.natAbs ≤ 2 ^ 64 * 1 := by
    have hsigned : (IntegerRange.signedBound : Int) ≤ 2 ^ 64 := by decide
    have hunsigned : (IntegerRange.unsignedBound : Int) ≤ 2 ^ 64 := by decide
    omega
  exact Binary64.isFinite_of_exponentField_le (k := 64)
    (Binary64.exponentField_ofRatio_le (by decide) hbound _) (by decide)

/-- What is read from a leaf in reach is neither unreadable nor a real that is not finite. -/
theorem readable_of_isReached {origin : Json} {leaf : PrefValue} (horigin : origin.IsReached)
    (h : ofJson? origin = some leaf) :
    (∀ description, leaf ≠ unreadable description) ∧
      ∀ x, leaf = real x → x.isFinite = true := by
  cases origin with
  | null => cases h
  | int n =>
      simp only [ofJson?] at h
      split at h <;> cases h
      · exact ⟨nofun, nofun⟩
      · refine ⟨nofun, ?_⟩
        rintro _ ⟨⟩
        exact isFinite_ofInt horigin.1 horigin.2
  | real x =>
      cases h
      refine ⟨nofun, ?_⟩
      rintro _ ⟨⟩
      exact horigin
  | arr items =>
      obtain ⟨values, -, rfl⟩ := Option.map_eq_some_iff.1 h
      exact ⟨nofun, nofun⟩
  | obj members =>
      obtain ⟨entries, -, rfl⟩ := Option.map_eq_some_iff.1 h
      exact ⟨nofun, nofun⟩
  | _ =>
      cases h
      exact ⟨nofun, nofun⟩

/-- Every value that is read is one that has a text. -/
theorem expressible_of_ofText {text : String} {v : PrefValue} (h : ofText text = .ok v) :
    v.Expressible := by
  unfold ofText at h
  split at h
  · cases h
  rename_i json rest hread
  split at h
  · cases h
  rename_i value hvalue
  split at h
  case isFalse => cases h
  cases h
  have hreached : json.Reached Json.maxDepth := Json.reached_of_readValue hread
  refine ⟨ordered_of_ofJson? hvalue, Nat.le_trans (depth_le_of_ofJson? hvalue) hreached.depth,
    fun description hleaf => ?_, fun x hleaf => ?_⟩
  all_goals
    obtain ⟨origin, horigin, hread⟩ := exists_leaf_of_ofJson? hvalue hleaf
    have hreadable := readable_of_isReached (hreached.leaves origin horigin) hread
  · exact hreadable.1 description rfl
  · exact hreadable.2 x rfl

/-! ## What is written -/

/-- A signed integer of 64 bits fits. -/
theorem fits_toInt (n : Int64) : IntegerRange.fits n.toInt = true :=
  (IntegerRange.fits_iff _).2 ⟨n.le_toInt, n.toInt_lt⟩

mutual

/-- The kind of each part is recovered from its form. -/
theorem ofJson?_toJson {v : PrefValue} (hv : v.Ordered)
    (hreadable : ∀ description, unreadable description ∉ v.leaves) :
    ofJson? v.toJson = some v := by
  cases v with
  | int n =>
      rw [toJson, ofJson?, if_pos (fits_toInt n), Int64.ofInt_toInt]
  | arr items =>
      rw [toJson, ofJson?, ofItems?_itemsToJson hv hreadable]
      rfl
  | dict entries =>
      rw [toJson, ofJson?, ofMembers?_entriesToJson hv.2 hreadable, Option.map_some,
        Dict.ofList_of_ordered hv.1]
  | unreadable description => exact absurd List.mem_cons_self (hreadable description)
  | _ => rfl

/-- Items are read back from their JSON values. -/
theorem ofItems?_itemsToJson {items : List PrefValue} (hv : ItemsOrdered items)
    (hreadable : ∀ description, unreadable description ∉ itemLeaves items) :
    ofItems? (itemsToJson items) = some items := by
  cases items with
  | nil => rfl
  | cons item rest =>
      have hitem := ofJson?_toJson hv.1 fun description hleaf =>
        hreadable description (List.mem_append_left _ hleaf)
      have hrest := ofItems?_itemsToJson hv.2 fun description hleaf =>
        hreadable description (List.mem_append_right _ hleaf)
      rw [itemsToJson, ofItems?, hitem, hrest]

/-- Entries are read back from their JSON values. -/
theorem ofMembers?_entriesToJson {entries : List (String × PrefValue)}
    (hv : EntriesOrdered entries)
    (hreadable : ∀ description, unreadable description ∉ entryLeaves entries) :
    ofMembers? (entriesToJson entries) = some entries := by
  cases entries with
  | nil => rfl
  | cons entry rest =>
      have hentry := ofJson?_toJson hv.1 fun description hleaf =>
        hreadable description (List.mem_append_left _ hleaf)
      have hrest := ofMembers?_entriesToJson hv.2 fun description hleaf =>
        hreadable description (List.mem_append_right _ hleaf)
      rw [entriesToJson, ofMembers?, hentry, hrest]

end

mutual

/-- The JSON value of a preference is nested as deeply as the preference. -/
@[simp]
theorem depth_toJson (v : PrefValue) : v.toJson.depth = v.depth := by
  cases v with
  | arr items => rw [toJson, Json.depth, depth, itemsDepth_itemsToJson]
  | dict entries => rw [toJson, Json.depth, depth, membersDepth_entriesToJson]
  | _ => rfl

/-- The JSON values of items are nested as deeply as the items. -/
theorem itemsDepth_itemsToJson (items : List PrefValue) :
    Json.itemsDepth (itemsToJson items) = itemsDepth items := by
  cases items with
  | nil => rfl
  | cons item rest =>
      rw [itemsToJson, Json.itemsDepth, itemsDepth, depth_toJson, itemsDepth_itemsToJson]

/-- The JSON values of entries are nested as deeply as the entries. -/
theorem membersDepth_entriesToJson (entries : List (String × PrefValue)) :
    Json.membersDepth (entriesToJson entries) = entriesDepth entries := by
  cases entries with
  | nil => rfl
  | cons entry rest =>
      rw [entriesToJson, Json.membersDepth, entriesDepth, depth_toJson,
        membersDepth_entriesToJson]

end

mutual

/-- The leaves of the JSON value of a preference are those of the preference. -/
@[simp]
theorem leaves_toJson (v : PrefValue) : v.toJson.leaves = v.leaves.map toJson := by
  cases v with
  | arr items => rw [toJson, Json.leaves, leaves, itemLeaves_itemsToJson]
  | dict entries => rw [toJson, Json.leaves, leaves, memberLeaves_entriesToJson]
  | _ => rfl

/-- The leaves of the JSON values of items are those of the items. -/
theorem itemLeaves_itemsToJson (items : List PrefValue) :
    Json.itemLeaves (itemsToJson items) = (itemLeaves items).map toJson := by
  cases items with
  | nil => rfl
  | cons item rest =>
      rw [itemsToJson, Json.itemLeaves, itemLeaves, List.map_append, leaves_toJson,
        itemLeaves_itemsToJson]

/-- The leaves of the JSON values of entries are those of the entries. -/
theorem memberLeaves_entriesToJson (entries : List (String × PrefValue)) :
    Json.memberLeaves (entriesToJson entries) = (entryLeaves entries).map toJson := by
  cases entries with
  | nil => rfl
  | cons entry rest =>
      rw [entriesToJson, Json.memberLeaves, entryLeaves, List.map_append, leaves_toJson,
        memberLeaves_entriesToJson]

end

/-- Each finite real in the value is read back, with all its bits, from the text that is printed
for it. -/
def RealsReadBack (v : PrefValue) : Prop :=
  ∀ x, real x ∈ v.leaves → x.isFinite = true →
    Json.ofText? (Json.real x).toText = some (.real x)

/-- What is written for a value that has a text can be stored. -/
theorem Expressible.storable_toJson {v : PrefValue} (hv : v.Expressible)
    (hreals : v.RealsReadBack) : v.toJson.Storable where
  depth := by
    rw [depth_toJson]
    exact hv.depth
  ints n hn := by
    rw [leaves_toJson] at hn
    obtain ⟨leaf, -, hn⟩ := List.mem_map.1 hn
    cases leaf <;> cases hn
    rename_i n
    have hbound : (IntegerRange.signedBound : Int) ≤ IntegerRange.unsignedBound := by decide
    exact ⟨n.le_toInt, Int.lt_of_lt_of_le n.toInt_lt hbound⟩
  reals x hx := by
    rw [leaves_toJson] at hx
    obtain ⟨leaf, hleaf, hx⟩ := List.mem_map.1 hx
    cases leaf <;> cases hx
    exact hreals _ hleaf (hv.finite _ hleaf)

/-- A value that has a text is read back from the text that is printed for it. -/
theorem ofText_toText {v : PrefValue} (hv : v.Expressible) (hreals : v.RealsReadBack) :
    ofText v.toText = .ok v := by
  rw [ofText, toText, Json.toText, String.toList_ofList, (hv.storable_toJson hreals).read_chars]
  simp only [ofJson?_toJson hv.ordered hv.readable]
  rfl

/-- Reading and printing are inverse to each other.  Only values that have a text are read; and
where printing keeps the reals, each value that has a text is read, namely from its own text. -/
theorem expressible_iff_read :
    (∀ text v, ofText text = .ok v → v.Expressible) ∧
      ∀ v : PrefValue, v.RealsReadBack →
        ((∃ text, ofText text = .ok v) ↔ v.Expressible) ∧
          (v.Expressible → ofText v.toText = .ok v) := by
  refine ⟨fun text v => expressible_of_ofText, fun v hreals => ⟨⟨?_, fun hv => ?_⟩, fun hv => ?_⟩⟩
  · rintro ⟨text, htext⟩
    exact expressible_of_ofText htext
  · exact ⟨v.toText, ofText_toText hv hreals⟩
  · exact ofText_toText hv hreals

/-- A dictionary with the bounds of the integers, an empty key, a whole real and a negative zero. -/
def printedSettings : PrefValue :=
  dict [("", int Int64.maxValue), ("Exceptions", arr [real ⟨0x3FF0000000000000⟩,
    real ⟨0x8000000000000000⟩, int 1, bool true, str "1.0", dict []]), ("Port", int Int64.minValue)]

theorem expressible_printedSettings : printedSettings.Expressible where
  ordered := by
    have hkeys : List.Pairwise (· < ·) ["", "Exceptions", "Port"] := by decide
    refine ⟨(Dict.ordered_iff_keys _).2 hkeys, ?_⟩
    simp [EntriesOrdered, ItemsOrdered, Ordered, Dict.Ordered]
  depth := by decide
  readable description h := by
    simp [printedSettings, leaves, entryLeaves, itemLeaves] at h
  finite x h := by
    simp only [printedSettings, leaves, entryLeaves, itemLeaves, List.append_nil, List.cons_append,
      List.nil_append, List.mem_cons, List.not_mem_nil, real.injEq, reduceCtorEq, false_or,
      or_false] at h
    rcases h with rfl | rfl <;> decide

theorem realsReadBack_printedSettings : printedSettings.RealsReadBack := by
  intro x h _
  simp only [printedSettings, leaves, entryLeaves, itemLeaves, List.append_nil, List.cons_append,
    List.nil_append, List.mem_cons, List.not_mem_nil, real.injEq, reduceCtorEq, false_or,
    or_false] at h
  rcases h with rfl | rfl <;> exact Json.ofText?_real_of_bits (by decide +kernel)

/-- The text of the dictionary. -/
def printedText : String :=
  "\x7b\"\":9223372036854775807,\"Exceptions\":[1.0,-0.0,1,true,\"1.0\",\x7b\x7d]," ++
    "\"Port\":-9223372036854775808\x7d"

/-- Whole reals stay reals, and the zero stays negative. -/
theorem expressible_iff_read_printedText : ofText printedText = .ok printedSettings := by
  have htext : printedSettings.toText = printedText := by decide +kernel
  rw [← htext]
  exact (expressible_iff_read.2 printedSettings realsReadBack_printedSettings).2
    expressible_printedSettings

end PrefValue
end ProxyControl
