import ProxyControl.Proofs.Preference.Texts

/-!
# Texts without nulls

A JSON text is read as a preference value exactly if no null stands anywhere in it, and then the
value has the structure of the text.  One null refuses the text as a whole, also a null under a
key that a later member of the same key replaces.

Main results:

- Definition `PrefValue.Image`: the value that has the structure of a JSON value.
- Theorem `PrefValue.ofJson?_eq_findSome?`: the kind of a value is the first that takes it.
- Theorem `PrefValue.ofJson?_eq_some_iff`: a JSON value is read as its image, if it has no null.
- Theorem `PrefValue.ofText_of_stands`: the texts that are read, and as which values.
-/

namespace ProxyControl
namespace Json

/-! ## Nulls -/

mutual

/-- A null stands in a value if it is one of its leaves, a replaced member included. -/
theorem hasNull_iff {v : Json} : v.hasNull = true ↔ null ∈ v.leaves := by
  cases v with
  | arr items => exact itemsHaveNull_iff
  | obj members => exact membersHaveNull_iff
  | _ => simp [hasNull, leaves]

/-- The items of an array have a null when it is a leaf of theirs. -/
theorem itemsHaveNull_iff {items : List Json} :
    itemsHaveNull items = true ↔ null ∈ itemLeaves items := by
  cases items with
  | nil => simp [itemsHaveNull, itemLeaves]
  | cons item rest =>
      rw [itemsHaveNull, itemLeaves, Bool.or_eq_true, List.mem_append, hasNull_iff,
        itemsHaveNull_iff]

/-- The members of an object have a null when it is a leaf of theirs, also in a member that a later
one of its key replaces. -/
theorem membersHaveNull_iff {members : List (String × Json)} :
    membersHaveNull members = true ↔ null ∈ memberLeaves members := by
  cases members with
  | nil => simp [membersHaveNull, memberLeaves]
  | cons member rest =>
      rw [membersHaveNull, memberLeaves, Bool.or_eq_true, List.mem_append, hasNull_iff,
        membersHaveNull_iff]

end

/-- The value that counts among the members of a key: the last one. -/
def lastMember? (members : List (String × Json)) (key : String) : Option Json :=
  (members.filter fun member => member.1 = key).getLast?.map Prod.snd

/-- The last member of a key is one of the members. -/
theorem exists_of_lastMember? {members : List (String × Json)} {key : String} {value : Json}
    (h : lastMember? members key = some value) : ∃ member ∈ members, member.2 = value := by
  obtain ⟨member, hlast, hvalue⟩ := Option.map_eq_some_iff.1 h
  exact ⟨member, (List.mem_filter.1 (List.mem_of_getLast? hlast)).1, hvalue⟩

end Json

namespace PrefValue

/-! ## Structure -/

/-- A preference value is the image of a JSON value: it has the same structure, an integer beyond
64 bits with a sign is a real, and of the members of one key the last one counts.  A null has no
image. -/
inductive Image : Json → PrefValue → Prop
  | bool (b : Bool) : Image (.bool b) (.bool b)
  | int (n : Int64) : Image (.int n.toInt) (.int n)
  | large {n : Int} (h : IntegerRange.fits n = false) : Image (.int n) (.real (Binary64.ofInt n))
  | real (x : Binary64) : Image (.real x) (.real x)
  | str (s : String) : Image (.str s) (.str s)
  | arr {items : List Json} {values : List PrefValue} (h : List.Forall₂ Image items values) :
      Image (.arr items) (.arr values)
  | dict {members : List (String × Json)} {entries : PrefDict} (ordered : entries.Ordered)
      (h : ∀ key, Option.Rel Image (Json.lastMember? members key) (entries.find? key)) :
      Image (.obj members) (.dict entries)

mutual

/-- What is read from a JSON value is its image. -/
theorem image_of_ofJson? {j : Json} {v : PrefValue} (h : ofJson? j = some v) : Image j v := by
  cases j with
  | null => cases h
  | bool b =>
      cases h
      exact .bool b
  | int n =>
      simp only [ofJson?] at h
      split at h
      case isTrue hfits =>
        cases h
        obtain ⟨hlow, hhigh⟩ := (IntegerRange.fits_iff n).1 hfits
        have hn : (Int64.ofInt n).toInt = n := Int64.toInt_ofInt_of_le hlow hhigh
        simpa [hn] using Image.int (Int64.ofInt n)
      case isFalse hfits =>
        cases h
        exact .large (by simpa using hfits)
  | real x =>
      cases h
      exact .real x
  | str s =>
      cases h
      exact .str s
  | arr items =>
      obtain ⟨values, hvalues, rfl⟩ := Option.map_eq_some_iff.1 h
      exact .arr (images_of_ofItems? hvalues)
  | obj members =>
      obtain ⟨entries, hentries, rfl⟩ := Option.map_eq_some_iff.1 h
      refine .dict (Dict.ordered_ofList entries) fun key => ?_
      rw [Json.lastMember?, ← Dict.find?_ofList]
      exact Dict.rel_find?_ofList (images_of_ofMembers? hentries) key

/-- The items of an array that is read are read one by one. -/
theorem images_of_ofItems? {items : List Json} {values : List PrefValue}
    (h : ofItems? items = some values) : List.Forall₂ Image items values := by
  cases items with
  | nil =>
      cases h
      exact .nil
  | cons item rest =>
      obtain ⟨value, others, hvalue, hothers, rfl⟩ := ofItems?_cons h
      exact .cons (image_of_ofJson? hvalue) (images_of_ofItems? hothers)

/-- The members of an object that is read keep their keys, and their values are read. -/
theorem images_of_ofMembers? {members : List (String × Json)}
    {entries : List (String × PrefValue)} (h : ofMembers? members = some entries) :
    List.Forall₂ (fun member entry => member.1 = entry.1 ∧ Image member.2 entry.2) members
      entries := by
  cases members with
  | nil =>
      cases h
      exact .nil
  | cons member rest =>
      obtain ⟨value, others, hvalue, hothers, rfl⟩ := ofMembers?_cons h
      exact .cons ⟨rfl, image_of_ofJson? hvalue⟩ (images_of_ofMembers? hothers)

end

/-! ## One image -/

/-- An integer is read as its image. -/
theorem ofJson?_int_of_image {n : Int} {v : PrefValue} (h : Image (.int n) v) :
    ofJson? (.int n) = some v := by
  cases h with
  | int m => rw [ofJson?, if_pos (fits_toInt m), Int64.ofInt_toInt]
  | large h => rw [ofJson?, if_neg (by simp [h])]

/-- The images of the items are unique if that of each item is. -/
theorem forall₂_unique {items : List Json}
    (h : ∀ item ∈ items, ∀ v w, Image item v → Image item w → v = w)
    {values others : List PrefValue} (hvalues : List.Forall₂ Image items values)
    (hothers : List.Forall₂ Image items others) : values = others := by
  induction hvalues generalizing others with
  | nil =>
      cases hothers
      rfl
  | cons hvalue _ ih =>
      cases hothers with
      | cons hother hrest =>
          rw [h _ List.mem_cons_self _ _ hvalue hother,
            ih (fun item hitem => h item (List.mem_cons_of_mem _ hitem)) hrest]

/-- The image of a member that may be missing is unique if that of the member is. -/
theorem rel_unique {found : Option Json}
    (h : ∀ j, found = some j → ∀ v w, Image j v → Image j w → v = w)
    {value other : Option PrefValue} (hvalue : Option.Rel Image found value)
    (hother : Option.Rel Image found other) : value = other := by
  cases hvalue with
  | none =>
      cases hother
      rfl
  | some hvalue =>
      cases hother with
      | some hother => rw [h _ rfl _ _ hvalue hother]

mutual

/-- A JSON value has at most one image. -/
theorem image_unique (j : Json) : ∀ v w, Image j v → Image j w → v = w := by
  intro v w hv hw
  cases j with
  | null => cases hv
  | int n => exact Option.some.inj ((ofJson?_int_of_image hv).symm.trans (ofJson?_int_of_image hw))
  | arr items =>
      cases hv with
      | arr hvalues =>
          cases hw with
          | arr hothers => rw [forall₂_unique (image_unique_items items) hvalues hothers]
  | obj members =>
      cases hv with
      | dict hordered hv =>
          cases hw with
          | dict hordered' hw =>
              congr 1
              refine hordered.ext hordered' fun key => rel_unique (fun j hj => ?_) (hv key) (hw key)
              obtain ⟨member, hmember, rfl⟩ := Json.exists_of_lastMember? hj
              exact image_unique_members members member hmember
  | _ =>
      cases hv
      cases hw
      rfl

/-- Every item of an array has at most one image. -/
theorem image_unique_items (items : List Json) :
    ∀ item ∈ items, ∀ v w, Image item v → Image item w → v = w := by
  cases items with
  | nil => simp
  | cons first rest => exact List.forall_mem_cons.2 ⟨image_unique first, image_unique_items rest⟩

/-- Every member of an object has at most one image. -/
theorem image_unique_members (members : List (String × Json)) :
    ∀ member ∈ members, ∀ v w, Image member.2 v → Image member.2 w → v = w := by
  cases members with
  | nil => simp
  | cons first rest =>
      exact List.forall_mem_cons.2 ⟨image_unique first.2, image_unique_members rest⟩

end

/-! ## What is read -/

mutual

/-- A JSON value is refused if a null stands in it. -/
theorem isSome_ofJson? (j : Json) : (ofJson? j).isSome = !j.hasNull := by
  cases j with
  | int n =>
      rw [ofJson?]
      split <;> rfl
  | arr items => rw [ofJson?, Option.isSome_map, isSome_ofItems?, Json.hasNull]
  | obj members => rw [ofJson?, Option.isSome_map, isSome_ofMembers?, Json.hasNull]
  | _ => rfl

/-- The items of an array are read just if no null is in them. -/
theorem isSome_ofItems? (items : List Json) :
    (ofItems? items).isSome = !Json.itemsHaveNull items := by
  cases items with
  | nil => rfl
  | cons item rest =>
      rw [Json.itemsHaveNull, Bool.not_or, ← isSome_ofJson? item, ← isSome_ofItems? rest, ofItems?]
      cases ofJson? item <;> cases ofItems? rest <;> rfl

/-- The members of an object are read just if no null is in them. -/
theorem isSome_ofMembers? (members : List (String × Json)) :
    (ofMembers? members).isSome = !Json.membersHaveNull members := by
  cases members with
  | nil => rfl
  | cons member rest =>
      rw [Json.membersHaveNull, Bool.not_or, ← isSome_ofJson? member.2, ← isSome_ofMembers? rest,
        ofMembers?]
      cases ofJson? member.2 <;> cases ofMembers? rest <;> rfl

end

/-- A JSON value without nulls is read as its image. -/
theorem ofJson?_eq_some_iff {j : Json} {v : PrefValue} :
    ofJson? j = some v ↔ j.hasNull = false ∧ Image j v := by
  have hsome := isSome_ofJson? j
  constructor
  · intro h
    rw [h] at hsome
    exact ⟨by simpa using hsome, image_of_ofJson? h⟩
  · rintro ⟨hnull, himage⟩
    rw [hnull] at hsome
    obtain ⟨w, hw⟩ := Option.isSome_iff_exists.1 hsome
    rw [hw, image_unique j w v (image_of_ofJson? hw) himage]

/-- No text is read as a description. -/
theorem unreadable_notMem_of_ofJson? {j : Json} {v : PrefValue} (h : ofJson? j = some v)
    (description : String) : unreadable description ∉ v.leaves := by
  intro hleaf
  obtain ⟨origin, -, hread⟩ := exists_leaf_of_ofJson? h hleaf
  cases image_of_ofJson? hread

/-! ## Kinds -/

/-- A boolean is taken from a boolean. -/
def takeBool : Json → Option PrefValue
  | .bool b => some (bool b)
  | _ => none

/-- An integer is taken from a number that fits. -/
def takeInt : Json → Option PrefValue
  | .int n => if IntegerRange.fits n then some (int (Int64.ofInt n)) else none
  | _ => none

/-- A real is taken from any number. -/
def takeReal : Json → Option PrefValue
  | .int n => some (real (Binary64.ofInt n))
  | .real x => some (real x)
  | _ => none

/-- A text is taken from a string. -/
def takeText : Json → Option PrefValue
  | .str s => some (str s)
  | _ => none

/-- An array is taken from an array each of whose items is read. -/
def takeArray : Json → Option PrefValue
  | .arr items => (ofItems? items).map arr
  | _ => none

/-- A dictionary is taken from an object each of whose members is read. -/
def takeDict : Json → Option PrefValue
  | .obj members => (ofMembers? members).map fun entries => dict (Dict.ofList entries)
  | _ => none

/-- A description is taken from a string. -/
def takeDescription : Json → Option PrefValue
  | .str s => some (unreadable s)
  | _ => none

/-- The kinds of preference values in the order in which they are tried. -/
def kinds : List (Json → Option PrefValue) :=
  [takeBool, takeInt, takeReal, takeText, takeArray, takeDict, takeDescription]

/-- The kind of a value is the first that takes it: a text is never a description, and a number
that fits is no real. -/
theorem ofJson?_eq_findSome? (j : Json) : ofJson? j = kinds.findSome? fun take => take j := by
  cases j with
  | int n =>
      simp only [ofJson?, kinds, List.findSome?_cons, takeBool, takeInt, takeReal]
      split <;> rfl
  | arr items =>
      simp only [ofJson?, kinds, List.findSome?_cons, takeBool, takeInt, takeReal, takeText,
        takeArray, takeDict, takeDescription]
      cases ofItems? items <;> rfl
  | obj members =>
      simp only [ofJson?, kinds, List.findSome?_cons, takeBool, takeInt, takeReal, takeText,
        takeArray, takeDict, takeDescription]
      cases ofMembers? members <;> rfl
  | _ => rfl

/-! ## Texts -/

/-- A text that is read as JSON is refused only for its nulls. -/
theorem ofText_of_ofText? {text : String} {j : Json} (h : Json.ofText? text = some j) :
    ofText text = (ofJson? j).elim (.error .null) .ok := by
  unfold Json.ofText? at h
  split at h
  case h_1 => cases h
  case h_2 json rest hread =>
    obtain ⟨hend, hj⟩ := Option.ite_none_right_eq_some.1 h
    obtain rfl := Option.some.inj hj
    rw [ofText, hread]
    cases hvalue : ofJson? json with
    | none => simp [hvalue]
    | some value => simp [hvalue, hend]

/-- A whole number that fits is read as an integer, unless it is a negative zero. -/
theorem ofText_of_spellsWhole {text : String} {n : Int64}
    (h : Json.SpellsWhole text.toList n.toInt) (hsign : text ≠ "-0") :
    ofText text = .ok (.int n) := by
  have hchars : text.toList ≠ ['-', '0'] := fun hchars => hsign (String.toList_inj.1 hchars)
  obtain ⟨hlow, hhigh⟩ := (IntegerRange.fits_iff _).1 (fits_toInt n)
  have hword : Json.IsWord n.toInt := ⟨hlow, hhigh.trans (by decide)⟩
  have hstands : Json.Stands text.toList (.int n.toInt) := (h.spells hword hchars).stands
  rw [ofText_of_ofText? (Json.ofText?_eq_some_iff.2 ⟨hstands, Nat.zero_le _⟩),
    ofJson?_int_of_image (.int n)]
  rfl

/-- A text that spells a JSON value, nested at most 127 deep, is read exactly if no null stands in
the value, a replaced member included; otherwise it is refused as a whole.  A whole number that
fits is read as an integer, unless it is a negative zero.  The text is read as the one image of
the value, which the first kind that takes the value gives and in which nothing is unreadable. -/
theorem ofText_of_stands {text : String} {j : Json} (h : Json.Stands text.toList j)
    (hdepth : j.depth ≤ 127) :
    ((∃ v, ofText text = .ok v) ↔ j.hasNull = false) ∧
      (j.hasNull = true ↔ Json.null ∈ j.leaves) ∧
      (j.hasNull = true → ofText text = .error .null) ∧
      (∀ n : Int64, Json.SpellsWhole text.toList n.toInt → text ≠ "-0" →
        ofText text = .ok (.int n)) ∧
      ∀ v, (ofText text = .ok v ↔ j.hasNull = false ∧ Image j v) ∧
        (ofText text = .ok v ↔ (kinds.findSome? fun take => take j) = some v) ∧
        (ofText text = .ok v → ∀ description, unreadable description ∉ v.leaves) := by
  have hread := ofText_of_ofText? (Json.ofText?_eq_some_iff.2 ⟨h, hdepth⟩)
  have hok (v : PrefValue) : ofText text = .ok v ↔ ofJson? j = some v := by
    rw [hread]
    cases ofJson? j <;> simp
  refine ⟨?_, Json.hasNull_iff, fun hnull => ?_, fun n hn hsign => ?_,
    fun v => ⟨?_, ?_, fun hv => ?_⟩⟩
  · rw [exists_congr hok, ← Option.isSome_iff_exists, isSome_ofJson?, Bool.not_eq_true']
  · have hnone : ofJson? j = none := by
      rw [← Option.isNone_iff_eq_none, ← Option.not_isSome, isSome_ofJson?, hnull]
      rfl
    rw [hread, hnone]
    rfl
  · exact ofText_of_spellsWhole hn hsign
  · rw [hok, ofJson?_eq_some_iff]
  · rw [hok, ofJson?_eq_findSome?]
  · exact unreadable_notMem_of_ofJson? ((hok v).1 hv)

/-- An object in an array whose last member replaces the first one. -/
def replacing (first : Json) : Json :=
  .arr [.obj [("a", first), ("b", .arr [.bool true, .int 18446744073709551615]), ("a", .str "")]]

/-- Values with a replaced member can be written and read back. -/
theorem storable_replacing :
    (replacing (.arr [])).Storable ∧ (replacing (.arr [.null])).Storable := by
  constructor
  all_goals
    refine ⟨by decide, fun n hn => ?_, fun x hx => ?_⟩
    · simp [replacing, Json.leaves, Json.itemLeaves, Json.memberLeaves] at hn
      rw [hn]
      decide
    · simp [replacing, Json.leaves, Json.itemLeaves, Json.memberLeaves] at hx

/-- A member that is replaced does not count, unless there is a null in it. -/
theorem ofText_replacing :
    (∃ v, ofText " [\x7b\"a\":[],\"b\":[true,18446744073709551615],\"a\":\"\"\x7d]" = .ok v ∧
      Image (replacing (.arr [])) v) ∧
    ofText " [\x7b\"a\":[null],\"b\":[true,18446744073709551615],\"a\":\"\"\x7d]" =
      .error .null := by
  have hblank : Json.Gap [' '] := by simp [Json.Gap, Json.isGap]
  have hfree : Json.Stands
      " [\x7b\"a\":[],\"b\":[true,18446744073709551615],\"a\":\"\"\x7d]".toList
      (replacing (.arr [])) :=
    (Json.spells_chars storable_replacing.1.spellable).stands.gap_append hblank
  have hnull : Json.Stands
      " [\x7b\"a\":[null],\"b\":[true,18446744073709551615],\"a\":\"\"\x7d]".toList
      (replacing (.arr [.null])) :=
    (Json.spells_chars storable_replacing.2.spellable).stands.gap_append hblank
  obtain ⟨v, hv⟩ := (ofText_of_stands hfree (by decide)).1.2 rfl
  refine ⟨⟨v, hv, ?_⟩, ?_⟩
  · exact (((ofText_of_stands hfree (by decide)).2.2.2.2 v).1.1 hv).2
  · exact (ofText_of_stands hnull (by decide)).2.2.1 rfl

/-- A zero with a minus sign is read as a real. -/
theorem ofText_negativeZero : ofText "-0" = .ok (.real ⟨0x8000000000000000⟩) := by
  have hbits : (Json.ofText? "-0").bind Json.asReal? = some ⟨0x8000000000000000⟩ := by
    decide +kernel
  obtain ⟨j, hj, hreal⟩ := Option.bind_eq_some_iff.1 hbits
  rw [ofText_of_ofText? hj, Json.eq_real_of_asReal? hreal]
  rfl

/-- Not every whole number that fits 64 bits is read as an integer. -/
theorem not_forall_whole_int : ¬ ∀ (text : String) (n : Int64),
    Json.SpellsWhole text.toList n.toInt → ofText text = .ok (.int n) := by
  intro h
  have hdigits : Json.AreWhole ['0'] := ⟨⟨by simp, by simp⟩, by simp⟩
  have hzero : Json.SpellsWhole "-0".toList (0 : Int64).toInt :=
    ⟨⟨true, ['0'], none, none⟩, ⟨hdigits, [], [], rfl, rfl, by decide⟩, rfl, rfl, by decide⟩
  have hint := h "-0" 0 hzero
  rw [ofText_negativeZero] at hint
  cases hint

end PrefValue
end ProxyControl
