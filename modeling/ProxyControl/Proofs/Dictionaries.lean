import Mathlib.Data.List.Forall2
import Mathlib.Data.List.Induction
import Mathlib.Data.List.Nodup
import Mathlib.Data.String.Basic
import ProxyControl.Dict
import ProxyControl.Proofs.Text.ByteOrder

/-!
# Dictionaries as finite maps

A dictionary in key order has one entry for each key, so looking a key up and being an
entry are the same.  Setting a key that is there changes the value of this one entry,
which makes it a change of values.

Main results:

- Definition `Dict.mapValues`: a dictionary with each value changed.
- Theorem `Dict.find?_eq_some_iff`: the entries are what look-up finds.
- Theorems `Dict.insert_insert`, `Dict.insert_eq_mapValues`: setting a key that is there.
- Theorem `Dict.insert_comm`: different keys can be set in either order.
- Theorems `Dict.find?_erase_self`, `Dict.find?_erase_of_ne`: look-up after a key was erased.
- Theorem `Dict.Ordered.ext`: a dictionary in order is given by what look-up finds.
- Theorem `Dict.ofList_of_ordered`: a dictionary in order is the dictionary of its entries.
- Theorem `Dict.find?_ofList`: of several pairs of one key the last one counts.
- Theorem `Dict.perm_ofList`: pairs with different keys become the entries.
- Theorem `Dict.rel_find?_ofList`: pairs with related values give dictionaries with related values.
- Theorem `Dict.ofList_perm`: the order of pairs with different keys does not matter.
- Theorem `Dict.Ordered.byteOrder`: the keys ascend in the order of their bytes.
-/

namespace ProxyControl
namespace Dict

variable {α β : Type}

/-! ## Entries and look-up -/

/-- What look-up finds is an entry. -/
theorem mem_of_find?_eq_some {d : Dict α} {key : String} {value : α}
    (h : d.find? key = some value) : (key, value) ∈ d := by
  induction d with
  | nil => simp at h
  | cons entry rest ih =>
      obtain ⟨k, v⟩ := entry
      unfold find? at h
      split at h <;> rename_i hk
      · subst hk
        cases h
        exact List.mem_cons_self
      · exact List.mem_cons_of_mem _ (ih h)

/-- The keys are those for which look-up finds something. -/
theorem mem_keys_iff {d : Dict α} {key : String} :
    key ∈ d.keys ↔ ∃ value, d.find? key = some value := by
  induction d with
  | nil => simp [keys]
  | cons entry rest ih =>
      obtain ⟨k, v⟩ := entry
      by_cases hk : k = key
      · simp [keys, find?, hk]
      · simpa [keys, find?, hk, Ne.symm hk] using ih

/-- The entries of a dictionary in order are what look-up finds. -/
theorem find?_eq_some_iff {d : Dict α} (hd : Ordered d) {key : String} {value : α} :
    d.find? key = some value ↔ (key, value) ∈ d := by
  constructor
  · exact mem_of_find?_eq_some
  · intro hmem
    induction d with
    | nil => simp at hmem
    | cons entry rest ih =>
        obtain ⟨k, v⟩ := entry
        obtain ⟨hk, hrest⟩ := List.pairwise_cons.1 hd
        rcases List.mem_cons.1 hmem with heq | hmem
        · cases heq
          simp [find?]
        · have hlt : k < key := hk _ hmem
          have hne : k ≠ key := fun heq => String.lt_irrefl _ (heq ▸ hlt)
          rw [find?, if_neg hne]
          exact ih hrest hmem

/-- The keys of a dictionary in order are distinct. -/
theorem Ordered.eq_of_key_eq {d : Dict α} (hd : Ordered d) {x y : String × α} (hx : x ∈ d)
    (hy : y ∈ d) (h : x.1 = y.1) : x = y := by
  have hfx := (find?_eq_some_iff hd).2 hx
  have hfy := (find?_eq_some_iff hd).2 hy
  rw [h, hfy] at hfx
  exact Prod.ext h (Option.some.inj hfx).symm

/-- The keys of a dictionary in order ascend in the order of their bytes. -/
theorem Ordered.byteOrder {d : Dict α} (hd : Ordered d) :
    d.Pairwise fun x y => Text.Utf8.encode x.1 < Text.Utf8.encode y.1 :=
  hd.imp Text.Utf8.encode_lt_encode_iff.2

/-! ## Changing the values -/

/-- A dictionary with each value changed. -/
def mapValues (f : String → α → β) (d : Dict α) : Dict β :=
  d.map fun entry => (entry.1, f entry.1 entry.2)

@[simp]
theorem mapValues_nil (f : String → α → β) : mapValues f [] = [] :=
  rfl

@[simp]
theorem mapValues_cons (f : String → α → β) (entry : String × α) (d : Dict α) :
    mapValues f (entry :: d) = (entry.1, f entry.1 entry.2) :: mapValues f d :=
  rfl

/-- Changing the values leaves the keys. -/
@[simp]
theorem keys_mapValues (f : String → α → β) (d : Dict α) :
    (mapValues f d).keys = d.keys := by
  simp [keys, mapValues]

instance decidableOrdered (d : Dict α) : Decidable (Ordered d) :=
  inferInstanceAs (Decidable (List.Pairwise _ d))

/-- A dictionary is in order when its keys ascend. -/
theorem ordered_iff_keys (d : Dict α) : Ordered d ↔ d.keys.Pairwise (· < ·) := by
  simp [Ordered, keys, List.pairwise_map]

/-- Changing values keeps the order. -/
theorem Ordered.mapValues {d : Dict α} (hd : Ordered d) (f : String → α → β) :
    Ordered (d.mapValues f) := by
  rw [ordered_iff_keys, keys_mapValues]
  exact (ordered_iff_keys d).1 hd

/-- A changed value is found under the key of the old one. -/
@[simp]
theorem find?_mapValues (f : String → α → β) (d : Dict α) (key : String) :
    (mapValues f d).find? key = (d.find? key).map (f key) := by
  induction d with
  | nil => rfl
  | cons entry rest ih =>
      obtain ⟨k, v⟩ := entry
      rw [mapValues_cons, find?, find?]
      by_cases hk : k = key
      · simp [hk]
      · simpa [hk] using ih

/-- Two changes of the values are the same if they agree on every entry. -/
theorem mapValues_congr {f g : String → α → β} {d : Dict α}
    (h : ∀ entry ∈ d, f entry.1 entry.2 = g entry.1 entry.2) : mapValues f d = mapValues g d :=
  List.map_congr_left fun entry hentry => by rw [h entry hentry]

/-- Two changes of the values in turn are one change. -/
@[simp]
theorem mapValues_mapValues {γ : Type} (g : String → β → γ) (f : String → α → β) (d : Dict α) :
    mapValues g (mapValues f d) = mapValues (fun key value => g key (f key value)) d := by
  simp [mapValues]

@[simp]
theorem mapValues_id (d : Dict α) : mapValues (fun _ value => value) d = d := by
  simp [mapValues]

/-- Of two values set under one key the second counts. -/
@[simp]
theorem insert_insert (d : Dict α) (key : String) (first second : α) :
    (d.insert key first).insert key second = d.insert key second := by
  induction d with
  | nil => simp [insert]
  | cons entry rest ih =>
      obtain ⟨k, v⟩ := entry
      rw [insert, insert]
      by_cases hlt : key < k
      · simp [hlt, insert]
      · by_cases heq : k = key
        · simp [heq, insert]
        · simp [hlt, heq, insert, ih]

/-- Of two keys the lesser one is set in front of the other, whichever is set first. -/
theorem insert_comm_of_lt (d : Dict α) {key other : String} (h : key < other)
    (value another : α) :
    (d.insert key value).insert other another = (d.insert other another).insert key value := by
  have hne : key ≠ other := fun heq => String.lt_irrefl _ (heq ▸ h)
  have hnot : ¬ other < key := String.lt_asymm h
  induction d with
  | nil => simp [insert, h, hne, hnot]
  | cons entry rest ih =>
      obtain ⟨k, v⟩ := entry
      by_cases hlt : key < k
      · -- The key comes in front of the entry, and the other key after it.
        by_cases hother : other < k
        · simp [insert, hlt, hother, h, hne, hnot]
        · by_cases heq : k = other
          · simp [insert, heq, h, hne, hnot]
          · simp [insert, hlt, hother, heq, hne, hnot]
      · by_cases heq : k = key
        · simp [insert, heq, hne, hnot]
        · have hk : k < key :=
            String.not_le.1 fun hle => heq (String.le_antisymm (String.not_lt.1 hlt) hle)
          have hafter : k < other := String.lt_trans hk h
          have hother : ¬ other < k := String.lt_asymm hafter
          have hapart : k ≠ other := fun heq => String.lt_irrefl _ (heq ▸ hafter)
          simp [insert, hlt, heq, hother, hapart, ih]

/-- The order in which two different keys are set does not matter. -/
theorem insert_comm (d : Dict α) {key other : String} (h : key ≠ other) (value another : α) :
    (d.insert key value).insert other another = (d.insert other another).insert key value := by
  by_cases hlt : key < other
  · exact insert_comm_of_lt d hlt value another
  · have hgt : other < key :=
      String.not_le.1 fun hle => h (String.le_antisymm hle (String.not_lt.1 hlt))
    exact (insert_comm_of_lt d hgt another value).symm

/-- Setting a key that is there changes the value of its entry. -/
theorem insert_eq_mapValues {d : Dict α} (hd : Ordered d) {key : String} {old : α}
    (hold : d.find? key = some old) (value : α) :
    d.insert key value = d.mapValues fun k v => if k = key then value else v := by
  induction d with
  | nil => simp at hold
  | cons entry rest ih =>
      obtain ⟨k, v⟩ := entry
      obtain ⟨hk, hrest⟩ := List.pairwise_cons.1 hd
      rw [insert, mapValues_cons]
      by_cases heq : k = key
      · subst heq
        have hsame : mapValues (fun l w => if l = k then value else w) rest = rest := by
          rw [mapValues_congr (g := fun _ w => w), mapValues_id]
          intro entry hentry
          have hne : entry.1 ≠ k := fun h => String.lt_irrefl _ (h ▸ hk entry hentry)
          simp [hne]
        simp [hsame]
      · rw [find?, if_neg heq] at hold
        have hlt : k < key := hk _ (mem_of_find?_eq_some hold)
        have hnot : ¬ key < k := String.lt_asymm hlt
        simp [hnot, heq, ih hrest hold]

/-! ## Erased keys -/

/-- Erasing a key removes the first entry that has it. -/
theorem erase_eq_eraseP (d : Dict α) (key : String) :
    d.erase key = d.eraseP fun entry => entry.1 = key := by
  induction d with
  | nil => rfl
  | cons entry rest ih =>
      obtain ⟨k, v⟩ := entry
      by_cases hk : k = key
      · simp [erase, hk]
      · simp [erase, hk, ih]

/-- Erasing a key keeps the order. -/
theorem Ordered.erase {d : Dict α} (hd : Ordered d) (key : String) : Ordered (d.erase key) := by
  rw [erase_eq_eraseP]
  exact hd.sublist List.eraseP_sublist

/-- A key that was removed is not found. -/
theorem find?_erase_self {d : Dict α} (hd : Ordered d) (key : String) :
    (d.erase key).find? key = none := by
  induction d with
  | nil => rfl
  | cons entry rest ih =>
      obtain ⟨k, v⟩ := entry
      obtain ⟨hk, hrest⟩ := List.pairwise_cons.1 hd
      by_cases heq : k = key
      · rw [Dict.erase, if_pos heq]
        cases hfound : find? rest key with
        | none => rfl
        | some value =>
            have hlt : k < key := hk _ (mem_of_find?_eq_some hfound)
            exact absurd (heq ▸ hlt) (String.lt_irrefl key)
      · rw [Dict.erase, if_neg heq, find?, if_neg heq]
        exact ih hrest

/-- Removing a key leaves the others. -/
theorem find?_erase_of_ne (d : Dict α) {key other : String} (h : other ≠ key) :
    (d.erase key).find? other = d.find? other := by
  induction d with
  | nil => rfl
  | cons entry rest ih =>
      obtain ⟨k, v⟩ := entry
      by_cases hk : k = key
      · simp [Dict.erase, find?, hk, Ne.symm h]
      · simp [Dict.erase, find?, hk, ih]

/-! ## Dictionaries of pairs -/

/-- A dictionary in order has no entry twice. -/
theorem Ordered.nodup {d : Dict α} (hd : Ordered d) : d.Nodup := by
  refine List.Pairwise.imp ?_ hd
  rintro x y hlt rfl
  exact String.lt_irrefl _ hlt

/-- A dictionary in order is given by what look-up finds. -/
theorem Ordered.ext {d e : Dict α} (hd : Ordered d) (he : Ordered e)
    (h : ∀ key, d.find? key = e.find? key) : d = e := by
  have hmem (entry : String × α) : entry ∈ d ↔ entry ∈ e := by
    rw [← find?_eq_some_iff hd, ← find?_eq_some_iff he, h]
  have hperm : d.Perm e := (List.perm_ext_iff_of_nodup hd.nodup he.nodup).2 hmem
  refine hperm.eq_of_pairwise ?_ hd he
  intro x y _ _ hxy hyx
  exact absurd hyx (String.lt_asymm hxy)

/-- Dictionaries in order that hold related values under each key have the same keys. -/
theorem keys_eq_of_rel {R : α → β → Prop} {d : Dict α} {e : Dict β} (hd : Ordered d)
    (he : Ordered e) (h : ∀ key, Option.Rel R (d.find? key) (e.find? key)) : d.keys = e.keys := by
  have hunit : d.mapValues (fun _ _ => ()) = e.mapValues (fun _ _ => ()) := by
    apply (hd.mapValues _).ext (he.mapValues _)
    intro key
    rw [find?_mapValues, find?_mapValues]
    have hkey := h key
    generalize d.find? key = value, e.find? key = other at hkey ⊢
    cases hkey with
    | some _ => rfl
    | none => rfl
  calc d.keys = (d.mapValues fun _ _ => ()).keys := (keys_mapValues _ d).symm
    _ = (e.mapValues fun _ _ => ()).keys := by rw [hunit]
    _ = e.keys := keys_mapValues _ e

/-- Pairs with related values under the same keys give dictionaries with related values. -/
theorem rel_find?_ofList {R : α → β → Prop} {pairs : List (String × α)}
    {others : List (String × β)}
    (h : List.Forall₂ (fun p q => p.1 = q.1 ∧ R p.2 q.2) pairs others) (key : String) :
    Option.Rel R ((ofList pairs).find? key) ((ofList others).find? key) := by
  suffices hfold : ∀ (d : Dict α) (e : Dict β), Option.Rel R (d.find? key) (e.find? key) →
      Option.Rel R ((pairs.foldl (fun d p => insert d p.1 p.2) d).find? key)
        ((others.foldl (fun e q => insert e q.1 q.2) e).find? key) from hfold [] [] .none
  induction h with
  | nil => exact fun d e hde => hde
  | @cons p q _ _ hpq _ ih =>
      intro d e hde
      apply ih
      dsimp only
      rw [← hpq.1]
      by_cases hkey : key = p.1
      · subst hkey
        rw [find?_insert_self, find?_insert_self]
        exact .some hpq.2
      · rwa [find?_insert_of_ne _ _ hkey, find?_insert_of_ne _ _ hkey]

/-- The last of some pairs is inserted last. -/
theorem ofList_concat (pairs : List (String × α)) (key : String) (value : α) :
    ofList (pairs ++ [(key, value)]) = (ofList pairs).insert key value := by
  simp [ofList]

/-- Of the pairs of a key the last one counts. -/
theorem find?_ofList (pairs : List (String × α)) (key : String) :
    (ofList pairs).find? key = (pairs.filter fun p => p.1 = key).getLast?.map Prod.snd := by
  induction pairs using List.reverseRecOn with
  | nil => rfl
  | append_singleton init pair ih =>
      obtain ⟨k, v⟩ := pair
      rw [ofList_concat, List.filter_append]
      by_cases hk : k = key
      · simp [hk]
      · simp [find?_insert_of_ne _ _ (Ne.symm hk), ih, hk]

/-- Pairs with different keys become the entries. -/
theorem find?_ofList_eq_some_iff {pairs : List (String × α)} (distinct : (pairs.map Prod.fst).Nodup)
    {key : String} {value : α} :
    (ofList pairs).find? key = some value ↔ (key, value) ∈ pairs := by
  induction pairs using List.reverseRecOn with
  | nil => simp [ofList]
  | append_singleton init pair ih =>
      obtain ⟨k, v⟩ := pair
      rw [List.map_append, List.nodup_append] at distinct
      obtain ⟨hinit, -, hfresh⟩ := distinct
      rw [ofList_concat]
      by_cases hk : key = k
      · subst hk
        have hnot : (key, value) ∉ init := by
          intro hmem
          exact hfresh key (List.mem_map_of_mem hmem) key (by simp) rfl
        simp [hnot, eq_comm]
      · simp [find?_insert_of_ne _ _ hk, ih hinit, hk]

/-- Pairs with different keys are the entries in another order. -/
theorem perm_ofList {pairs : List (String × α)} (distinct : (pairs.map Prod.fst).Nodup) :
    (ofList pairs).Perm pairs := by
  refine (List.perm_ext_iff_of_nodup (ordered_ofList pairs).nodup
    (List.Nodup.of_map Prod.fst distinct)).2 ?_
  intro entry
  rw [← find?_eq_some_iff (ordered_ofList pairs), find?_ofList_eq_some_iff distinct]

/-- Every entry is one of the pairs. -/
theorem mem_of_mem_ofList {pairs : List (String × α)} {entry : String × α}
    (h : entry ∈ ofList pairs) : entry ∈ pairs := by
  obtain ⟨key, value⟩ := entry
  rw [← find?_eq_some_iff (ordered_ofList pairs)] at h
  induction pairs using List.reverseRecOn with
  | nil => cases h
  | append_singleton init pair ih =>
      obtain ⟨k, v⟩ := pair
      rw [ofList_concat] at h
      by_cases hk : key = k
      · subst hk
        rw [find?_insert_self] at h
        simp [Option.some.inj h]
      · rw [find?_insert_of_ne _ _ hk] at h
        exact List.mem_append_left _ (ih h)

/-- A dictionary in order is the dictionary of its entries. -/
theorem ofList_of_ordered {d : Dict α} (hd : Ordered d) : ofList d = d := by
  have distinct : (d.map Prod.fst).Nodup := by
    refine List.Pairwise.imp ?_ ((ordered_iff_keys d).1 hd)
    rintro k l hlt rfl
    exact String.lt_irrefl _ hlt
  refine (ordered_ofList d).ext hd fun key => Option.ext fun value => ?_
  rw [find?_ofList_eq_some_iff distinct, find?_eq_some_iff hd]

/-- The order of pairs with different keys does not matter. -/
theorem ofList_perm {pairs others : List (String × α)} (distinct : (pairs.map Prod.fst).Nodup)
    (perm : pairs.Perm others) : ofList pairs = ofList others := by
  refine (ordered_ofList pairs).ext (ordered_ofList others) ?_
  intro key
  have distinct' : (others.map Prod.fst).Nodup := (perm.map Prod.fst).nodup_iff.1 distinct
  refine Option.ext fun value => ?_
  rw [find?_ofList_eq_some_iff distinct, find?_ofList_eq_some_iff distinct', perm.mem_iff]

end Dict
end ProxyControl
