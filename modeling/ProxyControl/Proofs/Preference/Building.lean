import ProxyControl.Proofs.Dictionaries
import ProxyControl.Proofs.Preference.Sameness

/-!
# Values that are put together in different orders

A dictionary is built by setting one key after the other.  The order in which different keys
are set leaves no trace, neither in the dictionary itself nor in the values that it becomes
part of, and values that mean the same may stand in for each other on the way.

Main results:

- Type `Building`: how a value is put together.
- Relation `Building.Reordered`: the same things are put together, the keys of each dictionary
  in any order.
- Theorem `Building.Reordered.same`: the values mean the same.
- Theorem `PrefValue.same_regardless_of_order`: the laws of sameness.
-/

namespace ProxyControl

namespace PrefValue

/-- Setting a key to values that mean the same keeps dictionaries the same. -/
theorem sameEntries_insert {d e : PrefDict} (h : sameEntries d e = true) (key : String)
    {a b : PrefValue} (hab : a.same b = true) :
    sameEntries (Dict.insert d key a) (Dict.insert e key b) = true := by
  induction d generalizing e with
  | nil =>
      cases e with
      | nil => simp [Dict.insert, sameEntries, hab]
      | cons _ _ => cases h
  | cons entry d ih =>
      cases e with
      | nil => cases h
      | cons entry' e =>
          obtain ⟨k, x⟩ := entry
          obtain ⟨l, y⟩ := entry'
          simp only [sameEntries, Bool.and_eq_true, beq_iff_eq] at h
          obtain ⟨⟨rfl, hxy⟩, hrest⟩ := h
          rw [Dict.insert, Dict.insert]
          by_cases hlt : key < k
          · simp [hlt, sameEntries, hab, hxy, hrest]
          · by_cases heq : k = key
            · subst heq
              simp [sameEntries, hab, hrest]
            · simp [hlt, heq, sameEntries, hxy, ih hrest]

/-- Pairs with values that mean the same give dictionaries that mean the same. -/
theorem sameEntries_ofList {pairs others : List (String × PrefValue)}
    (h : sameEntries pairs others = true) :
    sameEntries (Dict.ofList pairs) (Dict.ofList others) = true := by
  suffices hfold : ∀ d e : PrefDict, sameEntries d e = true →
      sameEntries (pairs.foldl (fun d p => Dict.insert d p.1 p.2) d)
        (others.foldl (fun d p => Dict.insert d p.1 p.2) e) = true from hfold [] [] rfl
  induction pairs generalizing others with
  | nil =>
      cases others with
      | nil => exact fun d e hde => hde
      | cons _ _ => cases h
  | cons pair pairs ih =>
      cases others with
      | nil => cases h
      | cons other others =>
          obtain ⟨k, a⟩ := pair
          obtain ⟨l, b⟩ := other
          simp only [sameEntries, Bool.and_eq_true, beq_iff_eq] at h
          obtain ⟨⟨rfl, hab⟩, hrest⟩ := h
          intro d e hde
          exact ih hrest _ _ (sameEntries_insert hde k hab)

end PrefValue

/-! ## Buildings -/

/-- How a value is put together: a dictionary by setting one key after the other. -/
inductive Building where
  /-- A value that is there already. -/
  | ready (value : PrefValue)
  | arr (items : List Building)
  | dict (pairs : List (String × Building))

namespace Building

mutual

/-- The value that comes of it. -/
def value : Building → PrefValue
  | ready value => value
  | arr items => .arr (itemValues items)
  | dict pairs => .dict (Dict.ofList (pairValues pairs))

/-- The values of the items of an array. -/
def itemValues : List Building → List PrefValue
  | [] => []
  | item :: rest => item.value :: itemValues rest

/-- The pairs that a dictionary is made from. -/
def pairValues : List (String × Building) → List (String × PrefValue)
  | [] => []
  | (key, item) :: rest => (key, item.value) :: pairValues rest

end

/-- The values of the pairs are built one by one. -/
theorem pairValues_eq_map (pairs : List (String × Building)) :
    pairValues pairs = pairs.map fun pair => (pair.1, pair.2.value) := by
  induction pairs with
  | nil => rfl
  | cons pair rest ih => rw [pairValues, ih, List.map_cons]

/-- The order of pairs with different keys leaves no trace. -/
theorem value_dict_perm {pairs others : List (String × Building)}
    (distinct : (pairs.map Prod.fst).Nodup) (perm : pairs.Perm others) :
    (dict pairs).value = (dict others).value := by
  have hkeys : (pairValues pairs).map Prod.fst = pairs.map Prod.fst := by
    simp [pairValues_eq_map]
  have hperm : (pairValues pairs).Perm (pairValues others) := by
    rw [pairValues_eq_map, pairValues_eq_map]
    exact perm.map _
  rw [value, value, Dict.ofList_perm (hkeys ▸ distinct) hperm]

mutual

/-- The same things are put together, the keys of each dictionary in any order.  The values
that are there already need only mean the same. -/
inductive Reordered : Building → Building → Prop
  | ready {a b : PrefValue} (h : a.same b = true) : Reordered (ready a) (ready b)
  | arr {xs ys : List Building} (h : ItemsReordered xs ys) : Reordered (arr xs) (arr ys)
  | dict {ps qs rs : List (String × Building)} (h : PairsReordered ps qs)
      (distinct : (qs.map Prod.fst).Nodup) (perm : qs.Perm rs) : Reordered (dict ps) (dict rs)

/-- The items are put together from the same things, place by place. -/
inductive ItemsReordered : List Building → List Building → Prop
  | nil : ItemsReordered [] []
  | cons {x y : Building} {xs ys : List Building} (h : Reordered x y)
      (rest : ItemsReordered xs ys) : ItemsReordered (x :: xs) (y :: ys)

/-- The values of the same keys are put together from the same things. -/
inductive PairsReordered : List (String × Building) → List (String × Building) → Prop
  | nil : PairsReordered [] []
  | cons {key : String} {x y : Building} {ps qs : List (String × Building)} (h : Reordered x y)
      (rest : PairsReordered ps qs) : PairsReordered ((key, x) :: ps) ((key, y) :: qs)

end

mutual

/-- Values that are put together in different orders mean the same. -/
theorem Reordered.same {b c : Building} (h : b.Reordered c) : b.value.same c.value = true := by
  cases h with
  | ready h => exact h
  | arr h => simpa only [value, PrefValue.same] using h.same
  | dict h distinct perm =>
      rw [← value_dict_perm distinct perm]
      simpa only [value, PrefValue.same] using PrefValue.sameEntries_ofList h.same

/-- Items that are built in another order are the same. -/
theorem ItemsReordered.same {xs ys : List Building} (h : ItemsReordered xs ys) :
    PrefValue.sameItems (itemValues xs) (itemValues ys) = true := by
  cases h with
  | nil => rfl
  | cons h rest => simp [itemValues, PrefValue.sameItems, h.same, rest.same]

/-- Pairs that are built in another order, one by one, are the same. -/
theorem PairsReordered.same {ps qs : List (String × Building)} (h : PairsReordered ps qs) :
    PrefValue.sameEntries (pairValues ps) (pairValues qs) = true := by
  cases h with
  | nil => rfl
  | cons h rest => simp [pairValues, PrefValue.sameEntries, h.same, rest.same]

end

end Building

/-! ## The laws of sameness -/

/-- Every value means the same as itself, sameness does not depend on the order of the two
values, and it does not depend on the order in which the keys of their dictionaries were set,
at any depth.  So no dictionary has to be replaced by itself, and none by the dictionary of the
same pairs in another order. -/
theorem PrefValue.same_regardless_of_order :
    (∀ a : PrefValue, a.same a = true) ∧
      (∀ a b : PrefValue, a.same b = b.same a) ∧
      (∀ b c : Building, b.Reordered c → b.value.same c.value = true) ∧
      (∀ d : ProxyDict, ProxyDict.needsWrite (some d) d = false) ∧
      ∀ pairs others : List (String × PrefValue), (pairs.map Prod.fst).Nodup → pairs.Perm others →
        ProxyDict.needsWrite (some (Dict.ofList pairs)) (Dict.ofList others) = false := by
  refine ⟨same_self, same_comm, fun b c h => h.same, ProxyDict.needsWrite_self, ?_⟩
  intro pairs others distinct perm
  rw [Dict.ofList_perm distinct perm, ProxyDict.needsWrite_self]

namespace Building

/-- A NaN with a payload. -/
def nan : Binary64 := ⟨0x7FF80000DEADBEEF⟩

/-- A dictionary inside an array inside a dictionary. -/
def nested : Building :=
  .dict
    [("Proxies", .arr [.dict [("Weight", .ready (.real nan)), ("Enable", .ready (.bool true))]]),
      ("Name", .ready (.str "lan"))]

/-- The same dictionary with its keys set in other orders, and a number in the place of a flag. -/
def renested : Building :=
  .dict [("Name", .ready (.str "lan")),
    ("Proxies", .arr [.dict [("Enable", .ready (.int 1)), ("Weight", .ready (.real nan))]])]

theorem nested_reordered : nested.Reordered renested := by
  have hflag : (PrefValue.bool true).same (.int 1) = true := by decide +kernel
  have hinner : Reordered (.dict [("Weight", .ready (.real nan)), ("Enable", .ready (.bool true))])
      (.dict [("Enable", .ready (.int 1)), ("Weight", .ready (.real nan))]) :=
    .dict (.cons (.ready (PrefValue.same_self _)) (.cons (.ready hflag) .nil)) (by decide)
      (.swap _ _ _)
  exact .dict (.cons (.arr (.cons hinner .nil)) (.cons (.ready (PrefValue.same_self _)) .nil))
    (by decide) (.swap _ _ _)

end Building

/-- The order of the keys does not matter inside an array either, nor the payload of a NaN. -/
theorem PrefValue.same_regardless_of_order_nested :
    Building.nested.Reordered Building.renested ∧
      Building.nested.value.same Building.renested.value = true :=
  ⟨Building.nested_reordered, same_regardless_of_order.2.2.1 _ _ Building.nested_reordered⟩

end ProxyControl
