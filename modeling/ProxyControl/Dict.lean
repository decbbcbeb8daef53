/-!
# Dictionaries in key order

A dictionary is the list of its entries in strictly ascending order of the keys.  Keys
are compared by code point, which is also the order of their UTF-8 bytes.  The entries
are plain lists so that a value type can contain dictionaries of itself; that a list is
in order is the predicate `Dict.Ordered`, which every operation keeps.

Main results:

- Definitions `Dict.find?`, `Dict.insert`, `Dict.erase`: lookup and update.
- Definition `Dict.ofList`: the dictionary of a list of pairs, where a later pair
  replaces an earlier one of the same key.
-/

namespace ProxyControl

/-- A dictionary with text keys, as the list of its entries. -/
abbrev Dict (α : Type) := List (String × α)

namespace Dict

variable {α β : Type}

/-- The keys are in strictly ascending order. -/
def Ordered (d : Dict α) : Prop :=
  d.Pairwise fun x y => x.1 < y.1

/-- The value of a key. -/
def find? : Dict α → String → Option α
  | [], _ => none
  | (k, v) :: rest, key => if k = key then some v else find? rest key

/-- The keys in order. -/
def keys (d : Dict α) : List String :=
  d.map Prod.fst

/-- The dictionary with the value of one key set. -/
def insert : Dict α → String → α → Dict α
  | [], key, value => [(key, value)]
  | (k, v) :: rest, key, value =>
    if key < k then (key, value) :: (k, v) :: rest
    else if k = key then (key, value) :: rest
    else (k, v) :: insert rest key value

/-- The dictionary without one key. -/
def erase : Dict α → String → Dict α
  | [], _ => []
  | (k, v) :: rest, key => if k = key then rest else (k, v) :: erase rest key

/-- Whether a key is present. -/
def contains (d : Dict α) (key : String) : Bool :=
  (d.find? key).isSome

/-- The dictionary of a list of pairs; of two pairs with one key the later one counts. -/
def ofList (pairs : List (String × α)) : Dict α :=
  pairs.foldl (fun d p => insert d p.1 p.2) []

/-! ## Lookup after an update -/

@[simp]
theorem find?_nil (key : String) : find? ([] : Dict α) key = none :=
  rfl

@[simp]
theorem find?_insert_self (d : Dict α) (key : String) (value : α) :
    (insert d key value).find? key = some value := by
  induction d with
  | nil => simp [insert, find?]
  | cons entry rest ih =>
    obtain ⟨k, v⟩ := entry
    unfold insert
    split
    · simp [find?]
    · split
      · simp [find?]
      · rename_i hne
        simp [find?, hne, ih]

theorem find?_insert_of_ne (d : Dict α) {key other : String} (value : α) (h : other ≠ key) :
    (insert d key value).find? other = d.find? other := by
  induction d with
  | nil => simp [insert, find?, Ne.symm h]
  | cons entry rest ih =>
    obtain ⟨k, v⟩ := entry
    unfold insert
    split
    · simp [find?, Ne.symm h]
    · split
      · rename_i heq
        simp [find?, heq, Ne.symm h]
      · simp [find?, ih]

/-! ## Order -/

/-- Every key of an updated dictionary is an old one or the new one. -/
theorem mem_insert {d : Dict α} {key : String} {value : α} {entry : String × α}
    (h : entry ∈ insert d key value) : entry.1 = key ∨ entry ∈ d := by
  induction d with
  | nil => simp_all [insert]
  | cons head rest ih =>
    obtain ⟨k, v⟩ := head
    unfold insert at h
    split at h
    · rcases List.mem_cons.1 h with rfl | h
      · exact .inl rfl
      · exact .inr h
    · split at h
      · rcases List.mem_cons.1 h with rfl | h
        · exact .inl rfl
        · exact .inr (List.mem_cons_of_mem _ h)
      · rcases List.mem_cons.1 h with rfl | h
        · exact .inr List.mem_cons_self
        · rcases ih h with h | h
          · exact .inl h
          · exact .inr (List.mem_cons_of_mem _ h)

/-- Setting a key keeps the order. -/
theorem Ordered.insert {d : Dict α} (h : Ordered d) (key : String) (value : α) :
    Ordered (d.insert key value) := by
  induction d with
  | nil => simp [Dict.insert, Ordered]
  | cons entry rest ih =>
    obtain ⟨k, v⟩ := entry
    obtain ⟨hk, hrest⟩ := List.pairwise_cons.1 h
    unfold Dict.insert
    split
    · rename_i hlt
      refine List.pairwise_cons.2 ⟨fun e he => ?_, h⟩
      rcases List.mem_cons.1 he with rfl | he
      · exact hlt
      · exact String.lt_trans hlt (hk e he)
    · split
      · rename_i heq
        subst heq
        exact List.pairwise_cons.2 ⟨hk, hrest⟩
      · rename_i hge hne
        refine List.pairwise_cons.2 ⟨fun e he => ?_, ih hrest⟩
        rcases mem_insert he with heq | he
        · have hle : k ≤ key := String.not_lt.1 hge
          rw [heq]
          exact String.not_le.1 fun hle' => hne (String.le_antisymm hle hle')
        · exact hk e he

/-- Every list of pairs gives a dictionary in order. -/
theorem ordered_ofList (pairs : List (String × α)) : Ordered (ofList pairs) := by
  suffices ∀ d : Dict α, Ordered d →
      Ordered (pairs.foldl (fun d p => Dict.insert d p.1 p.2) d) from
    this [] List.Pairwise.nil
  induction pairs with
  | nil => exact fun d hd => hd
  | cons p rest ih => exact fun d hd => ih _ (hd.insert p.1 p.2)

end Dict
end ProxyControl
