import ProxyControl.Proofs.Settings.Record

/-!
# Listing the rows

The rows of a settings table are listed in the order of their keys.  Whatever has been done to the
table, the listing gives the same values as reading each key on its own; a row that cannot be read
is left out and hides no other row.

Main results:

- Definition `RowChange`, `DatabaseFile.changed`: what may be done to a table.
- Theorem `DatabaseFile.InOrder.after`: a table stays in the order of its keys.
- Structure `DatabaseFile.Lists`: a listing that agrees with the single reads.
- Theorem `DatabaseFile.exists_lists`: a table has such a listing, whatever has been done to it.
-/

namespace ProxyControl

/-- What may be done to the rows of a table. -/
inductive RowChange where
  /-- Sets the value of a key. -/
  | set (key : String) (value : Json)
  /-- Removes a key. -/
  | remove (key : String)
  /-- Another program puts anything under a key. -/
  | insert (key : String) (cell : Cell)
  deriving Repr

namespace DatabaseFile

/-- The file after a change, which may fail and then changes nothing. -/
def changed (f : DatabaseFile) : RowChange → DatabaseFile
  | .set key value => (f.set key value).toOption.getD f
  | .remove key => ((f.remove key).map Prod.snd).toOption.getD f
  | .insert key cell => (f.putCell key cell).toOption.getD f

/-- The file after a list of changes. -/
def afterChanges (f : DatabaseFile) (changes : List RowChange) : DatabaseFile :=
  changes.foldl changed f

/-- The file has a settings table, whose rows are in the order of their keys. -/
def InOrder (f : DatabaseFile) : Prop :=
  ∃ rows, f.name = .table rows ∧ rows.Ordered

theorem InOrder.changed {f : DatabaseFile} (h : f.InOrder) (c : RowChange) :
    (f.changed c).InOrder := by
  obtain ⟨rows, htable, hordered⟩ := h
  cases c with
  | set key value =>
      rw [DatabaseFile.changed, set_of_table htable]
      exact ⟨_, rfl, hordered.insert _ _⟩
  | remove key =>
      rw [DatabaseFile.changed, remove_of_table htable]
      exact ⟨_, rfl, hordered.erase _⟩
  | insert key cell =>
      rw [DatabaseFile.changed, putCell, ownRows?_of_table htable]
      exact ⟨_, rfl, hordered.insert _ _⟩

/-- Whatever is done to a table, it stays in order. -/
theorem InOrder.afterChanges {f : DatabaseFile} (h : f.InOrder) (changes : List RowChange) :
    (f.afterChanges changes).InOrder := by
  induction changes generalizing f with
  | nil => exact h
  | cons c rest ih => exact ih (h.changed c)

/-! ## Single reads -/

section Table

variable {f : DatabaseFile} {rows : Dict Cell}

theorem all_of_table (htable : f.name = .table rows) :
    f.all = .ok (rows.filterMap readable?) := by
  rw [all, rows?_of_table htable]
  rfl

/-- A single read fails if its row cannot be read. -/
theorem exists_of_get_eq_error (htable : f.name = .table rows) {key : String} {e : DatabaseError}
    (h : f.get key = .error e) : ∃ cell, rows.find? key = some cell ∧ cell.value? = .error e := by
  rw [get_of_table htable] at h
  cases hfind : rows.find? key with
  | none =>
      rw [hfind] at h
      cases h
  | some cell =>
      rw [hfind, Option.elim_some] at h
      cases hvalue : cell.value? with
      | ok value =>
          rw [hvalue] at h
          cases h
      | error fault =>
          rw [hvalue] at h
          cases h
          exact ⟨cell, rfl, hvalue⟩

/-- A row that can be read is listed with its key. -/
theorem readable?_eq_some_iff {row : String × Cell} {key : String} {value : Json} :
    readable? row = some (key, value) ↔ row.1 = key ∧ row.2.value? = .ok value := by
  rw [readable?]
  split <;> simp_all

/-- Listing the rows gives what the single reads give. -/
theorem mem_filterMap_readable?_iff (htable : f.name = .table rows) (hordered : rows.Ordered)
    {key : String} {value : Json} :
    (key, value) ∈ rows.filterMap readable? ↔ f.get key = .ok (some value) := by
  rw [get_of_table htable, List.mem_filterMap]
  constructor
  · rintro ⟨⟨k, cell⟩, hrow, hreadable⟩
    obtain ⟨rfl, hvalue⟩ := readable?_eq_some_iff.1 hreadable
    rw [(Dict.find?_eq_some_iff hordered).2 hrow, Option.elim_some, hvalue]
    rfl
  · intro hget
    cases hfind : rows.find? key with
    | none =>
        rw [hfind] at hget
        cases hget
    | some cell =>
        rw [hfind, Option.elim_some] at hget
        refine ⟨(key, cell), (Dict.find?_eq_some_iff hordered).1 hfind, ?_⟩
        refine readable?_eq_some_iff.2 ⟨rfl, ?_⟩
        cases hvalue : cell.value? with
        | error e =>
            rw [hvalue] at hget
            cases hget
        | ok v =>
            rw [hvalue] at hget
            cases hget
            rfl

/-- The listing keeps the order of the keys. -/
theorem ordered_filterMap_readable? (hordered : rows.Ordered) :
    Dict.Ordered (rows.filterMap readable?) := by
  refine List.Pairwise.filterMap readable? ?_ hordered
  intro x y hlt a ha b hb
  obtain ⟨hx, -⟩ := readable?_eq_some_iff.1 ha
  obtain ⟨hy, -⟩ := readable?_eq_some_iff.1 hb
  rwa [← hx, ← hy]

/-- A row that cannot be read does not show in the listing. -/
theorem filterMap_readable?_erase {key : String} {cell : Cell} {e : DatabaseError}
    (hrow : rows.find? key = some cell) (hvalue : cell.value? = .error e) :
    (rows.erase key).filterMap readable? = rows.filterMap readable? := by
  induction rows with
  | nil => rfl
  | cons row rest ih =>
      obtain ⟨k, c⟩ := row
      rw [Dict.find?] at hrow
      rw [Dict.erase]
      split at hrow
      case isTrue hk =>
        cases hrow
        have hnone : readable? (k, cell) = none := by simp [readable?, hvalue]
        rw [if_pos hk, List.filterMap_cons_none hnone]
      case isFalse hk =>
        rw [if_neg hk, List.filterMap_cons, List.filterMap_cons, ih hrow]

end Table

/-! ## The listing -/

/-- A listing agrees with the single reads. -/
structure Lists (f : DatabaseFile) (entries : List (String × Json)) : Prop where
  all : f.all = .ok entries
  /-- The keys ascend strictly in the order of their bytes, so that none is there twice. -/
  ascending : entries.Pairwise fun x y => Text.Utf8.encode x.1 < Text.Utf8.encode y.1
  /-- The pairs are those that the single reads give. -/
  pairs : ∀ key value, (key, value) ∈ entries ↔ f.get key = .ok (some value)
  /-- The rows that are left out are those whose single read fails. -/
  leftOut : ∀ rows, f.name = .table rows → ∀ row ∈ rows,
    ((∀ value, (row.1, value) ∉ entries) ↔ ∃ e, f.get row.1 = .error e)
  /-- A row whose single read fails hides no other row: the listing is the same without it. -/
  hidden : ∀ key e, f.get key = .error e →
    ∃ g, f.remove key = .ok (true, g) ∧ g.all = .ok entries

/-- The rows of a table in order have a listing that agrees with the single reads. -/
theorem InOrder.exists_lists {f : DatabaseFile} (h : f.InOrder) : ∃ entries, f.Lists entries := by
  obtain ⟨rows, htable, hordered⟩ := h
  have hpairs (key : String) (value : Json) :
      (key, value) ∈ rows.filterMap readable? ↔ f.get key = .ok (some value) :=
    mem_filterMap_readable?_iff htable hordered
  refine ⟨rows.filterMap readable?, all_of_table htable,
    (ordered_filterMap_readable? hordered).byteOrder, hpairs, ?_, fun key e hfails => ?_⟩
  · rintro others hothers ⟨key, cell⟩ hrow
    obtain rfl : rows = others := TableName.table.inj (htable.symm.trans hothers)
    simp only [hpairs]
    rw [get_of_table htable, (Dict.find?_eq_some_iff hordered).2 hrow, Option.elim_some]
    cases cell.value? with
    | error e => simp [Except.map]
    | ok value => simp [Except.map]
  · obtain ⟨cell, hrow, hvalue⟩ := exists_of_get_eq_error htable hfails
    have hcontains : rows.contains key = true := by simp [Dict.contains, hrow]
    refine ⟨f.withRows (rows.erase key), by rw [remove_of_table htable, hcontains], ?_⟩
    rw [all_of_table rfl, filterMap_readable?_erase hrow hvalue]

/-- Whatever has been done to a table, its rows are listed in the order of their keys, and the
listing agrees with the single reads. -/
theorem exists_lists_afterChanges {f : DatabaseFile} (h : f.InOrder) (changes : List RowChange) :
    ∃ entries, (f.afterChanges changes).Lists entries :=
  (h.afterChanges changes).exists_lists

/-- Changes after which one row is no JSON and another one no text. -/
def mixedChanges : List RowChange :=
  [.set "b" (.bool true), .insert "ä" (.text "\x7b"), .insert "a" (.blob [0xFF]),
    .set "c" .null, .remove "c", .remove "d"]

/-- The row that is no JSON is listed as null, the row that is no text is left out. -/
theorem lists_mixedChanges :
    (DatabaseFile.mk 1 (.table [])).InOrder ∧
      ∃ entries, ((DatabaseFile.mk 1 (.table [])).afterChanges mixedChanges).Lists entries ∧
        ("b", .bool true) ∈ entries ∧ ("ä", .null) ∈ entries ∧ ∀ value, ("a", value) ∉ entries := by
  have hnew : (DatabaseFile.mk 1 (.table [])).InOrder := ⟨[], rfl, List.Pairwise.nil⟩
  obtain ⟨entries, h⟩ := exists_lists_afterChanges hnew mixedChanges
  refine ⟨hnew, entries, h, (h.pairs _ _).2 rfl, (h.pairs _ _).2 rfl, ?_⟩
  exact (h.leftOut _ rfl ("a", .blob [0xFF]) (by decide)).2 ⟨_, rfl⟩

end DatabaseFile
end ProxyControl
