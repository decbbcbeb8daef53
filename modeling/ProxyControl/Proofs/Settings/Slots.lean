import ProxyControl.Proofs.Settings.Masking
import ProxyControl.Proofs.Settings.OpenDatabase

/-!
# What backends keep under their keys

Backends keep values in different forms, and some of their requests fail.  What they have in common
is that each key has a slot of its own: a value that is set fills the slot of its key and no other
one, and what is read from a slot that was filled is the value in canonical form.

Main results:

- Class `SlottedBackend`: the slots of a backend and what setting and reading do with them.
- Instances for the settings in memory, with refusals, in a database file and in an open database.
- Theorem `Database.file_of_change`: an open database that takes a change has the new content.
-/

namespace ProxyControl

/-- A backend with a slot for each key. -/
class SlottedBackend (σ : Type) [SettingsBackend σ] where
  /-- What a slot is filled with. -/
  Slot : Type
  /-- What the slot of a key is filled with, if it is. -/
  slot : σ → String → Option Slot
  /-- How a value fills a slot. -/
  entry : Json → Slot
  /-- A value that is set fills the slot of its key. -/
  slot_set_self : ∀ {b b' : σ} {key value}, SettingsBackend.set b key value = .ok b' →
    slot b' key = some (entry value)
  /-- A value that is set leaves every other slot as it is. -/
  slot_set_of_ne : ∀ {b b' : σ} {key other value}, SettingsBackend.set b key value = .ok b' →
    other ≠ key → slot b' other = slot b other
  /-- A value is read from the slot that it fills. -/
  get_entry : ∀ {b : σ} {key value found}, value.Storable → slot b key = some (entry value) →
    SettingsBackend.get b key = .ok found → found = some value.canonical
  /-- A backend that does not take a value blames neither the key nor a text. -/
  set_error : ∀ {b : σ} {key value e}, SettingsBackend.set b key value = .error e →
    (∀ name, e ≠ .unknownKey name) ∧ ∀ name raw, e ≠ .invalidValue name raw

instance : SlottedBackend MemorySettings where
  Slot := Json
  slot := MemorySettings.get
  entry := Json.canonical
  slot_set_self h := by
    cases h
    exact Dict.find?_insert_self _ _ _
  slot_set_of_ne h hne := by
    cases h
    exact Dict.find?_insert_of_ne _ _ hne
  get_entry _ hslot hget := by
    cases hget
    exact hslot
  set_error h := by cases h

instance : SlottedBackend RefusingSettings where
  Slot := Json
  slot r := r.values.get
  entry := Json.canonical
  slot_set_self {b b' key value} h := by
    simp only [SettingsBackend.set] at h
    split at h
    · cases h
    · cases h
      exact Dict.find?_insert_self _ _ _
  slot_set_of_ne h hne := by
    simp only [SettingsBackend.set] at h
    split at h
    · cases h
    · cases h
      exact Dict.find?_insert_of_ne _ _ hne
  get_entry _ hslot hget := by
    simp only [SettingsBackend.get] at hget
    split at hget
    · cases hget
    · cases hget
      exact hslot
  set_error h := by
    simp only [SettingsBackend.set] at h
    split at h
    · cases h
      exact ⟨nofun, nofun⟩
    · cases h

/-! ## Database files -/

namespace DatabaseFile

variable {f g : DatabaseFile} {key : String} {value : Json}

theorem cell?_set_self (h : f.set key value = .ok g) :
    g.cell? key = some (.text value.canonical.toText) := by
  obtain ⟨rows, -, rfl⟩ := exists_table_of_set h
  exact Dict.find?_insert_self _ _ _

theorem cell?_set_of_ne {other : String} (h : f.set key value = .ok g) (hne : other ≠ key) :
    g.cell? other = f.cell? other := by
  obtain ⟨rows, hname, rfl⟩ := exists_table_of_set h
  rw [cell?_of_table hname]
  exact Dict.find?_insert_of_ne _ _ hne

/-- A value is read from the row that holds its text. -/
theorem eq_of_get_entry {found : Option Json} (hvalue : value.Storable)
    (hcell : f.cell? key = some (.text value.canonical.toText))
    (hget : SettingsBackend.get f key = .ok found) : found = some value.canonical := by
  have hstored := f.value?_get key
  rw [hget, stored?, hcell, Option.bind_some, Cell.value?_text hvalue] at hstored
  exact hstored

end DatabaseFile

/-- What a database fails with is a failure of the database. -/
theorem exists_of_mapError_database {α : Type} {x : Except DatabaseError α} {e : StorageError}
    (h : x.mapError StorageError.database = .error e) : ∃ cause, e = .database cause := by
  cases x with
  | ok a => cases h
  | error cause =>
      cases h
      exact ⟨cause, rfl⟩

instance : SlottedBackend DatabaseFile where
  Slot := Cell
  slot := DatabaseFile.cell?
  entry value := .text value.canonical.toText
  slot_set_self h := DatabaseFile.cell?_set_self (Database.mapError_eq_ok h)
  slot_set_of_ne h hne := DatabaseFile.cell?_set_of_ne (Database.mapError_eq_ok h) hne
  get_entry := DatabaseFile.eq_of_get_entry
  set_error h := by
    obtain ⟨cause, rfl⟩ := exists_of_mapError_database h
    exact ⟨nofun, nofun⟩

/-! ## Open databases -/

namespace Database

variable {d d' : Database} {f : DatabaseFile}

/-- An open database whose content has a settings table is not at the root of its volume. -/
theorem place_ne_nil_of_table {v : Volume} {place : Place} {k : Safekeeping} {readOnly : Bool}
    {rows : Dict Cell} (h : (Database.mk v (.onVolume place k) readOnly).file.name = .table rows) :
    place ≠ [] := by
  rintro rfl
  cases h

/-- An open database that takes a change has the new content. -/
theorem file_of_change {rows : Dict Cell} (htable : d.file.name = .table rows)
    (h : d.change (.ok f) = .ok d') : d'.file = f := by
  obtain ⟨v, place, readOnly⟩ := d
  cases readOnly with
  | true => cases h
  | false =>
      cases place with
      | temporary old shared =>
          cases h
          rfl
      | onVolume place k =>
          have hplace := place_ne_nil_of_table htable
          simp only [change] at h
          cases hprotect : k.protect place v with
          | error e u =>
              simp only [hprotect] at h
              cases h
          | ok _ u =>
              simp only [hprotect] at h
              cases h
              have hput := Volume.node?_put_self u hplace (.database f (isLogged u place))
              simp only [withFile, file, hput]

/-- An open database that sets a value sets it in its file. -/
theorem set_of_ok {key : String} {value : Json} (h : SettingsBackend.set d key value = .ok d') :
    d.file.set key value = .ok d'.file := by
  have hchange := mapError_eq_ok h
  cases hset : d.file.set key value with
  | error e =>
      rw [hset] at hchange
      cases hchange
  | ok f =>
      obtain ⟨rows, htable, -⟩ := DatabaseFile.exists_table_of_set hset
      rw [hset] at hchange
      rw [file_of_change htable hchange]

end Database

instance : SlottedBackend Database where
  Slot := Cell
  slot d := d.file.cell?
  entry value := .text value.canonical.toText
  slot_set_self h := DatabaseFile.cell?_set_self (Database.set_of_ok h)
  slot_set_of_ne h hne := DatabaseFile.cell?_set_of_ne (Database.set_of_ok h) hne
  get_entry := DatabaseFile.eq_of_get_entry
  set_error h := by
    obtain ⟨cause, rfl⟩ := exists_of_mapError_database h
    exact ⟨nofun, nofun⟩

end ProxyControl
