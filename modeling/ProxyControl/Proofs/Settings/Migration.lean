import Mathlib.Logic.Relation
import ProxyControl.Settings.DatabaseFile

/-!
# Migrations

A migration gives a settings file a table and the current schema version, one statement after
the other.  It may be interrupted between two statements, and the next one completes it: no
statement undoes what is there.  A view or another table that has the name of the table is
taken for it, and an index of that name stops the migration.

Main results:

- Definition `DatabaseFile.Attempt`: a migration that may be interrupted.
- Theorem `DatabaseFile.migrate_of_attempts`: what was attempted before makes no difference.
- Structure `DatabaseFile.BroughtUp`: what a migration makes of a file.
- Theorem `DatabaseFile.broughtUp_upToDate`: it keeps whatever has the name of the table.
-/

namespace ProxyControl
namespace DatabaseFile

variable {f g p : DatabaseFile}

/-- The settings table is there. -/
def HasTable (f : DatabaseFile) : Prop :=
  ∃ rows, f.name = .table rows

/-- A file can be brought up to the current schema: it is, or no index has the name of the
table. -/
def Migratable (f : DatabaseFile) : Prop :=
  schemaVersion ≤ f.version ∨ f.name ≠ .index

/-- The file with a table, which is new if the name is free. -/
def withTable (f : DatabaseFile) : DatabaseFile :=
  match f.name with
  | .free => f.withRows []
  | _ => f

/-- What a migration makes of a file. -/
def upToDate (f : DatabaseFile) : DatabaseFile :=
  if schemaVersion ≤ f.version then f else f.withTable.withVersion schemaVersion

/-! ## Statements -/

/-- Making the table leaves the version number. -/
theorem version_withTable (f : DatabaseFile) : f.withTable.version = f.version := by
  unfold withTable
  split <;> rfl

/-- Where the name of the table is taken, no table is made. -/
theorem withTable_of_taken (h : f.name ≠ .free) : f.withTable = f := by
  unfold withTable
  split
  · next hfree => exact absurd hfree h
  · rfl

/-- Where the name is free, the new table has no rows. -/
theorem name_withTable_of_free (h : f.name = .free) : f.withTable.name = .table [] := by
  simp only [withTable, h, withRows]

/-- Setting the current version number makes it the version of the file. -/
theorem version_withVersion_current (f : DatabaseFile) :
    (f.withVersion schemaVersion).version = schemaVersion := by
  rfl

/-- Asking for the table succeeds unless an index has its name, also where nothing is made. -/
theorem execute_createTable (h : f.name ≠ .index) :
    f.execute .createTable = .ok f.withTable := by
  cases hname : f.name with
  | index => exact absurd hname h
  | _ => simp only [execute, withTable, hname]

/-- The name of an index is not given to a table. -/
theorem execute_createTable_of_index (h : f.name = .index) :
    f.execute .createTable = .error .nameOfIndex := by
  simp only [execute, h]

/-- Once the table has been asked for, its name is taken. -/
theorem withTable_ne_free (f : DatabaseFile) : f.withTable.name ≠ .free := by
  by_cases hname : f.name = .free
  · simp [name_withTable_of_free hname]
  · rwa [withTable_of_taken hname]

/-- Asking for the table makes no index. -/
theorem withTable_ne_index (h : f.name ≠ .index) : f.withTable.name ≠ .index := by
  by_cases hname : f.name = .free
  · simp [name_withTable_of_free hname]
  · rwa [withTable_of_taken hname]

/-- A table that is there is left as it is. -/
theorem withTable_withTable (f : DatabaseFile) : f.withTable.withTable = f.withTable :=
  withTable_of_taken f.withTable_ne_free

/-! ## Whole migrations -/

/-- A file of the current schema, or a newer one, needs no statement. -/
theorem migration_of_le (h : schemaVersion ≤ f.version) : f.migration = [] :=
  if_pos h

/-- An older file gets the table before it gets the version number. -/
theorem migration_of_lt (h : f.version < schemaVersion) :
    f.migration = [.createTable, .setVersion schemaVersion] :=
  if_neg (Int.not_le.2 h)

/-- A file of the current schema, or a newer one, is up to date as it is. -/
theorem upToDate_of_le (h : schemaVersion ≤ f.version) : f.upToDate = f :=
  if_pos h

/-- An older file is brought up to date by the table and the version number. -/
theorem upToDate_of_lt (h : f.version < schemaVersion) :
    f.upToDate = f.withTable.withVersion schemaVersion :=
  if_neg (Int.not_le.2 h)

/-- Where nothing stops it, a migration brings the file up to date. -/
theorem migrate_of_migratable (h : f.Migratable) : f.migrate = .ok f.upToDate := by
  rcases Int.lt_or_le f.version schemaVersion with hlt | hle
  · have hname : f.name ≠ .index := h.resolve_left (Int.not_le.2 hlt)
    rw [migrate, migration_of_lt hlt, upToDate_of_lt hlt, executeAll, execute_createTable hname]
    rfl
  · rw [migrate, migration_of_le hle, upToDate_of_le hle]
    rfl

/-- A migration raises the version number to the current one and never lowers it. -/
theorem version_upToDate (f : DatabaseFile) : f.upToDate.version = max f.version schemaVersion := by
  rcases Int.lt_or_le f.version schemaVersion with hlt | hle
  · rw [upToDate_of_lt hlt, version_withVersion_current, Int.max_eq_right (Int.le_of_lt hlt)]
  · rw [upToDate_of_le hle, Int.max_eq_left hle]

/-- A file that is up to date has at least the current version. -/
theorem schemaVersion_le_upToDate (f : DatabaseFile) : schemaVersion ≤ f.upToDate.version := by
  rw [version_upToDate]
  exact Int.le_max_right _ _

/-! ## Interruptions -/

/-- A migration that may be interrupted: some of its statements, from the first one on. -/
def Attempt (f p : DatabaseFile) : Prop :=
  ∃ done, done <+: f.migration ∧ f.executeAll done = .ok p

/-- A file of the current schema does not change. -/
theorem Attempt.eq_of_le (h : Attempt f p) (hversion : schemaVersion ≤ f.version) : p = f := by
  obtain ⟨done, hdone, hp⟩ := h
  rw [migration_of_le hversion, List.prefix_nil] at hdone
  subst hdone
  exact (Except.ok.inj hp).symm

/-- An attempt leaves the file to the next migration as it was, with a table, or up to date. -/
theorem Attempt.cases_of_lt (h : Attempt f p) (hversion : f.version < schemaVersion) :
    p = f ∨ f.name ≠ .index ∧ (p = f.withTable ∨ p = f.upToDate) := by
  obtain ⟨done, hdone, hp⟩ := h
  rw [migration_of_lt hversion, List.prefix_cons_iff] at hdone
  rcases hdone with rfl | ⟨rest, rfl, hrest⟩
  · exact .inl (Except.ok.inj hp).symm
  · have hname : f.name ≠ .index := by
      intro hindex
      rw [executeAll, execute_createTable_of_index hindex] at hp
      cases hp
    rw [executeAll, execute_createTable hname] at hp
    refine .inr ⟨hname, ?_⟩
    rcases List.prefix_cons_iff.1 hrest with rfl | ⟨last, rfl, hlast⟩
    · exact .inl (Except.ok.inj hp).symm
    · obtain rfl := List.prefix_nil.1 hlast
      rw [upToDate_of_lt hversion]
      exact .inr (Except.ok.inj hp).symm

/-- The next migration completes an attempt. -/
theorem Attempt.migrate_eq (h : Attempt f p) : p.migrate = f.migrate := by
  rcases Int.lt_or_le f.version schemaVersion with hlt | hle
  · rcases h.cases_of_lt hlt with rfl | ⟨hname, rfl | rfl⟩
    · rfl
    · have hlt' : f.withTable.version < schemaVersion := (version_withTable f).symm ▸ hlt
      have hname' := withTable_ne_index hname
      rw [migrate_of_migratable (.inr hname), migrate_of_migratable (.inr hname'),
        upToDate_of_lt hlt, upToDate_of_lt hlt', withTable_withTable]
    · have hle := schemaVersion_le_upToDate f
      rw [migrate_of_migratable (.inr hname), migrate_of_migratable (.inl hle), upToDate_of_le hle]
  · rw [h.eq_of_le hle]

/-- What was attempted before makes no difference to a migration. -/
theorem migrate_of_attempts (h : Relation.ReflTransGen Attempt f p) : p.migrate = f.migrate := by
  induction h with
  | refl => rfl
  | tail _ hattempt ih => rw [hattempt.migrate_eq, ih]

/-- Migrations of a file of the current schema change nothing, however many there are. -/
theorem eq_of_attempts (h : Relation.ReflTransGen Attempt f p)
    (hversion : schemaVersion ≤ f.version) : p = f := by
  induction h with
  | refl => rfl
  | tail _ hattempt ih =>
      subst ih
      exact hattempt.eq_of_le hversion

/-- A file brought up to the current schema keeps every row, and whatever else has the name of the
table; it gets an empty table where the name is free.  A file of the current schema or a newer one
does not change.  It makes no difference how often this was attempted before, and whenever it is
done it changes nothing more. -/
structure BroughtUp (f g : DatabaseFile) : Prop where
  rows : ∀ rows, f.name = .table rows → g.name = .table rows
  kept : f.name ≠ .free → g.name = f.name
  version : g.version = max f.version schemaVersion
  creates : (¬f.HasTable ∧ g.HasTable) ↔ (f.version < schemaVersion ∧ f.name = .free)
  created : ¬f.HasTable → g.HasTable → g.name = .table []
  current : schemaVersion ≤ f.version → g = f
  completes : ∀ p, Relation.ReflTransGen Attempt f p → p.migrate = .ok g
  settled : ∀ p, Relation.ReflTransGen Attempt g p → p = g

/-- Where the name of the table is free, there is no table. -/
theorem not_hasTable_of_free (h : f.name = .free) : ¬f.HasTable := by
  rintro ⟨rows, hrows⟩
  cases h.symm.trans hrows

/-- What an older file has under the name of the table comes from the first statement alone. -/
theorem name_upToDate_of_lt (h : f.version < schemaVersion) :
    f.upToDate.name = f.withTable.name := by
  rw [upToDate_of_lt h]
  rfl

/-- What has the name of the table keeps it. -/
theorem name_upToDate_of_taken (h : f.name ≠ .free) : f.upToDate.name = f.name := by
  rcases Int.lt_or_le f.version schemaVersion with hlt | hle
  · rw [name_upToDate_of_lt hlt, withTable_of_taken h]
  · rw [upToDate_of_le hle]

/-- A table is made exactly where an old file has the name free, and it is empty. -/
theorem name_upToDate_of_new (hnone : ¬f.HasTable) (hsome : f.upToDate.HasTable) :
    f.version < schemaVersion ∧ f.name = .free ∧ f.upToDate.name = .table [] := by
  have hfree : f.name = .free := Classical.byContradiction fun htaken => by
    rw [HasTable, name_upToDate_of_taken htaken] at hsome
    exact hnone hsome
  have hversion : f.version < schemaVersion := Int.not_le.1 fun hle => by
    rw [upToDate_of_le hle] at hsome
    exact hnone hsome
  exact ⟨hversion, hfree, by rw [name_upToDate_of_lt hversion, name_withTable_of_free hfree]⟩

/-- What a migration makes of a file that it can bring up. -/
theorem broughtUp_upToDate (h : f.Migratable) : f.BroughtUp f.upToDate where
  rows rows hrows := by rw [name_upToDate_of_taken (by simp [hrows]), hrows]
  kept := name_upToDate_of_taken
  version := version_upToDate f
  creates := by
    refine ⟨fun ⟨hnone, hsome⟩ => ?_, fun ⟨hversion, hfree⟩ => ?_⟩
    · obtain ⟨hversion, hfree, -⟩ := name_upToDate_of_new hnone hsome
      exact ⟨hversion, hfree⟩
    · refine ⟨not_hasTable_of_free hfree, [], ?_⟩
      rw [name_upToDate_of_lt hversion, name_withTable_of_free hfree]
  created hnone hsome := (name_upToDate_of_new hnone hsome).2.2
  current := upToDate_of_le
  completes _ hp := (migrate_of_attempts hp).trans (migrate_of_migratable h)
  settled _ hp := eq_of_attempts hp (schemaVersion_le_upToDate f)

end DatabaseFile
end ProxyControl
