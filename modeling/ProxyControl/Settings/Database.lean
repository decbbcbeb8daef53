import ProxyControl.Settings.Safekeeping
import ProxyControl.Text.Hidden

/-!
# The settings database

The settings database is a file on a volume, or a private file that is gone when it is
closed.  Opening it makes the directories above it and brings it up to the current
schema.

Main results:

- Definition `Database.open?`: opens a database at a path.
- Definition `Database.file`: the content of an open database.
- Definition `Database.close`: the volume when the database has been closed.
- Instance: an open database is a settings backend.
-/

namespace ProxyControl

/-- Where the content of an open database is. -/
inductive DatabasePlace where
  /-- In a file of the volume. -/
  | onVolume (place : Place) (safekeeping : Safekeeping)
  /-- In a private file, which the program's connections may share. -/
  | temporary (file : DatabaseFile) (shared : Bool)
  deriving Repr

/-- An open database. -/
structure Database where
  volume : Volume
  place : DatabasePlace
  /-- The content may only be read. -/
  readOnly : Bool := false
  deriving Repr

namespace Database

/-- The content of an open database. -/
def file (d : Database) : DatabaseFile :=
  match d.place with
  | .temporary file _ => file
  | .onVolume place _ =>
    match d.volume.node? place with
    | some (.database file _) => file
    | _ => .empty

/-- Whether the header of a database says that it has a log. -/
def isLogged (v : Volume) (place : Place) : Bool :=
  match v.node? place with
  | some (.database _ logged) => logged
  | _ => false

/-- The database with another content. -/
def withFile (d : Database) (file : DatabaseFile) : Database :=
  match d.place with
  | .temporary _ shared => { d with place := .temporary file shared }
  | .onVolume place _ =>
    { d with volume := d.volume.put place (.database file (isLogged d.volume place)) }

/-- The volume when the database has been closed. -/
def close (d : Database) : Volume :=
  match d.place with
  | .temporary _ _ => d.volume
  | .onVolume place safekeeping => safekeeping.finish place d.readOnly d.volume

/-- A new private database. -/
def inMemory : Except StorageError (Database × List Log.Entry) :=
  match DatabaseFile.empty.migrate with
  | .ok file => .ok (⟨{}, .temporary file false, false⟩, DatabaseFile.empty.migrationLog)
  | .error e => .error (.database e)

/-! ## Changes -/

/-- The database after a change of its content. -/
def change (d : Database) (changed : Except DatabaseError DatabaseFile) :
    Except DatabaseError Database := do
  let file ← changed
  if d.readOnly then throw .readOnly
  match d.place with
  | .temporary _ _ => return d.withFile file
  | .onVolume place safekeeping =>
    match safekeeping.protect place d.volume with
    | .ok _ volume => return { d with volume := volume }.withFile file
    | .error e _ => throw e

/-! ## Opening -/

/-- The most bytes that the path of a database file has, so that there is room for the
paths of the files beside it. -/
def maxFilePath : Nat := 504

/-- Finds or makes the file of a name. -/
def locate (path : Path) (name : DatabaseName) : VolumeAction DatabaseError Place := do
  let v ← get
  let some place := v.settle? name.file | throw (.cannotOpen path)
  if maxFilePath < Volume.pathLength place then throw (.cannotOpen path)
  if !name.model?.all v.holds then throw .noModel
  match v.node? place with
  | some .directory => throw (if name.access = .reading then .cannotRead else .cannotOpen path)
  | some _ => return place
  | none =>
    let isHome := (v.node? place.dropLast).any Node.isDirectory
    if !(isHome && name.mayMake) then throw (.cannotOpen path)
    set (v.put place .emptyFile)
    return place

/-- What another connection to the path of an open database sees, if it can be made: a
private file that is not shared is another one for each connection, and the way to the
file has to be found again. -/
def otherView (d : Database) (path : Path) : Except DatabaseError DatabaseFile :=
  match d.place with
  | .temporary _ false => .ok .empty
  | .temporary file true => .ok file
  | .onVolume _ _ => do
    match locate path (← DatabaseName.ofPath path) d.volume with
    | .ok _ _ => return d.file
    | .error e _ => throw e

/-- The database after another connection has changed its file. -/
def withOtherView (d : Database) (file : DatabaseFile) : Database :=
  match d.place with
  | .temporary _ false => d
  | _ => d.withFile file

/-- The database in a file of the volume. -/
def connectFile (path : Path) (name : DatabaseName) : VolumeAction DatabaseError Database := do
  let place ← locate path name
  let (safekeeping, readOnly) ← Safekeeping.begin name place
  return ⟨← get, .onVolume place safekeeping, readOnly⟩

/-- The database that a path stands for, before any migration. -/
def connect (path : Path) : VolumeAction DatabaseError Database := do
  match path.bytes.findIdx? fun b => b = 0 with
  | some position => throw (.nulInName position)
  | none =>
    let name ← MonadExcept.ofExcept (DatabaseName.ofPath path)
    if name.isPrivate then
      return ⟨← get, .temporary .empty name.isShared, name.isReadOnly⟩
    else connectFile path name

/-- Brings an open database up to the current schema. -/
def upgrade (d : Database) : Except DatabaseError (Database × List Log.Entry) :=
  if d.file.migration.isEmpty then .ok (d, [])
  else (d.change d.file.migrate).map fun upgraded => (upgraded, d.file.migrationLog)

/-- What is reported before a database is opened. -/
def openingNotice (path : Path) : Log.Entry :=
  ⟨.info, "Opening settings database at: " ++ Text.Quoted.write path.bytes⟩

/-- Opens the database at a path: makes the directories above it, finds or makes the
file, and brings it up to the current schema. -/
def open? (path : Path) : VolumeAction StorageError (Database × List Log.Entry) := do
  (Volume.makeDirectories path.directory).adaptExcept .io
  let d ← (connect path).adaptExcept .database
  match d.upgrade with
  | .ok (d, log) =>
    set d.volume
    return (d, openingNotice path :: log)
  | .error e =>
    set d.close
    throw (.database e)

end Database

instance : SettingsBackend Database where
  get d key := SettingsBackend.get d.file key
  set d key value := (d.change (d.file.set key value)).mapError .database
  remove d key :=
    match d.file.remove key with
    | .error e => .error (.database e)
    | .ok (found, file) =>
      ((d.change (.ok file)).mapError .database).map fun changed => (found, changed)

end ProxyControl
