import ProxyControl.Json.Reader
import ProxyControl.Json.Writer
import ProxyControl.Log
import ProxyControl.Settings.Backend

/-!
# Database files

A database file holds a schema version and a table of settings.  A row's value is text,
but any other program may have put something else there.  Text that is not JSON is read
as null; a value that is not text cannot be read.  A row whose key is not text is never
found, and is left out here.  Another program may also have given the name of the table to
an index, to a view or to a table of another shape; the latter two are read like the table as
far as they can be, but take no settings.

Main results:

- Definitions `DatabaseFile.get`, `DatabaseFile.set`, `DatabaseFile.remove`: one row.
- Definition `DatabaseFile.all`: all rows that can be read, in key order.
- Definition `DatabaseFile.migrate`: the file brought up to the current schema.
-/

namespace ProxyControl

/-- A stored value. -/
inductive Cell where
  /-- Text. -/
  | text (s : String)
  /-- Bytes stored as text that are no text. -/
  | malformed (fault : Text.Utf8.Fault)
  /-- A byte string. -/
  | blob (bytes : List UInt8)
  /-- An integer. -/
  | integer (n : Int)
  /-- A real, as its bits. -/
  | real (bits : UInt64)
  /-- No value. -/
  | null
  deriving DecidableEq, Repr

namespace Cell

/-- The text of a stored value. -/
def text? : Cell → Except DatabaseError String
  | text s => .ok s
  | malformed fault => .error (.malformedText fault)
  | blob _ => .error (.notText "Blob")
  | integer _ => .error (.notText "Integer")
  | real _ => .error (.notText "Real")
  | null => .error (.notText "Null")

/-- The JSON value of a stored value; text that is not JSON is null. -/
def value? (c : Cell) : Except DatabaseError Json :=
  c.text?.map fun s => ((Json.ofText? s).map Json.canonical).getD .null

end Cell

/-- Something else that is read in place of the settings table, without triggers that would take
a change in its stead. -/
structure OtherTable where
  /-- The rows that it shows, or why it cannot be read. -/
  shown : Except String (Dict Cell)
  /-- Why it cannot be changed. -/
  refusal : String
  deriving Repr

/-- What the name of the settings table stands for. -/
inductive TableName where
  /-- Nothing. -/
  | free
  /-- The table that a migration makes, with its rows. -/
  | table (rows : Dict Cell)
  /-- A table of another shape. -/
  | foreign (other : OtherTable)
  /-- A view. -/
  | view (other : OtherTable)
  /-- An index. -/
  | index
  deriving Repr

/-- The content of a database file. -/
structure DatabaseFile where
  version : Int
  name : TableName
  deriving Repr

namespace DatabaseFile

/-- A new file. -/
def empty : DatabaseFile := ⟨0, .free⟩

/-- The rows that are read: those of the settings table, or those that something else shows. -/
def rows? (f : DatabaseFile) : Except DatabaseError (Dict Cell) :=
  match f.name with
  | .table rows => .ok rows
  | .foreign other | .view other => other.shown.mapError .otherTable
  | _ => .error .noTable

/-- The rows that can be changed: those of the settings table. -/
def ownRows? (f : DatabaseFile) : Except DatabaseError (Dict Cell) :=
  match f.name with
  | .table rows => .ok rows
  | .foreign other | .view other => .error (.otherTable other.refusal)
  | _ => .error .noTable

/-- The file with other rows. -/
def withRows (f : DatabaseFile) (rows : Dict Cell) : DatabaseFile :=
  { f with name := .table rows }

/-! ## Rows -/

/-- The value of a key. -/
def get (f : DatabaseFile) (key : String) : Except DatabaseError (Option Json) := do
  match (← f.rows?).find? key with
  | none => return none
  | some cell => return some (← cell.value?)

/-- Puts a stored value under a key. -/
def putCell (f : DatabaseFile) (key : String) (cell : Cell) :
    Except DatabaseError DatabaseFile := do
  return f.withRows ((← f.ownRows?).insert key cell)

/-- Sets the value of a key. -/
def set (f : DatabaseFile) (key : String) (value : Json) : Except DatabaseError DatabaseFile :=
  f.putCell key (.text value.canonical.toText)

/-- Removes a key and says whether it was there. -/
def remove (f : DatabaseFile) (key : String) : Except DatabaseError (Bool × DatabaseFile) := do
  let rows ← f.ownRows?
  return (rows.contains key, f.withRows (rows.erase key))

/-- The key and the value of a row that can be read. -/
def readable? (row : String × Cell) : Option (String × Json) :=
  match row.2.value? with
  | .ok value => some (row.1, value)
  | .error _ => none

/-- All rows that can be read, in key order. -/
def all (f : DatabaseFile) : Except DatabaseError (List (String × Json)) := do
  return (← f.rows?).filterMap readable?

/-- Drops the table. -/
def dropTable (f : DatabaseFile) : Except DatabaseError DatabaseFile :=
  match f.name with
  | .table _ | .foreign _ => .ok { f with name := .free }
  | .view _ => .error (.otherTable "use DROP VIEW to delete view config")
  | _ => .error .noTable

/-! ## Migration -/

/-- The current schema version. -/
def schemaVersion : Int := 1

/-- The bound of the versions that a file has room for. -/
def versionBound : Int := 0x80000000

/-- The file with another schema version; one that it has no room for is stored as zero. -/
def withVersion (f : DatabaseFile) (version : Int) : DatabaseFile :=
  { f with version := if -versionBound ≤ version ∧ version < versionBound then version else 0 }

/-- A statement of a migration. -/
inductive Statement where
  /-- Makes the settings table unless a table or a view of that name is there. -/
  | createTable
  /-- Sets the schema version. -/
  | setVersion (version : Int)
  deriving DecidableEq, Repr

/-- Carries out a statement. -/
def execute (f : DatabaseFile) : Statement → Except DatabaseError DatabaseFile
  | .createTable =>
    match f.name with
    | .free => .ok (f.withRows [])
    | .table _ | .foreign _ | .view _ => .ok f
    | .index => .error .nameOfIndex
  | .setVersion version => .ok (f.withVersion version)

/-- Carries out statements one after the other. -/
def executeAll : DatabaseFile → List Statement → Except DatabaseError DatabaseFile
  | f, [] => .ok f
  | f, s :: rest =>
    match f.execute s with
    | .ok f => executeAll f rest
    | .error e => .error e

/-- The statements that bring a file up to the current schema. -/
def migration (f : DatabaseFile) : List Statement :=
  if schemaVersion ≤ f.version then []
  else [.createTable, .setVersion schemaVersion]

/-- What is reported about a migration. -/
def migrationLog (f : DatabaseFile) : List Log.Entry :=
  if schemaVersion ≤ f.version then []
  else
    [⟨.info, "Migrating settings database from v" ++ toString f.version ++ " to v" ++
      toString schemaVersion⟩]

/-- The file brought up to the current schema. -/
def migrate (f : DatabaseFile) : Except DatabaseError DatabaseFile :=
  f.executeAll f.migration

end DatabaseFile

instance : SettingsBackend DatabaseFile where
  get f key := (f.get key).mapError .database
  set f key value := (f.set key value).mapError .database
  remove f key := (f.remove key).mapError .database

end ProxyControl
