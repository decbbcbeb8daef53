import ProxyControl.Path
import ProxyControl.SystemError

/-!
# Errors of the settings

Main results:

- Definition `StorageError.message`: the text of each failure.
- Definition `StorageError.causes`: the texts of the failures behind it.
-/

namespace ProxyControl

/-- A failure of the database. -/
inductive DatabaseError where
  /-- The settings table is missing. -/
  | noTable
  /-- The name of the settings table belongs to an index. -/
  | nameOfIndex
  /-- A view or a table of another shape cannot be read or changed. -/
  | otherTable (text : String)
  /-- The file holds no database. -/
  | notDatabase
  /-- The file cannot be opened or made. -/
  | cannotOpen (path : Path)
  /-- The file cannot be opened as it was left, or a file beside it cannot be opened. -/
  | cannotOpenBeside
  /-- The file, or a file beside it, cannot be read. -/
  | cannotRead
  /-- A file beside it cannot be removed. -/
  | cannotRemove
  /-- The file beside it that locks it cannot be made. -/
  | cannotLock
  /-- The file that it shall take its rights from cannot be found. -/
  | noModel
  /-- Another program has locked it. -/
  | locked
  /-- Its log has something in it, but no index that can be relied on. -/
  | unsettled
  /-- The database may only be read. -/
  | readOnly
  /-- A change that was broken off cannot be undone, for the database may only be read. -/
  | cannotUndo
  /-- A NUL byte stands in the name of the database. -/
  | nulInName (position : Nat)
  /-- The name of the database is on another host. -/
  | foreignAuthority (authority : List UInt8)
  /-- The name of the database asks for a mode that there is none of. -/
  | unknownMode (kind : String) (mode : List UInt8)
  /-- The name of the database asks for a mode that is wider than an earlier one. -/
  | widenedMode (kind : String) (mode : List UInt8)
  /-- The name of the database asks for a kind of storage that there is none of. -/
  | unknownStorage (name : List UInt8)
  /-- A value is of a type that is not text. -/
  | notText (type : String)
  /-- A value is text that is not well formed. -/
  | malformedText (fault : Text.Utf8.Fault)
  deriving DecidableEq, Repr

namespace DatabaseError

/-- The text of a failure. -/
def message : DatabaseError → String
  | noTable => "no such table: config"
  | nameOfIndex => "there is already an index named config"
  | otherTable text => text
  | notDatabase => "file is not a database"
  | cannotOpen path => "unable to open database file: " ++ path.display
  | cannotOpenBeside => "unable to open database file"
  | cannotRead | cannotRemove | cannotLock | noModel => "disk I/O error"
  | locked => "database is locked"
  | unsettled => "locking protocol"
  | readOnly | cannotUndo => "attempt to write a readonly database"
  | nulInName position => "nul byte found in provided data at position: " ++ toString position
  | foreignAuthority authority => "invalid uri authority: " ++ Text.Utf8.lossy authority
  | unknownMode kind mode => "no such " ++ kind ++ " mode: " ++ Text.Utf8.lossy mode
  | widenedMode kind mode => kind ++ " mode not allowed: " ++ Text.Utf8.lossy mode
  | unknownStorage name => "no such vfs: " ++ Text.Utf8.lossy name
  | notText type => "Invalid column type " ++ type ++ " at index: 0, name: value"
  | malformedText fault =>
    "Conversion error from type Text at index: 0, " ++ fault.message

/-- The number of a failure and its general text, if it is one of the database itself. -/
def code? : DatabaseError → Option (Nat × String)
  | noTable | nameOfIndex | otherTable _ | foreignAuthority _ | unknownMode _ _
  | unknownStorage _ => some (1, "SQL logic error")
  | widenedMode _ _ => some (3, "access permission denied")
  | locked => some (5, "database is locked")
  | readOnly => some (8, "attempt to write a readonly database")
  | cannotUndo => some (776, "attempt to write a readonly database")
  | cannotRead => some (266, "disk I/O error")
  | noModel => some (1802, "disk I/O error")
  | cannotRemove => some (2570, "disk I/O error")
  | cannotLock => some (3850, "disk I/O error")
  | cannotOpen _ | cannotOpenBeside => some (14, "unable to open database file")
  | unsettled => some (15, "locking protocol")
  | notDatabase => some (26, "file is not a database")
  | notText _ | malformedText _ | nulInName _ => none

/-- The texts of the failures behind a failure. -/
def causes (e : DatabaseError) : List String :=
  match e, e.code? with
  | malformedText fault, _ => [fault.message]
  | nulInName _, _ => [e.message]
  | _, some (number, text) => ["Error code " ++ toString number ++ ": " ++ text]
  | _, none => []

end DatabaseError

/-- A failure of the settings. -/
inductive StorageError where
  /-- The database failed. -/
  | database (cause : DatabaseError)
  /-- The file system failed. -/
  | io (cause : SystemError)
  /-- The settings cannot be reached. -/
  | config (text : String)
  /-- There is no setting of that name. -/
  | unknownKey (key : String)
  /-- A text is no value of a setting. -/
  | invalidValue (key value : String)
  deriving DecidableEq, Repr

namespace StorageError

/-- The text of a failure. -/
def message : StorageError → String
  | database cause => "Database error: " ++ cause.message
  | io cause => "IO error: " ++ cause.message
  | config text => "Configuration error: " ++ text
  | unknownKey key => "Unknown setting: " ++ key
  | invalidValue key value => "Invalid value for " ++ key ++ ": " ++ value

/-- The texts of the failures behind a failure, the nearest first. -/
def causes : StorageError → List String
  | database cause => cause.message :: cause.causes
  | io cause => [cause.message]
  | _ => []

end StorageError
end ProxyControl
