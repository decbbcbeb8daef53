import ProxyControl.Settings.Error
import ProxyControl.Volume

/-!
# Files beside a database

A database file may have files beside it, with the same name and an ending: the journal
of a change that is under way, the log of changes, the index of the log, and a lock.

Main results:

- Definition `Neighbor.place`: where a file beside a database is.
- Definition `Neighbor.make`: makes a file beside a database unless it is there.
- Theorem `Neighbor.place_injective`: different files are at different places.
-/

namespace ProxyControl

/-- A file beside a database. -/
inductive Neighbor where
  /-- What a change that is under way has replaced. -/
  | journal
  /-- The changes that are not in the database itself yet. -/
  | log
  /-- Where the changes are in the log. -/
  | index
  /-- The lock of a program that uses the database. -/
  | lock
  deriving DecidableEq, Repr

namespace Neighbor

/-- What the name of a file ends with. -/
def ending : Neighbor → String
  | journal => "-journal"
  | log => "-wal"
  | index => "-shm"
  | lock => ".lock"

/-- The name of a file beside a database. -/
def name (n : Neighbor) (database : Place) : List UInt8 :=
  database.getLast?.getD [] ++ Text.Utf8.encode n.ending

/-- Where a file beside a database is. -/
def place (n : Neighbor) (database : Place) : Place :=
  database.dropLast ++ [n.name database]

/-- Whether the name of a file is short enough. -/
def hasRoom (n : Neighbor) (database : Place) : Bool :=
  decide ((n.name database).length ≤ Volume.maxName)

/-- What stands at the place of a file. -/
def node? (n : Neighbor) (database : Place) (v : Volume) : Option Node :=
  v.node? (n.place database)

/-- Puts something at the place of a file. -/
def put (n : Neighbor) (database : Place) (node : Node) : VolumeAction DatabaseError Unit :=
  modify fun v => v.put (n.place database) node

/-- Removes a file. -/
def remove (n : Neighbor) (database : Place) : VolumeAction DatabaseError Unit :=
  modify fun v => v.clear (n.place database)

/-- Makes a file unless it is there. -/
def make (n : Neighbor) (database : Place) : VolumeAction DatabaseError Unit := do
  match n.node? database (← get) with
  | some .directory => throw .cannotOpenBeside
  | some _ => return
  | none => if n.hasRoom database then n.put database .emptyFile else throw .cannotOpenBeside

/-- Different files have different endings. -/
theorem encode_ending_injective {m n : Neighbor}
    (h : Text.Utf8.encode m.ending = Text.Utf8.encode n.ending) : m = n := by
  cases m <;> cases n <;> revert h <;> decide +kernel

/-- Different files are at different places. -/
theorem place_injective {m n : Neighbor} {database : Place}
    (h : m.place database = n.place database) : m = n := by
  have hname : m.name database = n.name database := by simpa [place] using h
  exact encode_ending_injective (by simpa [name] using hname)

end Neighbor
end ProxyControl
