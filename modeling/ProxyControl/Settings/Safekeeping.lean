import ProxyControl.Settings.DatabaseName
import ProxyControl.Settings.Neighbor

/-!
# Safekeeping of database files

The changes of a database file are kept safe by the files beside it.  With a log, changes
go to the log first, and an index beside it says where they are; without one, each change
goes through a journal that is gone when the change is done.  The header of the database
says whether it has a log.

A file that is opened gets a log unless its name forbids one.  What earlier users have
left beside it is settled first: a journal is undone and removed, a log is taken over.
The log and its index are removed when the file is closed, if they may be written.

Main results:

- Definition `Safekeeping.begin`: how the changes of a file are kept from now on.
- Definition `Safekeeping.finish`: what is removed when the file is closed.
- Definition `Safekeeping.protect`: what a change needs.
-/

namespace ProxyControl

/-- How the changes of an open database file are kept safe. -/
inductive Safekeeping where
  /-- The file does not change. -/
  | frozen
  /-- In a journal for each change. -/
  | journal
  /-- In a log, which has a file for its index or not. -/
  | log (hasIndexFile : Bool)
  deriving DecidableEq, Repr

namespace Safekeeping

/-! ## What earlier users have left -/

/-- Settles a journal: the one of an empty database is removed, that of any other one is
undone and removed. -/
def settleJournal (n : DatabaseName) (database : Place) (filled : Bool) :
    VolumeAction DatabaseError Unit := do
  match Neighbor.journal.node? database (← get) with
  | none | some .emptyFile => return
  | some .directory => if filled then throw .cannotRead
  | some _ =>
    if filled then
      if n.access = .reading then throw .cannotUndo
      Neighbor.journal.remove database
    else if n.mayReserve then Neighbor.journal.remove database

/-- Opens the index of a log and says whether it may be written.  An index in a file is
made anew; one that may only be read is of no use for a log with something in it. -/
def openIndex (n : DatabaseName) (database : Place) : VolumeAction DatabaseError Bool := do
  if !n.hasIndexFile then return true
  let found := Neighbor.index.node? database (← get)
  if n.readsIndex || found.any Node.isDirectory then
    if found.isNone then throw .cannotOpenBeside
    if (Neighbor.log.node? database (← get)).any Node.isFilled then throw .unsettled
    return false
  if !Neighbor.index.hasRoom database then throw .cannotOpenBeside
  Neighbor.index.put database .file
  return true

/-- Opens the log of a database and says whether it may be written. -/
def openLog (n : DatabaseName) (database : Place) : VolumeAction DatabaseError Bool := do
  if !n.mayLog then throw .cannotOpenBeside
  Neighbor.log.make database
  openIndex n database

/-- Settles a log: the one of an empty database is removed, that of any other one is
opened.  Says whether it may be written if it is open. -/
def settleLog (n : DatabaseName) (database : Place) (filled : Bool) :
    VolumeAction DatabaseError (Option Bool) := do
  match Neighbor.log.node? database (← get) with
  | none | some .emptyFile => return none
  | some node =>
    if filled then return some (← openLog n database)
    if node.isDirectory then throw .cannotRemove
    Neighbor.log.remove database
    return none

/-! ## From the first use to the last -/

/-- Checks that no other program has locked a database by a file. -/
def checkLock (n : DatabaseName) (database : Place) : VolumeAction DatabaseError Unit := do
  if n.isLockedByFile then
    if (Neighbor.lock.node? database (← get)).isSome then throw .locked
    if !Neighbor.lock.hasRoom database then throw .cannotLock

/-- Removes the log and its index. -/
def closeLog (n : DatabaseName) (database : Place) : VolumeAction DatabaseError Unit := do
  Neighbor.log.remove database
  if n.hasIndexFile then Neighbor.index.remove database

/-- Gives a database a log, by a change that goes through a journal. -/
def adoptLog (n : DatabaseName) (database : Place) (file : DatabaseFile) :
    VolumeAction DatabaseError Bool := do
  if n.access = .reading then throw .readOnly
  Neighbor.journal.make database
  Neighbor.journal.remove database
  modify fun v => v.put database (.database file true)
  openLog n database

/-- Opens the log of a database as its header and its name ask for it. -/
def chooseLog (n : DatabaseName) (database : Place) (log : Option Bool) :
    VolumeAction DatabaseError (Option Bool) := do
  let adopt (file : DatabaseFile) : VolumeAction DatabaseError (Option Bool) :=
    if log.isNone && n.mayLog then some <$> adoptLog n database file else return log
  match (← get).node? database with
  | some (.database _ true) => if log.isNone then some <$> openLog n database else return log
  | some (.database file false) => adopt file
  | some .emptyFile => adopt .empty
  | _ =>
    if log = some true ∧ n.access ≠ .reading then closeLog n database
    throw .notDatabase

/-- How the changes of a file are kept from now on, and whether it may only be read. -/
def begin (n : DatabaseName) (database : Place) :
    VolumeAction DatabaseError (Safekeeping × Bool) := do
  if n.isFrozen then
    match (← get).node? database with
    | some (.database _ _) | some .emptyFile => return (.frozen, true)
    | _ => throw .notDatabase
  checkLock n database
  let filled := ((← get).node? database).any Node.isFilled
  settleJournal n database filled
  match ← chooseLog n database (← settleLog n database filled) with
  | none => return (.journal, n.isReadOnly)
  | some writable => return (.log n.hasIndexFile, n.isReadOnly || !writable)

/-- What a change of the file needs: room for a journal, if there is no log. -/
def protect (s : Safekeeping) (database : Place) : VolumeAction DatabaseError Unit := do
  if s = .journal then
    Neighbor.journal.make database
    Neighbor.journal.remove database

/-- What a volume is like when the file has been closed. -/
def finish (s : Safekeeping) (database : Place) (readOnly : Bool) (v : Volume) : Volume :=
  match s with
  | .log hasIndexFile =>
    if readOnly then v
    else
      let v := v.clear (Neighbor.log.place database)
      if hasIndexFile then v.clear (Neighbor.index.place database) else v
  | _ => v

end Safekeeping
end ProxyControl
