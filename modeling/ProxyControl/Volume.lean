import ProxyControl.Engine.Program
import ProxyControl.Settings.DatabaseFile

/-!
# Volumes

A volume is the part of the file system that the settings and the engine touch: the
directories, the database files, the programs and other files at their places.

An action on a volume may fail halfway; what it has changed up to then stays changed.

Main results:

- Definition `VolumeAction`: actions on a volume.
- Definition `Volume.makeDirectories`: makes the missing directories along a path.
- Definition `Volume.lookup`: what stands at a path.
- Definition `Volume.settle?`: the place that the text of a path stands for.
- Definition `Volume.program`: the program that a path starts.
-/

namespace ProxyControl

/-- The names that lead from the root to a place. -/
abbrev Place := List (List UInt8)

/-- What stands at a place. -/
inductive Node where
  | directory
  /-- A database, and whether its changes are kept in a log beside it. -/
  | database (file : DatabaseFile) (logged : Bool)
  /-- A program, and whether it may be started. -/
  | program (program : Program) (executable : Bool)
  /-- A file without content. -/
  | emptyFile
  /-- A file with content of another kind. -/
  | file
  deriving Repr

namespace Node

/-- Whether there is something in a node: an empty file has nothing in it. -/
def isFilled : Node → Bool
  | emptyFile => false
  | _ => true

/-- Whether a node is a directory. -/
def isDirectory : Node → Bool
  | directory => true
  | _ => false

end Node

/-- A part of the file system. -/
structure Volume where
  nodes : List (Place × Node) := []
  /-- Where relative paths start. -/
  workingDirectory : Place := []
  deriving Repr

/-- An action on a volume. -/
abbrev VolumeAction (ε : Type) := EStateM ε Volume

namespace Volume

/-- What stands at a place; the root is a directory. -/
def node? (v : Volume) (place : Place) : Option Node :=
  if place.isEmpty then some .directory else v.nodes.lookup place

/-- The volume with something put at a place. -/
def put (v : Volume) (place : Place) (node : Node) : Volume :=
  { v with nodes := (place, node) :: v.nodes.filter fun entry => entry.1 ≠ place }

/-- The volume with nothing at a place. -/
def clear (v : Volume) (place : Place) : Volume :=
  { v with nodes := v.nodes.filter fun entry => entry.1 ≠ place }

/-- Where a path starts. -/
def start (v : Volume) (path : Path) : Place :=
  if path.isAbsolute then [] else v.workingDirectory

/-- The name of the directory above. -/
def above : List UInt8 := [46, 46]

/-- The place of a path, whatever stands there and on the way. -/
def place (v : Volume) (path : Path) : Place :=
  path.components.foldl (fun at_ name => if name = above then at_.dropLast else at_ ++ [name])
    (v.start path)

/-- The most bytes that a name has. -/
def maxName : Nat := 255

/-- The most bytes that a path has. -/
def maxPath : Nat := 4095

/-- The length of the path of a place. -/
def pathLength (place : Place) : Nat :=
  place.foldl (fun n name => n + (name.length + 1)) 0

/-! ## Lookup -/

/-- Follows names from a place: every place on the way must be a directory. -/
def follow (v : Volume) (here : Place) :
    List (List UInt8) → Except SystemError (Place × Option Node)
  | [] => .ok (here, v.node? here)
  | name :: rest =>
    match v.node? here with
    | none => .error .noEntry
    | some .directory =>
      if maxName < name.length then .error .nameTooLong
      else follow v (if name = above then here.dropLast else here ++ [name]) rest
    | some _ => .error .notDirectory

/-- What stands at a path. -/
def lookup (v : Volume) (path : Path) : Except SystemError (Place × Option Node) :=
  if maxPath < path.bytes.length then .error .nameTooLong
  else v.follow (v.start path) path.components

/-- Whether a path can only stand for a directory. -/
def namesDirectory (path : Path) : Bool :=
  match path.parts.getLast? with
  | some last => last = [] ∨ last = [46] ∨ last = above
  | none => true

/-- Whether something stands at a path; at the empty path there is nothing. -/
def holds (v : Volume) (path : Path) : Bool :=
  match v.lookup path with
  | .ok (_, some node) => !path.isEmpty && (node.isDirectory || !namesDirectory path)
  | _ => false

/-! ## Settled paths -/

/-- The most bytes that a settled path has on the way. -/
def maxSettled : Nat := 511

/-- The place behind a name, if the way to it does not lead through a file and its path
is not too long. -/
def settleName? (v : Volume) (here : Place) (name : List UInt8) : Option Place :=
  if name = above then some here.dropLast
  else if maxSettled < pathLength (here ++ [name]) then none
  else
    match v.node? here with
    | none => some (here ++ [name])
    | some .directory => if maxName < name.length then none else some (here ++ [name])
    | some _ => none

/-- The place that the text of a path stands for: the name of the directory above takes
back the name before it, whatever stands there. -/
def settle? (v : Volume) (path : Path) : Option Place :=
  path.components.foldlM v.settleName? (v.start path)

/-! ## Directories -/

/-- Makes the missing directories along names from a place.  A file at the end of the
way is there already, and so is a file behind a directory that has just been made; any
other file is no directory. -/
def makeFrom (here : Place) (made : Bool) : List (List UInt8) → VolumeAction SystemError Unit
  | [] => return
  | name :: rest => do
    if name = above then makeFrom here.dropLast made rest
    else if maxName < name.length then throw .nameTooLong
    else
      let next := here ++ [name]
      match (← get).node? next with
      | none =>
        modify fun v => v.put next .directory
        makeFrom next true rest
      | some .directory => makeFrom next made rest
      | some _ => throw (if made || rest.isEmpty then .fileExists else .notDirectory)

/-- Makes the missing directories along a path. -/
def makeDirectories (path : Path) : VolumeAction SystemError Unit := do
  if path.hasNul then throw .nulInFileName
  else if maxPath < path.bytes.length then throw .nameTooLong
  else makeFrom ((← get).start path) false path.components

/-! ## Programs -/

/-- What the search for a name without a slash among the installed programs ends with.
There are none, but each directory of programs holds itself and the directory above. -/
def searchFailure (name : List UInt8) : SystemError :=
  if maxName < name.length then .nameTooLong
  else if name = [46] ∨ name = above then .accessDenied
  else .noEntry

/-- The program that a path starts, or why it starts none. -/
def program (v : Volume) (path : Path) : Except SystemError Program :=
  if path.hasNul then .error .nulInCommand
  else if !path.hasSlash then .error (searchFailure path.bytes)
  else
    match v.lookup path with
    | .error e => .error e
    | .ok (_, none) => .error .noEntry
    | .ok (_, some .directory) => .error .accessDenied
    | .ok (_, some (.program p executable)) =>
      if namesDirectory path then .error .notDirectory
      else if executable then .ok p
      else .error .accessDenied
    | .ok (_, some _) => if namesDirectory path then .error .notDirectory else .error .accessDenied

end Volume
end ProxyControl
