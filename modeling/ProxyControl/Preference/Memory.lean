import ProxyControl.Preference.Service
import ProxyControl.Preference.Session
import ProxyControl.Preference.Value

/-!
# Preferences in memory

A backend that keeps the services as a tree, logs its calls and the committed writes,
and can be told which steps to fail.

Main results:

- Structure `MemoryPreferences`: the tree, the logs and the counters.
- Definition `MemoryPreferences.commit`: the staged writes go into the tree in order.
- Definition `MemoryPreferences.backend`: the backend over this state.
-/

namespace ProxyControl

/-- The steps that a backend in memory is told to fail. -/
structure InjectedFailures where
  authorization : Option AuthorizationStatus := none
  session : Option String := none
  /-- The services whose writes are rejected. -/
  sets : List String := []
  commit : Bool := false
  apply : Bool := false
  deriving Repr

/-- A call that is logged. -/
inductive MemoryCall where
  | authorize
  | openSession
  | setPath
  | commit
  | apply
  | synchronize
  | release
  deriving DecidableEq, Repr

/-- The word that stands for a call in the log. -/
def MemoryCall.name : MemoryCall → String
  | authorize => "authorize"
  | openSession => "open"
  | setPath => "set"
  | commit => "commit"
  | apply => "apply"
  | synchronize => "synchronize"
  | release => "release"

/-- The preferences in memory. -/
structure MemoryPreferences where
  services : PrefDict := []
  /-- The committed writes, the oldest first. -/
  writes : List (String × ProxyDict) := []
  calls : List MemoryCall := []
  acquired : Nat := 0
  released : Nat := 0
  lastFlags : Option AuthorizationFlags := none
  commits : Nat := 0
  applies : Nat := 0
  synchronizes : Nat := 0
  failures : InjectedFailures := {}
  deriving Repr

/-- A staged write: the components of its path and the dictionary. -/
abbrev StagedWrite := List String × ProxyDict

/-- The writes staged in an open session, in order. -/
abbrev StagedWrites := List StagedWrite

namespace MemoryPreferences

/-! ## The services -/

/-- The entry of a service with the given hardware name and proxies. -/
def serviceEntry (hardware : Option String) (proxies : Option ProxyDict) : PrefDict :=
  Dict.ofList
    ((hardware.map fun name => (interfaceKey, .dict [(hardwareKey, .str name)])).toList ++
      (proxies.map fun dict => (proxiesKey, .dict dict)).toList)

/-- The preferences with a service added, or replaced if it was there. -/
def addService (m : MemoryPreferences) (id : String) (hardware : Option String)
    (proxies : Option ProxyDict) : MemoryPreferences :=
  { m with services := m.services.insert id (.dict (serviceEntry hardware proxies)) }

/-- The proxy dictionary of a service. -/
def serviceProxies (m : MemoryPreferences) (id : String) : Option ProxyDict :=
  (m.services.find? id).bind NetworkService.proxies?

/-! ## Calls -/

/-- Logs a call. -/
def log (m : MemoryPreferences) (c : MemoryCall) : MemoryPreferences :=
  { m with calls := m.calls ++ [c] }

/-- Asks for a credential. -/
def authorize (flags : AuthorizationFlags) (m : MemoryPreferences) :
    Except AuthorizationStatus Unit × MemoryPreferences :=
  let m := { m.log .authorize with lastFlags := some flags }
  match m.failures.authorization with
  | some status => (.error status, m)
  | none => (.ok (), { m with acquired := m.acquired + 1 })

/-- Gives a credential back. -/
def release (m : MemoryPreferences) : MemoryPreferences :=
  { m.log .release with released := m.released + 1 }

/-- Opens a session without staged writes. -/
def openSession (m : MemoryPreferences) :
    Except PreferencesError StagedWrites × MemoryPreferences :=
  let m := m.log .openSession
  match m.failures.session with
  | some message => (.error ⟨message⟩, m)
  | none => (.ok [], m)

/-- Reads a value of the top level; only the services are there, and only if there are
any. -/
def value (key : String) (m : MemoryPreferences) : Option PrefValue :=
  if key = networkServicesKey ∧ m.services ≠ [] then some (.dict m.services) else none

/-- Whether a path can be written, and to which service it leads. -/
def checkPath (failures : InjectedFailures) (path : String) :
    List String → Except PreferencesError Unit
  | root :: service :: _ =>
    if root ≠ networkServicesKey then .error ⟨"invalid path " ++ path⟩
    else if failures.sets.contains service then .error ⟨"permission denied"⟩
    else .ok ()
  | _ => .error ⟨"invalid path " ++ path⟩

/-- Stages a dictionary at a path. -/
def setPath (path : String) (dict : ProxyDict) (x : StagedWrites × MemoryPreferences) :
    Except PreferencesError Unit × (StagedWrites × MemoryPreferences) :=
  let (staged, m) := x
  let m := m.log .setPath
  let components := PrefPath.components path
  match checkPath m.failures path components with
  | .error e => (.error e, (staged, m))
  | .ok () => (.ok (), (staged ++ [(components, dict)], m))

/-- Puts one staged write into the tree and logs it. -/
def publish (m : MemoryPreferences) (write : StagedWrite) : MemoryPreferences :=
  { m with
    services := m.services.setPath (write.1.drop 1) write.2
    writes := m.writes ++ [(PrefPath.write write.1, write.2)] }

/-- Puts the staged writes into the tree in order; a failing commit leaves them staged. -/
def commit (x : StagedWrites × MemoryPreferences) :
    Except PreferencesError Unit × (StagedWrites × MemoryPreferences) :=
  let (staged, m) := x
  let m := m.log .commit
  if m.failures.commit then (.error ⟨"commit failed"⟩, (staged, m))
  else
    let m := staged.foldl publish m
    (.ok (), ([], { m with commits := m.commits + 1 }))

/-- Makes the committed writes active. -/
def apply (x : StagedWrites × MemoryPreferences) :
    Except PreferencesError Unit × (StagedWrites × MemoryPreferences) :=
  let (staged, m) := x
  let m := m.log .apply
  if m.failures.apply then (.error ⟨"apply failed"⟩, (staged, m))
  else (.ok (), (staged, { m with applies := m.applies + 1 }))

/-- Reads the session's copy again. -/
def synchronize (x : StagedWrites × MemoryPreferences) : StagedWrites × MemoryPreferences :=
  let (staged, m) := x
  (staged, { m.log .synchronize with synchronizes := m.synchronizes + 1 })

/-- The sessions of the preferences in memory. -/
def session : Session (StagedWrites × MemoryPreferences) where
  value key x := (value key x.2, x)
  setPath := setPath
  commit := commit
  apply := apply
  synchronize := synchronize

/-- The backend over the preferences in memory.  The staged writes of a session that is
closed are forgotten. -/
def backend : SystemPreferences MemoryPreferences Unit StagedWrites where
  authorize := authorize
  openSession _ _ m := m.openSession
  session := session
  close _ m := m
  release _ m := m.release

end MemoryPreferences
end ProxyControl
