import ProxyControl.Json.Basic
import ProxyControl.Preference.Json

/-!
# Network services

The preferences hold a dictionary of network services.  Each service is described by its
identifier, the kind of its hardware and its proxy dictionary; entries of any other
shape count as missing.

Main results:

- Definition `HardwareKind.ofName`: the kind of a hardware name.
- Definition `NetworkService.records`: the services of a snapshot of the preferences.
-/

namespace ProxyControl

/-- The key of the network services in the preferences. -/
def networkServicesKey : String := "NetworkServices"

/-- The key of a service's interface. -/
def interfaceKey : String := "Interface"

/-- The key of an interface's hardware. -/
def hardwareKey : String := "Hardware"

/-- The key of a service's proxy dictionary. -/
def proxiesKey : String := "Proxies"

/-- The kind of hardware behind a network service. -/
inductive HardwareKind where
  /-- Wireless network. -/
  | airPort
  /-- Wired network. -/
  | ethernet
  /-- Anything else, with its name if that is known. -/
  | other (name : Option String)
  deriving DecidableEq, Repr

namespace HardwareKind

/-- The kind of a hardware name. -/
def ofName (name : Option String) : HardwareKind :=
  if name = some "AirPort" then airPort
  else if name = some "Ethernet" then ethernet
  else other name

/-- Whether services of this kind get their proxies written. -/
def isEligible : HardwareKind → Bool
  | airPort => true
  | ethernet => true
  | other _ => false

/-- The name that is shown for a kind. -/
def display : HardwareKind → String
  | airPort => "AirPort"
  | ethernet => "Ethernet"
  | other (some name) => name
  | other none => "unknown"

/-- The JSON value of a kind: its name, or the name of any other hardware under a tag. -/
def toJson : HardwareKind → Json
  | airPort => .str "AirPort"
  | ethernet => .str "Ethernet"
  | other name => .obj [("Other", (name.map Json.str).getD .null)]

end HardwareKind

/-- A network service as it is read from the preferences. -/
structure NetworkService where
  id : String
  hardware : HardwareKind
  current : Option PrefDict
  deriving Repr

namespace NetworkService

/-- The path of the proxy dictionary of a service. -/
def proxiesPathOf (id : String) : String :=
  "/" ++ networkServicesKey ++ "/" ++ id ++ "/" ++ proxiesKey

/-- The path of the service's proxy dictionary. -/
def proxiesPath (service : NetworkService) : String :=
  proxiesPathOf service.id

/-- The JSON value of a service. -/
def toJson (service : NetworkService) : Json :=
  .obj [("service_id", .str service.id), ("hardware", service.hardware.toJson),
    ("current_proxies", (service.current.map fun d => (PrefValue.dict d).toJson).getD .null)]

/-- The hardware name inside a service entry, where every level has the right shape. -/
def hardwareName? (entry : PrefValue) : Option String := do
  let service ← entry.asDict?
  let interface ← (← service.find? interfaceKey).asDict?
  (← interface.find? hardwareKey).asText?

/-- The proxy dictionary inside a service entry. -/
def proxies? (entry : PrefValue) : Option PrefDict := do
  let service ← entry.asDict?
  (← service.find? proxiesKey).asDict?

/-- The service of one entry. -/
def ofEntry (entry : String × PrefValue) : NetworkService :=
  ⟨entry.1, .ofName (hardwareName? entry.2), proxies? entry.2⟩

/-- The services of a snapshot of the preferences; none if the snapshot is no
dictionary. -/
def records : Option PrefValue → Option (List NetworkService)
  | some (.dict services) => some (services.map ofEntry)
  | _ => none

end NetworkService
end ProxyControl
