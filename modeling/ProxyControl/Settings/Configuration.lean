import ProxyControl.Json.Writer
import ProxyControl.Settings.Error
import ProxyControl.Settings.Key

/-!
# The configuration

A configuration gives every setting a value.  It is made from six readings of stored
values and the defaults: a value that is missing, of the wrong type or out of range, and
a reading that failed, count as the default.
The proxy configuration file and the database are below the user's data directory unless
other places are given.

Main results:

- Definition `Configuration.ofReadings`: the configuration of six readings.
- Definition `Configuration.toJson?`: its JSON value, if its path is text.
- Definitions `UserDirectories.pacFile`, `UserDirectories.database`: the default paths.
-/

namespace ProxyControl

/-! ## Ports -/

/-- The port of the engine unless another one is set. -/
def defaultPort : UInt16 := 3128

/-- The lowest port that is taken from the settings. -/
def minPort : UInt16 := 1024

/-- The port that all ports taken from the settings lie below. -/
def maxPortExclusive : UInt16 := 65535

/-- Whether a stored integer is taken as a port. -/
def isValidPort (n : Int) : Bool :=
  decide ((minPort.toNat : Int) ≤ n) && decide (n < maxPortExclusive.toNat)

/-! ## Configurations -/

/-- What stands in for settings that are not stored. -/
structure ConfigurationDefaults where
  port : UInt16
  pacFile : Path
  deriving DecidableEq, Repr

/-- The value of every setting. -/
structure Configuration where
  port : UInt16
  pacFile : Path
  negotiate : Bool
  alwaysUseConnect : Bool
  directFallback : Bool
  autostart : Bool
  deriving DecidableEq, Repr

/-- The answer to reading one setting. -/
abbrev Reading := Except StorageError (Option Json)

namespace Reading

/-- The stored value, none if the reading failed. -/
def value? : Reading → Option Json
  | .ok value => value
  | .error _ => none

/-- The port of a reading, if it holds a valid one. -/
def port? (r : Reading) : Option UInt16 := do
  let n ← (← r.value?).asInt?
  if isValidPort n then some (UInt16.ofNat n.toNat) else none

/-- The path of a reading, if it holds a text. -/
def path? (r : Reading) : Option Path :=
  (r.value?.bind Json.asText?).map Path.ofText

/-- Whether a reading holds the value true. -/
def isOn (r : Reading) : Bool :=
  (r.value?.bind Json.asBool?).getD false

end Reading

namespace Configuration

/-- The settings in the order in which they are read. -/
def readOrder : List SettingKey :=
  [.port, .pacFile, .negotiate, .alwaysUseConnect, .directFallback, .autostart]

/-- The configuration of a reading of each setting. -/
def ofReadings (defaults : ConfigurationDefaults) (r : SettingKey → Reading) :
    Configuration where
  port := (r .port).port?.getD defaults.port
  pacFile := (r .pacFile).path?.getD defaults.pacFile
  negotiate := (r .negotiate).isOn
  alwaysUseConnect := (r .alwaysUseConnect).isOn
  directFallback := (r .directFallback).isOn
  autostart := (r .autostart).isOn

/-- The description of a path that is not text. -/
def notTextMessage : String := "path contains invalid UTF-8 characters"

/-- The JSON value of a configuration, if its path is text. -/
def toJson? (c : Configuration) : Option Json :=
  c.pacFile.text?.map fun path =>
    .obj [("port", .int c.port.toNat), ("pac_file", .str path),
      ("negotiate", .bool c.negotiate), ("always_use_connect", .bool c.alwaysUseConnect),
      ("direct_fallback", .bool c.directFallback), ("autostart", .bool c.autostart)]

end Configuration

/-! ## Default paths -/

/-- What is known about the user's directories. -/
structure UserDirectories where
  home : Option Path
  dataHome : Option Path
  deriving DecidableEq, Repr

namespace UserDirectories

/-- The user's data directory: the one that is set, if its path is absolute, or the
usual one below the home directory.  Without a home directory there is none. -/
def dataDirectory? (u : UserDirectories) : Option Path :=
  match u.home with
  | none => none
  | some home =>
    if home.isEmpty then none
    else
      match u.dataHome.filter Path.isAbsolute with
      | some dataHome => some dataHome
      | none => some (home.join (.ofText ".local/share"))

/-- The default proxy configuration file. -/
def pacFile (u : UserDirectories) : Path :=
  match u.dataDirectory? with
  | some dir => (dir.join (.ofText "Proxydetox")).join (.ofText "proxy.pac")
  | none => .ofText "proxy.pac"

/-- The directory of the program's own data. -/
def programDirectory? (u : UserDirectories) : Option Path :=
  u.dataDirectory?.map fun dir => dir.join (.ofText "proxydetox")

/-- The default database. -/
def database (u : UserDirectories) : Except StorageError Path :=
  match u.programDirectory? with
  | some dir => .ok (dir.join (.ofText "settings.db"))
  | none => .error (.config "Could not determine app data directory")

/-- The directory of the log files. -/
def logs? (u : UserDirectories) : Option Path :=
  u.programDirectory?.map fun dir => dir.join (.ofText "logs")

/-- The defaults of the settings. -/
def defaults (u : UserDirectories) : ConfigurationDefaults :=
  ⟨defaultPort, u.pacFile⟩

end UserDirectories

end ProxyControl
