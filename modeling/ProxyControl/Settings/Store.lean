import ProxyControl.Log
import ProxyControl.Settings.Backend
import ProxyControl.Settings.Configuration

/-!
# The settings store

A store puts types on a backend.  Reading is total: it never fails, and a value that
cannot be used is left as it is and shown as the default.  Nothing is checked on
writing, except that a text given for a setting must be a value of its type.

Main results:

- Definition `SettingsStore.snapshot`: the configuration.
- Definition `SettingsStore.setFromText`: a setting given as text.
- Definition `SettingsStore.reset`: back to the default.
-/

namespace ProxyControl

/-- A backend with the defaults of the settings. -/
structure SettingsStore (σ : Type) where
  backend : σ
  defaults : ConfigurationDefaults
  deriving Repr

namespace SettingsStore

variable {σ : Type} [SettingsBackend σ]

/-! ## Reading -/

/-- Reads one setting. -/
def read (s : SettingsStore σ) (key : SettingKey) : Reading :=
  SettingsBackend.get s.backend key.name

/-- The warning about a reading, if it failed. -/
def warning? (key : SettingKey) : Reading → Option Log.Entry
  | .ok _ => none
  | .error e => some ⟨.warn, "Failed to read setting " ++ key.name ++ ": " ++ e.message⟩

/-- The warnings about reading some settings. -/
def warnings (s : SettingsStore σ) (keys : List SettingKey) : List Log.Entry :=
  keys.filterMap fun key => warning? key (s.read key)

/-- The configuration. -/
def snapshot (s : SettingsStore σ) : Configuration :=
  Configuration.ofReadings s.defaults s.read

/-- The configuration when each setting is read from a backend state of its own. -/
def snapshotOver (defaults : ConfigurationDefaults) (states : SettingKey → σ) : Configuration :=
  Configuration.ofReadings defaults fun key => SettingsBackend.get (states key) key.name

/-- The port. -/
def port (s : SettingsStore σ) : UInt16 := (s.read .port).port?.getD s.defaults.port

/-- The proxy configuration file. -/
def pacFile (s : SettingsStore σ) : Path := (s.read .pacFile).path?.getD s.defaults.pacFile

/-- Negotiated authentication. -/
def negotiate (s : SettingsStore σ) : Bool := (s.read .negotiate).isOn

/-- Every connection is tunnelled. -/
def alwaysUseConnect (s : SettingsStore σ) : Bool := (s.read .alwaysUseConnect).isOn

/-- Connect directly when the next proxy fails. -/
def directFallback (s : SettingsStore σ) : Bool := (s.read .directFallback).isOn

/-- Start at login. -/
def autostart (s : SettingsStore σ) : Bool := (s.read .autostart).isOn

/-! ## Writing -/

/-- Sets the value of a key in the backend. -/
def put (s : SettingsStore σ) (key : String) (value : Json) :
    Except StorageError (SettingsStore σ) :=
  (SettingsBackend.set s.backend key value).map fun backend => { s with backend := backend }

/-- Sets the port, which is not checked. -/
def setPort (s : SettingsStore σ) (port : UInt16) : Except StorageError (SettingsStore σ) :=
  s.put SettingKey.port.name (.int port.toNat)

/-- Sets the proxy configuration file; the path is stored as text. -/
def setPacFile (s : SettingsStore σ) (path : Path) : Except StorageError (SettingsStore σ) :=
  s.put SettingKey.pacFile.name (.str path.display)

/-- Sets a setting that is on or off. -/
def setToggle (s : SettingsStore σ) (key : SettingKey) (on : Bool) :
    Except StorageError (SettingsStore σ) :=
  s.put key.name (.bool on)

/-- Sets a setting given as text, as it is typed on a command line. -/
def setFromText (s : SettingsStore σ) (name raw : String) :
    Except StorageError (SettingsStore σ) :=
  match SettingKey.ofName? name with
  | none => .error (.unknownKey name)
  | some key =>
    match key.convert? raw with
    | none => .error (.invalidValue name raw)
    | some value => s.put name value

/-- Removes a stored setting and says whether it was there. -/
def reset (s : SettingsStore σ) (name : String) :
    Except StorageError (Bool × SettingsStore σ) :=
  match SettingKey.ofName? name with
  | none => .error (.unknownKey name)
  | some _ =>
    (SettingsBackend.remove s.backend name).map fun (found, backend) =>
      (found, { s with backend := backend })

end SettingsStore
end ProxyControl
