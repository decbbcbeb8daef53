import ProxyControl.Dict
import ProxyControl.Json.Basic
import ProxyControl.Settings.Error

/-!
# Settings backends

A backend keeps JSON values under text keys.  Backends differ in where the values are
and in which requests fail.

Main results:

- Class `SettingsBackend`: get, set and remove.
- Structure `MemorySettings`: the values in memory.
- Structure `RefusingSettings`: values in memory, with keys whose requests are refused.
-/

namespace ProxyControl

/-- A backend of the settings.  A request that fails changes nothing. -/
class SettingsBackend (σ : Type) where
  /-- The value of a key. -/
  get : σ → String → Except StorageError (Option Json)
  /-- Sets the value of a key. -/
  set : σ → String → Json → Except StorageError σ
  /-- Removes a key and says whether it was there. -/
  remove : σ → String → Except StorageError (Bool × σ)

/-! ## In memory -/

/-- Settings in memory. -/
structure MemorySettings where
  values : Dict Json := []
  deriving Repr, Inhabited

namespace MemorySettings

/-- The value of a key. -/
def get (m : MemorySettings) (key : String) : Option Json :=
  m.values.find? key

/-- Sets the value of a key. -/
def set (m : MemorySettings) (key : String) (value : Json) : MemorySettings :=
  ⟨m.values.insert key value.canonical⟩

/-- Removes a key. -/
def remove (m : MemorySettings) (key : String) : MemorySettings :=
  ⟨m.values.erase key⟩

end MemorySettings

instance : SettingsBackend MemorySettings where
  get m key := .ok (m.get key)
  set m key value := .ok (m.set key value)
  remove m key := .ok (m.values.contains key, m.remove key)

/-! ## With refusals -/

/-- Settings in memory with keys whose requests are refused; the key of all keys is a
star. -/
structure RefusingSettings where
  values : MemorySettings := {}
  unreadable : List String := []
  unwritable : List String := []
  deriving Repr, Inhabited

namespace RefusingSettings

/-- The key that stands for all keys. -/
def anyKey : String := "*"

/-- Whether a key is among those marked. -/
def isMarked (marks : List String) (key : String) : Bool :=
  marks.contains key || marks.contains anyKey

/-- Marks a key whose reading is refused, and says whether it was not marked before. -/
def refuseReading (r : RefusingSettings) (key : String) : Bool × RefusingSettings :=
  (!r.unreadable.contains key, { r with unreadable := key :: r.unreadable })

/-- Marks a key whose changes are refused, and says whether it was not marked before. -/
def refuseWriting (r : RefusingSettings) (key : String) : Bool × RefusingSettings :=
  (!r.unwritable.contains key, { r with unwritable := key :: r.unwritable })

/-- Removes all marks. -/
def heal (r : RefusingSettings) : RefusingSettings :=
  { r with unreadable := [], unwritable := [] }

end RefusingSettings

instance : SettingsBackend RefusingSettings where
  get r key :=
    if RefusingSettings.isMarked r.unreadable key then .error (.config "read refused")
    else .ok (r.values.get key)
  set r key value :=
    if RefusingSettings.isMarked r.unwritable key then .error (.config "write refused")
    else .ok { r with values := r.values.set key value }
  remove r key :=
    if RefusingSettings.isMarked r.unwritable key then .error (.config "remove refused")
    else .ok (r.values.values.contains key, { r with values := r.values.remove key })

end ProxyControl
