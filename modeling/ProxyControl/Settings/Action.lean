import ProxyControl.Json.Writer
import ProxyControl.Settings.Store

/-!
# Actions on a settings store

What can be asked of a settings store, as data: one action is a step with an answer, the
warnings that it caused and the new store.

Main results:

- Type `SettingsAction`: what can be asked.
- Definition `SettingsStore.step`: the answer, the warnings and the new store.
- Definition `SettingsStore.steps`: the steps of a list of actions.
-/

namespace ProxyControl

/-- What can be asked of a settings store. -/
inductive SettingsAction where
  | setPort (port : UInt16)
  | setPacFile (path : Path)
  /-- Switches a setting on or off. -/
  | setToggle (key : SettingKey) (on : Bool)
  | setFromText (name raw : String)
  | reset (name : String)
  /-- Reads one setting. -/
  | read (key : SettingKey)
  | defaults
  /-- The configuration as JSON text. -/
  | snapshotText
  /-- Reads a value of the backend. -/
  | rawGet (key : String)
  /-- Sets a value of the backend. -/
  | rawSet (key : String) (value : Json)
  /-- Removes a value of the backend. -/
  | rawRemove (key : String)
  deriving Repr

/-- The answer to an action. -/
inductive SettingsAnswer where
  | done
  | flag (b : Bool)
  | port (n : UInt16)
  | path (p : Path)
  | value (v : Option Json)
  | defaults (d : ConfigurationDefaults)
  | text (s : String)
  | failed (e : StorageError)
  /-- The configuration's path is not text. -/
  | notText
  deriving Repr

namespace SettingsStore

variable {σ : Type} [SettingsBackend σ]

/-- An answer, the warnings that belong to it, and the new store. -/
structure Step (σ : Type) where
  answer : SettingsAnswer
  log : List Log.Entry := []
  store : SettingsStore σ

/-- The step of a change, which leaves the store as it was if it fails. -/
def ofChange (s : SettingsStore σ) (change : Except StorageError (SettingsStore σ)) : Step σ :=
  match change with
  | .ok store => ⟨.done, [], store⟩
  | .error e => ⟨.failed e, [], s⟩

/-- The step of a removal. -/
def ofRemoval (s : SettingsStore σ) (change : Except StorageError (Bool × SettingsStore σ)) :
    Step σ :=
  match change with
  | .ok (found, store) => ⟨.flag found, [], store⟩
  | .error e => ⟨.failed e, [], s⟩

/-- The value of one setting. -/
def readAnswer (s : SettingsStore σ) : SettingKey → SettingsAnswer
  | .port => .port s.port
  | .pacFile => .path s.pacFile
  | .negotiate => .flag s.negotiate
  | .alwaysUseConnect => .flag s.alwaysUseConnect
  | .directFallback => .flag s.directFallback
  | .autostart => .flag s.autostart

/-- One action. -/
def step (s : SettingsStore σ) : SettingsAction → Step σ
  | .setPort port => s.ofChange (s.setPort port)
  | .setPacFile path => s.ofChange (s.setPacFile path)
  | .setToggle key on => s.ofChange (s.setToggle key on)
  | .setFromText name raw => s.ofChange (s.setFromText name raw)
  | .reset name => s.ofRemoval (s.reset name)
  | .read key => ⟨s.readAnswer key, s.warnings [key], s⟩
  | .defaults => ⟨.defaults s.defaults, [], s⟩
  | .snapshotText =>
    let answer := match s.snapshot.toJson? with
      | some json => SettingsAnswer.text json.toText
      | none => .notText
    ⟨answer, s.warnings Configuration.readOrder, s⟩
  | .rawGet key =>
    match SettingsBackend.get s.backend key with
    | .ok value => ⟨.value value, [], s⟩
    | .error e => ⟨.failed e, [], s⟩
  | .rawSet key value => s.ofChange (s.put key value)
  | .rawRemove key =>
    s.ofRemoval ((SettingsBackend.remove s.backend key).map fun (found, backend) =>
      (found, { s with backend := backend }))

/-- The steps of a list of actions. -/
def steps (s : SettingsStore σ) : List SettingsAction → List (Step σ)
  | [] => []
  | action :: rest =>
    let step := s.step action
    step :: steps step.store rest

end SettingsStore
end ProxyControl
