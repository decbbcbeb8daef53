import Mathlib.Data.List.Infix
import ProxyControl.Proofs.Json.RoundTrip
import ProxyControl.Proofs.Settings.Conversion
import ProxyControl.Proofs.Settings.SharedReads

/-!
# Settings as a record

Whatever keeps the settings, to a settings store it is a record that gives some keys a value.
A backend is such a record if it answers like one and each of its changes is a change of the
record.  What the record holds under a key is what the latest change of that key has left
there.

Main results:

- Structure `SettingsRecord`: the record, itself a backend.
- Definition `SettingsAction.edit?`: what an action changes.
- Structure `Simulates`: a backend behaves like a record.
- Theorem `SettingsStore.Alike.steps`: a store over such a backend tells what the record tells.
- Theorem `SettingsStore.last_record`: what the record holds after a list of actions.
- Structure `SettingsStore.BehavesAsRecord`: what a store over such a backend tells.
- Theorems `MemorySettings.simulates`, `DatabaseFile.simulates`: two backends that do.
-/

namespace ProxyControl

/-! ## Values that settings are set to -/

namespace SettingKey

/-- A text stands for an integer of 64 bits, a text or a truth value. -/
theorem value_of_convert? {key : SettingKey} {raw : String} {value : Json}
    (h : key.convert? raw = some value) :
    (∃ n, IntegerRange.fits n = true ∧ value = .int n) ∨ (∃ text, value = .str text) ∨
      ∃ on, value = .bool on := by
  cases convert?_eq_some_iff.1 h with
  | port _ _ fits => exact .inl ⟨_, (IntegerRange.fits_iff _).2 fits, rfl⟩
  | pacFile => exact .inr (.inl ⟨_, rfl⟩)
  | switch _ _ _ => exact .inr (.inr ⟨_, rfl⟩)

/-- The value that a text stands for can be stored. -/
theorem storable_of_convert? {key : SettingKey} {raw : String} {value : Json}
    (h : key.convert? raw = some value) : value.Storable := by
  rcases value_of_convert? h with ⟨n, hfits, rfl⟩ | ⟨text, rfl⟩ | ⟨on, rfl⟩
  · obtain ⟨hlow, hhigh⟩ := (IntegerRange.fits_iff n).1 hfits
    exact Json.storable_int (by simpa [IntegerRange.signedBound] using hlow)
      (by simp only [IntegerRange.unsignedBound]; omega)
  · exact Json.storable_str text
  · exact Json.storable_bool on

/-- The value that a text stands for has no members to be put in order. -/
theorem canonical_of_convert? {key : SettingKey} {raw : String} {value : Json}
    (h : key.convert? raw = some value) : value.canonical = value := by
  rcases value_of_convert? h with ⟨n, -, rfl⟩ | ⟨text, rfl⟩ | ⟨on, rfl⟩
  · rfl
  · rfl
  · rfl

end SettingKey

namespace SettingsAction

/-- A value that the backend is asked to set can be stored. -/
def Storable : SettingsAction → Prop
  | rawSet _ value => value.Storable
  | _ => True

/-- The key that an action changes, with its new value, or without one if it is removed.  A name
that is no setting and a text that is no value of its setting change nothing. -/
def edit? : SettingsAction → Option (String × Option Json)
  | setPort port => some (SettingKey.port.name, some (.int port.toNat))
  | setPacFile path => some (SettingKey.pacFile.name, some (.str path.display))
  | setToggle key on => some (key.name, some (.bool on))
  | setFromText name raw =>
    (SettingKey.ofName? name).bind fun key => (key.convert? raw).map fun value => (name, some value)
  | reset name => (SettingKey.ofName? name).map fun _ => (name, none)
  | rawSet key value => some (key, some value.canonical)
  | rawRemove key => some (key, none)
  | _ => none

end SettingsAction

/-! ## Records -/

/-- A record of settings. -/
structure SettingsRecord where
  value? : String → Option Json

namespace SettingsRecord

/-- The record without values. -/
def empty : SettingsRecord := ⟨fun _ => none⟩

/-- The record with another value of a key, or without one. -/
def put (r : SettingsRecord) (key : String) (value : Option Json) : SettingsRecord :=
  ⟨fun other => if other = key then value else r.value? other⟩

/-- The record after a change, if there is one. -/
def edited (r : SettingsRecord) : Option (String × Option Json) → SettingsRecord
  | some (key, value) => r.put key value
  | none => r

/-- The record after a list of actions. -/
def after (r : SettingsRecord) (actions : List SettingsAction) : SettingsRecord :=
  actions.foldl (fun r a => r.edited a.edit?) r

/-- What was put under a key is found there. -/
@[simp]
theorem value?_put_self (r : SettingsRecord) (key : String) (value : Option Json) :
    (r.put key value).value? key = value := by
  simp [put]

/-- The other keys keep their values. -/
theorem value?_put_of_ne (r : SettingsRecord) {key other : String} (value : Option Json)
    (h : other ≠ key) : (r.put key value).value? other = r.value? other := by
  simp [put, h]

end SettingsRecord

instance : SettingsBackend SettingsRecord where
  get r key := .ok (r.value? key)
  set r key value := .ok (r.put key (some value.canonical))
  remove r key := .ok ((r.value? key).isSome, r.put key none)

/-! ## Backends that behave like records -/

variable {σ : Type} [SettingsBackend σ]

/-- A backend behaves like a record that it stands in a relation with. -/
structure Simulates (R : σ → SettingsRecord → Prop) : Prop where
  get : ∀ {b r}, R b r → ∀ key, SettingsBackend.get b key = .ok (r.value? key)
  set : ∀ {b r}, R b r → ∀ key {value : Json}, value.Storable →
    ∃ b', SettingsBackend.set b key value = .ok b' ∧ R b' (r.put key (some value.canonical))
  remove : ∀ {b r}, R b r → ∀ key,
    ∃ b', SettingsBackend.remove b key = .ok ((r.value? key).isSome, b') ∧ R b' (r.put key none)

namespace SettingsStore

/-- What is seen of a step: its answer, its warnings, and the configuration that it leaves. -/
abbrev View := SettingsAnswer × List Log.Entry × Configuration

/-- What a step shows. -/
def Step.view (t : Step σ) : View :=
  (t.answer, t.log, t.store.snapshot)

/-- A store over a backend and one over a record that it behaves like. -/
structure Alike (R : σ → SettingsRecord → Prop) (s : SettingsStore σ)
    (r : SettingsStore SettingsRecord) : Prop where
  backend : R s.backend r.backend
  defaults : s.defaults = r.defaults

/-- Two steps that tell the same and leave stores that are alike. -/
structure StepAlike (R : σ → SettingsRecord → Prop) (t : Step σ) (u : Step SettingsRecord) :
    Prop where
  answer : t.answer = u.answer
  log : t.log = u.log
  store : Alike R t.store u.store

section Alike

variable {R : σ → SettingsRecord → Prop} {s : SettingsStore σ} {r : SettingsStore SettingsRecord}

/-- Stores that are alike read the same. -/
theorem Alike.read_eq (h : Alike R s r) (hR : Simulates R) : s.read = r.read :=
  funext fun key => hR.get h.backend key.name

/-- Stores that are alike show the same configuration. -/
theorem Alike.snapshot_eq (h : Alike R s r) (hR : Simulates R) : s.snapshot = r.snapshot := by
  rw [snapshot, snapshot, h.read_eq hR, h.defaults]

/-- Stores that are alike show the same setting. -/
theorem Alike.readAnswer_eq (h : Alike R s r) (hR : Simulates R) (key : SettingKey) :
    s.readAnswer key = r.readAnswer key := by
  cases key <;> simp only [readAnswer, port, pacFile, negotiate, alwaysUseConnect, directFallback,
    autostart, h.read_eq hR, h.defaults]

/-- Stores that are alike give the same warnings. -/
theorem Alike.warnings_eq (h : Alike R s r) (hR : Simulates R) (keys : List SettingKey) :
    s.warnings keys = r.warnings keys := by
  simp only [warnings, h.read_eq hR]

/-- A value is set in both stores. -/
theorem Alike.ofChange_put (h : Alike R s r) (hR : Simulates R) (key : String) {value : Json}
    (hvalue : value.Storable) :
    StepAlike R (s.ofChange (s.put key value)) (r.ofChange (r.put key value)) := by
  obtain ⟨b, hset, hb⟩ := hR.set h.backend key hvalue
  rw [put, hset]
  exact ⟨rfl, rfl, ⟨hb, h.defaults⟩⟩

/-- A key is removed from both stores, and it was there in both or in neither. -/
theorem Alike.ofRemoval_remove (h : Alike R s r) (hR : Simulates R) (key : String) :
    StepAlike R
      (s.ofRemoval ((SettingsBackend.remove s.backend key).map fun (found, backend) =>
        (found, { s with backend := backend })))
      (r.ofRemoval ((SettingsBackend.remove r.backend key).map fun (found, backend) =>
        (found, { r with backend := backend }))) := by
  obtain ⟨b, hremove, hb⟩ := hR.remove h.backend key
  rw [hremove]
  exact ⟨rfl, rfl, ⟨hb, h.defaults⟩⟩

/-- One action tells the same over a backend as over its record. -/
theorem Alike.step (h : Alike R s r) (hR : Simulates R) {a : SettingsAction} (ha : a.Storable) :
    StepAlike R (s.step a) (r.step a) := by
  cases a with
  | setPort port =>
      have hport := port.toNat_lt
      refine h.ofChange_put hR _ (Json.storable_int ?_ ?_)
      · simp only [IntegerRange.signedBound]
        omega
      · simp only [IntegerRange.unsignedBound]
        omega
  | setPacFile path => exact h.ofChange_put hR _ (Json.storable_str _)
  | setToggle key on => exact h.ofChange_put hR _ (Json.storable_bool _)
  | setFromText name raw =>
      cases hname : SettingKey.ofName? name with
      | none =>
          simp only [SettingsStore.step, setFromText, hname]
          exact ⟨rfl, rfl, h⟩
      | some key =>
          cases hconvert : key.convert? raw with
          | none =>
              simp only [SettingsStore.step, setFromText, hname, hconvert]
              exact ⟨rfl, rfl, h⟩
          | some value =>
              simp only [SettingsStore.step, setFromText, hname, hconvert]
              exact h.ofChange_put hR _ (SettingKey.storable_of_convert? hconvert)
  | reset name =>
      cases hname : SettingKey.ofName? name with
      | none =>
          simp only [SettingsStore.step, reset, hname]
          exact ⟨rfl, rfl, h⟩
      | some key =>
          simp only [SettingsStore.step, reset, hname]
          exact h.ofRemoval_remove hR _
  | read key => exact ⟨h.readAnswer_eq hR key, h.warnings_eq hR [key], h⟩
  | defaults => exact ⟨by simp only [SettingsStore.step, h.defaults], rfl, h⟩
  | snapshotText =>
      refine ⟨?_, h.warnings_eq hR _, h⟩
      simp only [SettingsStore.step, h.snapshot_eq hR]
  | rawGet key =>
      simp only [SettingsStore.step, hR.get h.backend key]
      exact ⟨rfl, rfl, h⟩
  | rawSet key value => exact h.ofChange_put hR _ ha
  | rawRemove key => exact h.ofRemoval_remove hR _

end Alike

/-! ## Lists of actions -/

/-- The store after a list of actions. -/
def last (s : SettingsStore σ) (actions : List SettingsAction) : SettingsStore σ :=
  actions.foldl (fun s a => (s.step a).store) s

/-- Two lists of actions lead where the second leads from the store after the first. -/
theorem last_append (s : SettingsStore σ) (first rest : List SettingsAction) :
    s.last (first ++ rest) = (s.last first).last rest :=
  List.foldl_append

section Alike

variable {R : σ → SettingsRecord → Prop} {s : SettingsStore σ} {r : SettingsStore SettingsRecord}

/-- Stores that are alike stay so through a list of actions. -/
theorem Alike.last (h : Alike R s r) (hR : Simulates R) {actions : List SettingsAction}
    (hactions : ∀ a ∈ actions, a.Storable) : Alike R (s.last actions) (r.last actions) := by
  induction actions generalizing s r with
  | nil => exact h
  | cons a rest ih =>
      exact ih (h.step hR (hactions a List.mem_cons_self)).store
        fun b hb => hactions b (List.mem_cons_of_mem _ hb)

/-- A list of actions tells the same over a backend as over its record, step by step. -/
theorem Alike.steps (h : Alike R s r) (hR : Simulates R) {actions : List SettingsAction}
    (hactions : ∀ a ∈ actions, a.Storable) :
    (s.steps actions).map Step.view = (r.steps actions).map Step.view := by
  induction actions generalizing s r with
  | nil => rfl
  | cons a rest ih =>
      have hstep := h.step hR (hactions a List.mem_cons_self)
      have hview : (s.step a).view = (r.step a).view := by
        rw [Step.view, Step.view, hstep.answer, hstep.log, hstep.store.snapshot_eq hR]
      rw [SettingsStore.steps, SettingsStore.steps, List.map_cons, List.map_cons, hview,
        ih hstep.store fun b hb => hactions b (List.mem_cons_of_mem _ hb)]

end Alike

end SettingsStore

/-! ## What a record holds -/

namespace SettingsAction

/-- What an action leaves under a key, if it changes that key. -/
def editOf? (key : String) (a : SettingsAction) : Option (Option Json) :=
  a.edit?.bind fun edit => if edit.1 = key then some edit.2 else none

/-- What the latest of some actions that changes a key has left there. -/
def recorded (actions : List SettingsAction) (key : String) : Option Json :=
  (actions.reverse.findSome? (editOf? key)).join

/-- The last action leaves its own change, if it has one, and otherwise what was there. -/
theorem recorded_concat (actions : List SettingsAction) (a : SettingsAction) (key : String) :
    recorded (actions ++ [a]) key = (editOf? key a).getD (recorded actions key) := by
  rw [recorded, List.reverse_append, List.reverse_singleton, List.singleton_append,
    List.findSome?_cons]
  cases editOf? key a <;> rfl

/-- A key that the next action leaves alone keeps what is recorded. -/
theorem recorded_concat_of_ne {a : SettingsAction} {key : String}
    (h : ∀ value, a.edit? ≠ some (key, value)) (actions : List SettingsAction) :
    recorded (actions ++ [a]) key = recorded actions key := by
  have hnone : editOf? key a = none := by
    rw [editOf?, Option.bind_eq_none_iff]
    rintro ⟨other, value⟩ hedit
    refine if_neg ?_
    rintro rfl
    exact h value hedit
  rw [recorded_concat, hnone, Option.getD_none]

/-- A record after an action has the change of the action, if there is one for the key. -/
theorem value?_edited (r : SettingsRecord) (a : SettingsAction) (key : String) :
    (r.edited a.edit?).value? key = (editOf? key a).getD (r.value? key) := by
  rw [editOf?]
  cases a.edit? with
  | none => rfl
  | some edit =>
      obtain ⟨other, value⟩ := edit
      by_cases hkey : other = key
      · subst hkey
        simp [SettingsRecord.edited]
      · simp [SettingsRecord.edited, hkey, SettingsRecord.value?_put_of_ne _ _ (Ne.symm hkey)]

end SettingsAction

namespace SettingKey

/-- The port of a value: an integer from 1024 to 65534, or else the default. -/
def portOf (default : UInt16) : Option Json → UInt16
  | some (.int n) => if 1024 ≤ n ∧ n < 65535 then UInt16.ofNat n.toNat else default
  | _ => default

/-- The path of a value: a text, or else the default. -/
def pathOf (default : Path) : Option Json → Path
  | some (.str text) => .ofText text
  | _ => default

/-- Whether a value is the truth value of a switch that is on. -/
def switchOf : Option Json → Bool
  | some (.bool on) => on
  | _ => false

/-- What is shown of a setting for the value under its key. -/
def shown (defaults : ConfigurationDefaults) (key : SettingKey) (value : Option Json) :
    SettingsAnswer :=
  match key with
  | port => .port (portOf defaults.port value)
  | pacFile => .path (pathOf defaults.pacFile value)
  | _ => .flag (switchOf value)

end SettingKey

namespace Reading

/-- A value that was read is shown as a port like the value itself. -/
theorem port?_ok (default : UInt16) (value : Option Json) :
    (port? (.ok value)).getD default = SettingKey.portOf default value := by
  cases value with
  | none => rfl
  | some value =>
      cases value with
      | int n =>
          have hvalid : isValidPort n = true ↔ 1024 ≤ n ∧ n < 65535 := by
            rw [isValidPort, Bool.and_eq_true, decide_eq_true_iff, decide_eq_true_iff]
            rfl
          by_cases h : 1024 ≤ n ∧ n < 65535
          · have hfits : IntegerRange.fits n = true := (IntegerRange.fits_iff n).2 (by omega)
            simp [port?, value?, Json.asInt?, hfits, hvalid.2 h, SettingKey.portOf, h]
          · have hinvalid : isValidPort n = false := Bool.eq_false_iff.2 fun hn => h (hvalid.1 hn)
            simp only [SettingKey.portOf, if_neg h]
            cases hfits : IntegerRange.fits n <;>
              simp [port?, value?, Json.asInt?, hfits, hinvalid]
      | _ => rfl

/-- A value that was read is shown as a path like the value itself. -/
theorem path?_ok (default : Path) (value : Option Json) :
    (path? (.ok value)).getD default = SettingKey.pathOf default value := by
  cases value with
  | none => rfl
  | some value => cases value <;> rfl

/-- A value that was read is shown as a switch like the value itself. -/
theorem isOn_ok (value : Option Json) : isOn (.ok value) = SettingKey.switchOf value := by
  cases value with
  | none => rfl
  | some value => cases value <;> rfl

end Reading

namespace SettingsStore

/-- An action changes a record by its edit. -/
theorem step_record (r : SettingsRecord) (defaults : ConfigurationDefaults) (a : SettingsAction) :
    (step ⟨r, defaults⟩ a).store = ⟨r.edited a.edit?, defaults⟩ := by
  cases a with
  | setFromText name raw =>
      cases hname : SettingKey.ofName? name with
      | none =>
          simp only [step, setFromText, SettingsAction.edit?, hname]
          rfl
      | some key =>
          cases hconvert : key.convert? raw with
          | none =>
              simp only [step, setFromText, SettingsAction.edit?, hname, hconvert, Option.bind_some]
              rfl
          | some value =>
              have hcanonical := SettingKey.canonical_of_convert? hconvert
              simp only [step, setFromText, SettingsAction.edit?, hname, hconvert, put,
                SettingsBackend.set, hcanonical, Option.bind_some]
              rfl
  | reset name =>
      simp only [step, reset, SettingsAction.edit?]
      cases SettingKey.ofName? name with
      | none => rfl
      | some key => rfl
  | _ => rfl

/-- After a list of actions a record that was empty holds what they have recorded. -/
theorem last_record (defaults : ConfigurationDefaults) (actions : List SettingsAction) :
    (SettingsStore.mk SettingsRecord.empty defaults).last actions =
      ⟨⟨SettingsAction.recorded actions⟩, defaults⟩ := by
  induction actions using List.reverseRecOn with
  | nil => rfl
  | append_singleton init a ih =>
      have hrecord : (SettingsRecord.mk (SettingsAction.recorded init)).edited a.edit? =
          ⟨SettingsAction.recorded (init ++ [a])⟩ := by
        refine congrArg SettingsRecord.mk (funext fun key => ?_)
        rw [SettingsAction.recorded_concat]
        exact SettingsAction.value?_edited _ a key
      rw [last_append, ih]
      exact (step_record _ defaults a).trans (by rw [hrecord])

/-- A setting is shown by the value that its reading gives, if failures do not count. -/
theorem readAnswer_eq (s : SettingsStore σ) (key : SettingKey) :
    s.readAnswer key = key.shown s.defaults (s.read key).value? := by
  cases key with
  | port => exact congrArg SettingsAnswer.port (Reading.port?_ok _ _)
  | pacFile => exact congrArg SettingsAnswer.path (Reading.path?_ok _ _)
  | autostart => exact congrArg SettingsAnswer.flag (Reading.isOn_ok _)
  | negotiate => exact congrArg SettingsAnswer.flag (Reading.isOn_ok _)
  | alwaysUseConnect => exact congrArg SettingsAnswer.flag (Reading.isOn_ok _)
  | directFallback => exact congrArg SettingsAnswer.flag (Reading.isOn_ok _)

/-- A setting of a record is shown by the value under its key. -/
theorem readAnswer_record (r : SettingsRecord) (defaults : ConfigurationDefaults)
    (key : SettingKey) :
    (SettingsStore.mk r defaults).readAnswer key = key.shown defaults (r.value? key.name) :=
  readAnswer_eq _ key

end SettingsStore

/-! ## What a store over a record tells -/

/-- What a configuration shows of a setting. -/
def Configuration.field (c : Configuration) : SettingKey → SettingsAnswer
  | .port => .port c.port
  | .pacFile => .path c.pacFile
  | .negotiate => .flag c.negotiate
  | .alwaysUseConnect => .flag c.alwaysUseConnect
  | .directFallback => .flag c.directFallback
  | .autostart => .flag c.autostart

namespace SettingsStore

/-- The configuration shows each setting as the store tells it. -/
theorem field_snapshot (s : SettingsStore σ) (key : SettingKey) :
    s.snapshot.field key = s.readAnswer key := by
  cases key <;> rfl

/-- What changes nothing leaves the store as it is. -/
theorem step_of_edit?_eq_none (s : SettingsStore σ) {a : SettingsAction} (h : a.edit? = none) :
    (s.step a).store = s := by
  cases a with
  | setPort port => cases h
  | setPacFile path => cases h
  | setToggle key on => cases h
  | setFromText name raw =>
      cases hname : SettingKey.ofName? name with
      | none =>
          simp only [step, setFromText, hname]
          rfl
      | some key =>
          have hconvert : key.convert? raw = none := by
            simpa [SettingsAction.edit?, hname] using h
          simp only [step, setFromText, hname, hconvert]
          rfl
  | reset name =>
      have hname : SettingKey.ofName? name = none := by simpa [SettingsAction.edit?] using h
      simp only [step, reset, hname]
      rfl
  | read key => rfl
  | defaults => rfl
  | snapshotText => rfl
  | rawGet key =>
      simp only [step]
      split <;> rfl
  | rawSet key value => cases h
  | rawRemove key => cases h

/-- Over a record only an action that wants to change a setting and cannot fails. -/
theorem failed_step_record_iff (r : SettingsRecord) (defaults : ConfigurationDefaults)
    (a : SettingsAction) :
    (∃ e, ((SettingsStore.mk r defaults).step a).answer = .failed e) ↔
      a.target?.isSome = true ∧ a.edit? = none := by
  -- What succeeds changes something or asks for no change.
  have hsuccess {answer : SettingsAnswer} (hanswer : ∀ e, answer ≠ .failed e)
      (hedit : a.target?.isSome = true → a.edit? ≠ none) :
      (∃ e, answer = .failed e) ↔ a.target?.isSome = true ∧ a.edit? = none :=
    ⟨fun ⟨e, he⟩ => absurd he (hanswer e), fun h => absurd h.2 (hedit h.1)⟩
  have hdone (e : StorageError) : SettingsAnswer.done ≠ .failed e := by simp
  cases a with
  | setPort port => exact hsuccess hdone fun _ => Option.some_ne_none _
  | setPacFile path => exact hsuccess hdone fun _ => Option.some_ne_none _
  | setToggle key on => exact hsuccess hdone fun _ => Option.some_ne_none _
  | setFromText name raw =>
      cases hname : SettingKey.ofName? name with
      | none =>
          simp only [step, setFromText, hname, SettingsAction.edit?, Option.bind_none]
          exact ⟨fun _ => ⟨rfl, trivial⟩, fun _ => ⟨_, rfl⟩⟩
      | some key =>
          cases hconvert : key.convert? raw with
          | none =>
              simp only [step, setFromText, hname, hconvert, SettingsAction.edit?, Option.bind_some]
              exact ⟨fun _ => ⟨rfl, rfl⟩, fun _ => ⟨_, rfl⟩⟩
          | some value =>
              simp only [step, setFromText, hname, hconvert]
              refine hsuccess hdone fun _ => ?_
              simp [SettingsAction.edit?, hname, hconvert]
  | reset name =>
      cases hname : SettingKey.ofName? name with
      | none =>
          simp only [step, reset, hname, SettingsAction.edit?, Option.map_none]
          exact ⟨fun _ => ⟨rfl, trivial⟩, fun _ => ⟨_, rfl⟩⟩
      | some key =>
          simp only [step, reset, hname]
          refine hsuccess (fun e he => ?_) fun _ => ?_
          · cases he
          · simp [SettingsAction.edit?, hname]
  | read key =>
      refine hsuccess (fun e he => ?_) fun h => absurd h Bool.false_ne_true
      cases key <;> cases he
  | defaults =>
      refine hsuccess (fun e he => ?_) fun h => absurd h Bool.false_ne_true
      cases he
  | snapshotText =>
      refine hsuccess (fun e he => ?_) fun h => absurd h Bool.false_ne_true
      simp only [step] at he
      split at he <;> cases he
  | rawGet key =>
      refine hsuccess (fun e he => ?_) fun h => absurd h Bool.false_ne_true
      cases he
  | rawSet key value => exact hsuccess hdone fun _ => Option.some_ne_none _
  | rawRemove key =>
      refine hsuccess (fun e he => ?_) fun _ => Option.some_ne_none _
      cases he

/-- A store is a record of its own for a list of actions: each setting is shown by what its latest
successful change has left, the configuration shows the same, no action on another key shows in
it, what changes nothing leaves the store as it is, and only changes that are none fail. -/
structure BehavesAsRecord (s : SettingsStore σ) (actions : List SettingsAction) : Prop where
  shown : ∀ past, past <+: actions → ∀ key : SettingKey,
    (s.last past).readAnswer key =
      key.shown s.defaults (SettingsAction.recorded past key.name)
  fields : ∀ past, past <+: actions → ∀ key : SettingKey,
    (s.last past).snapshot.field key = (s.last past).readAnswer key
  others : ∀ past a, past ++ [a] <+: actions → ∀ key : SettingKey,
    (∀ value, a.edit? ≠ some (key.name, value)) →
      (s.last (past ++ [a])).readAnswer key = (s.last past).readAnswer key
  unchanged : ∀ past a, past ++ [a] <+: actions → a.edit? = none →
    s.last (past ++ [a]) = s.last past
  failures : ∀ past a, past ++ [a] <+: actions →
    ((∃ e, ((s.last past).step a).answer = .failed e) ↔ a.target?.isSome = true ∧ a.edit? = none)

/-- A store over a backend that behaves like an empty record. -/
theorem Alike.behaves {R : σ → SettingsRecord → Prop} {s : SettingsStore σ}
    (h : Alike R s ⟨.empty, s.defaults⟩) (hR : Simulates R) {actions : List SettingsAction}
    (hactions : ∀ a ∈ actions, a.Storable) : s.BehavesAsRecord actions := by
  have hlast {past : List SettingsAction} (hpast : past <+: actions) :
      Alike R (s.last past) ⟨⟨SettingsAction.recorded past⟩, s.defaults⟩ := by
    rw [← last_record]
    exact h.last hR fun a ha => hactions a (hpast.subset ha)
  have hshown {past : List SettingsAction} (hpast : past <+: actions) (key : SettingKey) :
      (s.last past).readAnswer key =
        key.shown s.defaults (SettingsAction.recorded past key.name) := by
    rw [(hlast hpast).readAnswer_eq hR, readAnswer_record]
  have hinit {past : List SettingsAction} {a : SettingsAction} (hpast : past ++ [a] <+: actions) :
      past <+: actions := (List.prefix_append past [a]).trans hpast
  refine ⟨fun past hpast => hshown hpast, fun past _ => (s.last past).field_snapshot, ?_, ?_, ?_⟩
  · intro past a hpast key hkey
    rw [hshown hpast, hshown (hinit hpast), SettingsAction.recorded_concat_of_ne hkey]
  · intro past a hpast hedit
    rw [last_append]
    exact (s.last past).step_of_edit?_eq_none hedit
  · intro past a hpast
    have ha := hactions a (hpast.subset (by simp))
    rw [((hlast (hinit hpast)).step hR ha).answer]
    exact failed_step_record_iff _ _ a

end SettingsStore

/-! ## Two backends -/

/-- Settings in memory hold what a record holds. -/
structure MemorySettings.Holds (m : MemorySettings) (r : SettingsRecord) : Prop where
  ordered : m.values.Ordered
  value : ∀ key, m.get key = r.value? key

/-- Settings in memory behave like a record. -/
theorem MemorySettings.simulates : Simulates MemorySettings.Holds where
  get h key := congrArg Except.ok (h.value key)
  set {m r} h key value _ := by
    refine ⟨m.set key value, rfl, h.ordered.insert _ _, fun other => ?_⟩
    by_cases hother : other = key
    · subst hother
      rw [SettingsRecord.value?_put_self]
      exact Dict.find?_insert_self _ _ _
    · rw [SettingsRecord.value?_put_of_ne _ _ hother, ← h.value]
      exact Dict.find?_insert_of_ne _ _ hother
  remove {m r} h key := by
    refine ⟨m.remove key, ?_, h.ordered.erase _, fun other => ?_⟩
    · rw [← h.value]
      rfl
    · by_cases hother : other = key
      · subst hother
        rw [SettingsRecord.value?_put_self]
        exact Dict.find?_erase_self h.ordered _
      · rw [SettingsRecord.value?_put_of_ne _ _ hother, ← h.value]
        exact Dict.find?_erase_of_ne _ hother

/-- The rows of a settings table hold what a record holds: each the text of a value. -/
structure DatabaseFile.Holds (f : DatabaseFile) (r : SettingsRecord) : Prop where
  table : ∃ rows, f.name = .table rows ∧ rows.Ordered ∧
    ∀ key, (rows.find? key).map Cell.value? = (r.value? key).map .ok

/-- A stored value is read back in canonical form. -/
theorem Cell.value?_text {value : Json} (h : value.Storable) :
    (text value.canonical.toText).value? = .ok value.canonical := by
  rw [value?, text?, Except.map, h.canonical.ofText?_toText, Option.map_some, Option.getD_some,
    Json.canonical_canonical]

namespace DatabaseFile

variable {f : DatabaseFile} {rows : Dict Cell}

/-- A key of a table is read from its row. -/
theorem get_of_table (h : f.name = .table rows) (key : String) :
    f.get key = (rows.find? key).elim (.ok none) fun cell => cell.value?.map some := by
  rw [get, rows?_of_table h]
  simp only [bind, Except.bind]
  cases rows.find? key with
  | none => rfl
  | some cell => cases cell.value? <;> rfl

/-- A database file with a settings table behaves like a record. -/
theorem simulates : Simulates DatabaseFile.Holds where
  get {f r} h key := by
    obtain ⟨rows, htable, -, hvalue⟩ := h.table
    have hkey := hvalue key
    simp only [SettingsBackend.get, get_of_table htable]
    cases hfind : rows.find? key with
    | none =>
        rw [hfind, Option.map_none] at hkey
        rw [Option.map_eq_none_iff.1 hkey.symm]
        rfl
    | some cell =>
        rw [hfind, Option.map_some] at hkey
        obtain ⟨value, hrecord, hcell⟩ := Option.map_eq_some_iff.1 hkey.symm
        simp only [hrecord, Option.elim_some, ← hcell]
        rfl
  set {f r} h key value hvalue := by
    obtain ⟨rows, htable, hordered, hvalues⟩ := h.table
    simp only [SettingsBackend.set, set_of_table htable]
    refine ⟨_, rfl, ⟨_, rfl, hordered.insert _ _, fun other => ?_⟩⟩
    by_cases hother : other = key
    · subst hother
      rw [SettingsRecord.value?_put_self, Dict.find?_insert_self, Option.map_some,
        Cell.value?_text hvalue, Option.map_some]
    · rw [SettingsRecord.value?_put_of_ne _ _ hother, Dict.find?_insert_of_ne _ _ hother, hvalues]
  remove {f r} h key := by
    obtain ⟨rows, htable, hordered, hvalues⟩ := h.table
    have hfound : rows.contains key = (r.value? key).isSome := by
      rw [Dict.contains, ← Option.isSome_map, hvalues, Option.isSome_map]
    simp only [SettingsBackend.remove, remove_of_table htable, hfound]
    refine ⟨_, rfl, ⟨_, rfl, hordered.erase _, fun other => ?_⟩⟩
    by_cases hother : other = key
    · subst hother
      rw [SettingsRecord.value?_put_self, Dict.find?_erase_self hordered]
      rfl
    · rw [SettingsRecord.value?_put_of_ne _ _ hother, Dict.find?_erase_of_ne _ hother, hvalues]

end DatabaseFile
end ProxyControl
