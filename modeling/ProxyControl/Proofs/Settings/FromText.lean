import ProxyControl.Proofs.Settings.Slots

/-!
# Settings given as text

A setting that is given as text is stored if its name is one of the six and the text means a value
of it, and if the backend takes the value.  In every other case nothing changes; the backend is not
even asked unless there is a value.

Main results:

- Theorem `SettingKey.ofName?_eq_some_iff`: the names of the settings.
- Structure `SettingsStore.TakesText`: what a text does to a store.
- Theorem `SettingsStore.takesText`: it does so over every backend with slots.
-/

namespace ProxyControl

namespace SettingKey

/-- A name is that of the setting which has it. -/
theorem ofName?_eq_some_iff {name : String} {key : SettingKey} :
    ofName? name = some key ↔ key.name = name := by
  constructor
  · intro h
    simpa using List.find?_some h
  · rintro rfl
    exact ofName?_name key

/-- A name is unknown if no setting has it. -/
theorem ofName?_eq_none_iff {name : String} :
    ofName? name = none ↔ ∀ key : SettingKey, key.name ≠ name := by
  rw [Option.eq_none_iff_forall_ne_some]
  simp only [ne_eq, ofName?_eq_some_iff]

/-- No setting has the name, or the text means nothing for the setting of the name, or a value. -/
theorem cases_of_text (name raw : String) :
    (∀ key : SettingKey, key.name ≠ name) ∨
      (∃ key : SettingKey, key.name = name ∧ ∀ value, ¬ key.Means raw value) ∨
      ∃ (key : SettingKey) (value : Json), key.name = name ∧ key.Means raw value := by
  by_cases hname : ∀ key : SettingKey, key.name ≠ name
  · exact .inl hname
  · obtain ⟨key, hkey⟩ := not_forall_not.1 hname
    by_cases hraw : ∃ value, key.Means raw value
    · obtain ⟨value, hvalue⟩ := hraw
      exact .inr (.inr ⟨key, value, hkey, hvalue⟩)
    · exact .inr (.inl ⟨key, hkey, not_exists.1 hraw⟩)

/-- A port that is stored is shown if it is valid, and the default otherwise. -/
theorem shows_port_of_int (default : UInt16) (n : Int) :
    (1024 ≤ n ∧ n < 65535 → ((portOf default (some (.int n))).toNat : Int) = n) ∧
      (¬ (1024 ≤ n ∧ n < 65535) → portOf default (some (.int n)) = default) := by
  constructor
  · intro hrange
    rw [portOf, if_pos hrange, UInt16.toNat_ofNat']
    omega
  · intro hrange
    rw [portOf, if_neg hrange]

end SettingKey

namespace SettingsStore

variable {σ : Type} [SettingsBackend σ]

/-! ## What a text is answered with -/

section Answers

variable (s : SettingsStore σ) {name raw : String}

/-- A text for an unknown setting is refused by the name. -/
theorem setFromText_of_unknown (h : ∀ key : SettingKey, key.name ≠ name) :
    s.setFromText name raw = .error (.unknownKey name) := by
  rw [setFromText, SettingKey.ofName?_eq_none_iff.2 h]

/-- A text that means nothing for its setting is refused by the name and the text. -/
theorem setFromText_of_invalid {key : SettingKey} (hkey : key.name = name)
    (h : ∀ value, ¬ key.Means raw value) :
    s.setFromText name raw = .error (.invalidValue name raw) := by
  have hnone : key.convert? raw = none := by
    rw [Option.eq_none_iff_forall_ne_some]
    exact fun value hvalue => h value (SettingKey.convert?_eq_some_iff.1 hvalue)
  simp only [setFromText, SettingKey.ofName?_eq_some_iff.2 hkey, hnone]

/-- Any other text is stored as the value that it means. -/
theorem setFromText_of_means {key : SettingKey} {value : Json} (hkey : key.name = name)
    (h : key.Means raw value) : s.setFromText name raw = s.put name value := by
  simp only [setFromText, SettingKey.ofName?_eq_some_iff.2 hkey,
    SettingKey.convert?_eq_some_iff.2 h]

/-- The three answers to a text. -/
theorem setFromText_cases (name raw : String) :
    ((∀ key : SettingKey, key.name ≠ name) ∧
        s.setFromText name raw = .error (.unknownKey name)) ∨
      (∃ key : SettingKey, key.name = name ∧ (∀ value, ¬ key.Means raw value) ∧
        s.setFromText name raw = .error (.invalidValue name raw)) ∨
      ∃ (key : SettingKey) (value : Json), key.name = name ∧ key.Means raw value ∧
        s.setFromText name raw = s.put name value := by
  rcases SettingKey.cases_of_text name raw with hname | ⟨key, hkey, hraw⟩ | ⟨key, value, hkey, h⟩
  · exact .inl ⟨hname, s.setFromText_of_unknown hname⟩
  · exact .inr (.inl ⟨key, hkey, hraw, s.setFromText_of_invalid hkey hraw⟩)
  · exact .inr (.inr ⟨key, value, hkey, h, s.setFromText_of_means hkey h⟩)

end Answers

/-- A value that is put into a store is set in its backend. -/
theorem set_of_put {s t : SettingsStore σ} {name : String} {value : Json}
    (h : s.put name value = .ok t) :
    SettingsBackend.set s.backend name value = .ok t.backend ∧ t.defaults = s.defaults := by
  rw [put] at h
  cases hset : SettingsBackend.set s.backend name value with
  | error e =>
      rw [hset] at h
      cases h
  | ok backend =>
      rw [hset] at h
      cases h
      exact ⟨rfl, rfl⟩

/-- A value that cannot be put into a store is refused by its backend. -/
theorem set_of_put_error {s : SettingsStore σ} {name : String} {value : Json} {e : StorageError}
    (h : s.put name value = .error e) : SettingsBackend.set s.backend name value = .error e := by
  rw [put] at h
  cases hset : SettingsBackend.set s.backend name value with
  | error e =>
      rw [hset] at h
      cases h
      rfl
  | ok backend =>
      rw [hset] at h
      cases h

/-! ## What a text does -/

variable [SlottedBackend σ]

/-- What a setting that is given as text does to a store. -/
structure TakesText (s : SettingsStore σ) (name raw : String) : Prop where
  /-- A name is unknown if it is none of the six. -/
  unknown : ∀ n, s.setFromText name raw = .error (.unknownKey n) ↔
    n = name ∧ ∀ key : SettingKey, key.name ≠ name
  /-- A text is invalid if it means nothing for the setting. -/
  invalid : ∀ n r, s.setFromText name raw = .error (.invalidValue n r) ↔
    (n = name ∧ r = raw) ∧ ∃ key : SettingKey, key.name = name ∧ ∀ value, ¬ key.Means raw value
  /-- Otherwise the backend is asked to take the value that the text means. -/
  asked : ∀ (key : SettingKey) (value : Json), key.name = name → key.Means raw value →
    s.setFromText name raw =
      (SettingsBackend.set s.backend name value).map fun backend => ⟨backend, s.defaults⟩
  /-- What is stored is that value under that key, and nothing else changes. -/
  stored : ∀ t, s.setFromText name raw = .ok t →
    ∃ (key : SettingKey) (value : Json), key.name = name ∧ key.Means raw value ∧
      SlottedBackend.slot t.backend name = some (SlottedBackend.entry value) ∧
      (∀ other, other ≠ name →
        SlottedBackend.slot t.backend other = SlottedBackend.slot s.backend other) ∧
      t.defaults = s.defaults
  /-- If a stored port can be read, it is the port, unless it is out of range. -/
  port : ∀ t n found, name = SettingKey.port.name → SettingKey.port.Means raw (.int n) →
    s.setFromText name raw = .ok t → t.read .port = .ok found →
    (1024 ≤ n ∧ n < 65535 → (t.port.toNat : Int) = n) ∧
      (¬ (1024 ≤ n ∧ n < 65535) → t.port = s.defaults.port)
  /-- A failure leaves the store as it is. -/
  unchanged : ∀ e, s.setFromText name raw = .error e →
    (s.step (.setFromText name raw)).answer = .failed e ∧
      (s.step (.setFromText name raw)).store = s
  /-- Without a value to store, the answer is the same whatever backend there is, and however it
  would answer: it is not asked. -/
  unasked : (∀ (key : SettingKey) (value : Json), key.name = name → ¬ key.Means raw value) →
    ∃ e, ∀ (τ : Type) [SettingsBackend τ] (t : SettingsStore τ), t.setFromText name raw = .error e

/-- A setting that is given as text is stored if there is such a setting, if the text means a value
of it and if the backend takes the value; otherwise nothing changes. -/
theorem takesText (s : SettingsStore σ) (name raw : String) : s.TakesText name raw := by
  have hcases := s.setFromText_cases name raw
  have hmeans {t : SettingsStore σ} (h : s.setFromText name raw = .ok t) :
      ∃ (key : SettingKey) (value : Json), key.name = name ∧ key.Means raw value ∧
        s.put name value = .ok t := by
    rcases hcases with ⟨-, h'⟩ | ⟨_, -, -, h'⟩ | ⟨key, value, hkey, hvalue, h'⟩
    · cases h'.symm.trans h
    · cases h'.symm.trans h
    · exact ⟨key, value, hkey, hvalue, h'.symm.trans h⟩
  constructor
  case unknown =>
    intro n
    constructor
    · intro h
      rcases hcases with ⟨hname, h'⟩ | ⟨_, -, -, h'⟩ | ⟨_, value, -, -, h'⟩
      · cases h'.symm.trans h
        exact ⟨rfl, hname⟩
      · cases h'.symm.trans h
      · exact absurd rfl ((SlottedBackend.set_error (set_of_put_error (h'.symm.trans h))).1 n)
    · rintro ⟨rfl, hname⟩
      exact s.setFromText_of_unknown hname
  case invalid =>
    intro n r
    constructor
    · intro h
      rcases hcases with ⟨_, h'⟩ | ⟨key, hkey, hraw, h'⟩ | ⟨_, value, -, -, h'⟩
      · cases h'.symm.trans h
      · cases h'.symm.trans h
        exact ⟨⟨rfl, rfl⟩, key, hkey, hraw⟩
      · exact absurd rfl ((SlottedBackend.set_error (set_of_put_error (h'.symm.trans h))).2 n r)
    · rintro ⟨⟨rfl, rfl⟩, key, hkey, hraw⟩
      exact s.setFromText_of_invalid hkey hraw
  case asked => exact fun key value hkey hvalue => s.setFromText_of_means hkey hvalue
  case stored =>
    intro t h
    obtain ⟨key, value, hkey, hvalue, hput⟩ := hmeans h
    obtain ⟨hset, hdefaults⟩ := set_of_put hput
    exact ⟨key, value, hkey, hvalue, SlottedBackend.slot_set_self hset,
      fun other hother => SlottedBackend.slot_set_of_ne hset hother, hdefaults⟩
  case port =>
    rintro t n found rfl hvalue h hread
    have hput := (s.setFromText_of_means rfl hvalue).symm.trans h
    obtain ⟨hset, hdefaults⟩ := set_of_put hput
    have hconvert := SettingKey.convert?_eq_some_iff.2 hvalue
    have hfound : found = some (.int n) :=
      SlottedBackend.get_entry (SettingKey.storable_of_convert? hconvert)
        (SlottedBackend.slot_set_self hset) hread
    have hport : t.port = SettingKey.portOf s.defaults.port (some (.int n)) := by
      rw [port, hread, Reading.port?_ok, hfound, hdefaults]
    rw [hport]
    exact SettingKey.shows_port_of_int _ _
  case unchanged =>
    intro e h
    simp only [step, h]
    exact ⟨rfl, rfl⟩
  case unasked =>
    intro hnone
    rcases SettingKey.cases_of_text name raw with hname | ⟨key, hkey, hraw⟩ | ⟨key, value, hkey, h⟩
    · exact ⟨_, fun _ _ t => t.setFromText_of_unknown hname⟩
    · exact ⟨_, fun _ _ t => t.setFromText_of_invalid hkey hraw⟩
    · exact absurd h (hnone key value hkey)

/-- A store whose backend refuses to take a path. -/
def withoutPaths : SettingsStore RefusingSettings :=
  ⟨{ unwritable := ["PacFile"] }, ⟨3128, .ofText "proxy.pac"⟩⟩

/-- A port with a sign, a needless zero and blanks is stored and shown; a path is refused, and
nothing changes. -/
theorem takesText_withoutPaths :
    (∃ t, withoutPaths.setFromText "Port" " +08080\n" = .ok t ∧ t.port.toNat = 8080) ∧
      (withoutPaths.step (.setFromText "PacFile" "a.pac")).store = withoutPaths := by
  have hmeans : SettingKey.port.Means " +08080\n" (.int 8080) :=
    SettingKey.convert?_eq_some_iff.1 rfl
  have hstored : ∃ t, withoutPaths.setFromText "Port" " +08080\n" = .ok t ∧
      t.read .port = .ok (some (.int 8080)) := by
    rw [(withoutPaths.takesText "Port" " +08080\n").asked .port (.int 8080) rfl hmeans]
    exact ⟨_, rfl, rfl⟩
  obtain ⟨t, ht, hread⟩ := hstored
  have hport := (withoutPaths.takesText "Port" " +08080\n").port t 8080 _ rfl hmeans ht hread
  have hrefused : withoutPaths.setFromText "PacFile" "a.pac" = .error (.config "write refused") :=
    (withoutPaths.takesText "PacFile" "a.pac").asked .pacFile (.str "a.pac") rfl (.pacFile _)
  refine ⟨⟨t, ht, by exact_mod_cast hport.1 (by decide)⟩, ?_⟩
  exact ((withoutPaths.takesText "PacFile" "a.pac").unchanged _ hrefused).2

end SettingsStore
end ProxyControl
